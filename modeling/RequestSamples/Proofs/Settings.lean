import Mathlib.Data.List.TakeWhile
import RequestSamples.Proofs.Entries
import RequestSamples.Proofs.Numeral.Spelling
import RequestSamples.Settings

/-!
# What the settings accept

A seed of ASCII characters is the integer that is spelled between the blanks at its ends (`readSeed_of_spells`); there
is none if there are blanks only, and else a failure that names the variable and shows the text
(`readSeed_of_unspelled`).  So exactly the spellings of integers are seeds, among them all usual forms of every integer,
and it makes no difference for them that they are read in two ways (`seed_reads_spellings`).

A log level is a number or a name in any case.  Every other text is reported in the same way, unless it consists of
digits that do not make a number: then the failure to read the number gets out, and it does not name the variable
(`level_reported_iff`).
-/

namespace RequestSamples.Settings

open RequestSamples.Numeral (Form IsAscii Spells readDecimal? readLiteral?)
open RequestSamples.Text (Trimmed)

/-- The failure is an error of values that names a setting and shows its text in quotes. -/
structure Blames (e : Failure) (setting words : String) (shown : List Char) : Prop where
  kind : e.kind = "ValueError"
  message : e.message = setting ++ words ++ String.ofList (Text.Quoted.text shown)

private theorem quotedText_text (s : String) : (Value.text s).quotedText = String.ofList
    (Text.Quoted.text s.toList) := rfl

private theorem quotedText_ofList (cs : List Char) :
    (Value.text (String.ofList cs)).quotedText = String.ofList (Text.Quoted.text cs) := by
  rw [quotedText_text, String.toList_ofList]

variable {env : Environment} {cs body : List Char} {t : String}

private theorem seed_eq (hset : env.lookup seedVariable = some t) : seed env = readSeed t.toList := by
  rw [seed, hset]

private theorem readSeed_of_blank (h : Trimmed cs []) : readSeed cs = .ok none := by
  rw [readSeed, h.trim_eq]
  rfl

private theorem readSeed_of_read? (hbody : Trimmed cs body) (hne : body ≠ []) :
    readSeed cs = match Numeral.read? body with
      | some n => .ok (some n)
      | none => .error (.malformedSeed (String.ofList body)) := by
  have hempty : ¬body.isEmpty = true := fun h => hne (List.isEmpty_iff.mp h)
  rw [readSeed, hbody.trim_eq]
  exact if_neg hempty

private theorem ne_nil_of_spells {n : Int} (h : Spells body n) : body ≠ [] := by
  obtain ⟨hsign, hnumber⟩ := h
  obtain ⟨c, rest, rfl, -⟩ := hnumber.head
  exact List.append_ne_nil_of_right_ne_nil _ (List.cons_ne_nil c rest)

theorem readSeed_of_spells {n : Int} (hbody : Trimmed cs body) (h : Spells body n) : readSeed cs = .ok (some n) := by
  rw [readSeed_of_read? hbody (ne_nil_of_spells h), (Numeral.read?_eq_some_iff h.isAscii).mpr h]

private theorem malformedSeed_blames (cs : List Char) :
    Blames (.malformedSeed (String.ofList cs)) seedVariable " must be an integer, not " cs := by
  have hwords : seedVariable ++ " must be an integer, not " = "KSAMPLE_SEED must be an integer, not " := by
    decide +kernel
  refine ⟨rfl, ?_⟩
  rw [hwords, ← quotedText_ofList]
  rfl

theorem readSeed_of_unspelled (hbody : Trimmed cs body) (ascii : IsAscii body) (hne : body ≠ [])
    (h : ∀ n, ¬Spells body n) :
    ∃ e, readSeed cs = .error e ∧ Blames e seedVariable " must be an integer, not " body := by
  have hnone : Numeral.read? body = none := by
    rw [Option.eq_none_iff_forall_ne_some]
    intro n hn
    exact h n ((Numeral.read?_eq_some_iff ascii).mp hn)
  refine ⟨_, ?_, malformedSeed_blames body⟩
  rw [readSeed_of_read? hbody hne, hnone]

private theorem isAscii_of_trimmed (hbody : Trimmed cs body) (ascii : IsAscii cs) : IsAscii body := by
  obtain ⟨before, after, rfl, -, -⟩ := hbody.between
  intro c hc
  exact ascii c (List.mem_append_left after (List.mem_append_right before hc))

/-- The seeds are the spellings of integers.  The forms of an integer are among them, and the two ways of reading never
disagree. -/
theorem seed_reads_spellings :
    (∀ (env : Environment) (t : String), env.lookup seedVariable = some t → IsAscii t.toList →
      ∃ body, Trimmed t.toList body ∧ (body = [] → seed env = .ok none) ∧
        (∀ n, Spells body n → seed env = .ok (some n)) ∧
        (body ≠ [] → (∀ n, ¬Spells body n) →
          ∃ e, seed env = .error e ∧ Blames e seedVariable " must be an integer, not " body)) ∧
    (∀ (n : Int) (form : List Char), Form n form → ∀ env : Environment,
      env.lookup seedVariable = some (String.ofList form) → seed env = .ok (some n)) ∧
    ∀ (cs : List Char) (m n : Int), readLiteral? cs = some m → readDecimal? cs = some n → m = n := by
  refine ⟨?_, ?_, ?_⟩
  · intro env t hset ascii
    have hbody := Text.trimmed_trim t.toList
    rw [seed_eq hset]
    refine ⟨Text.trim t.toList, hbody, ?_, ?_, ?_⟩
    · intro hempty
      rw [hempty] at hbody
      exact readSeed_of_blank hbody
    · intro n h
      exact readSeed_of_spells hbody h
    · intro hne h
      exact readSeed_of_unspelled hbody (isAscii_of_trimmed hbody ascii) hne h
  · intro n form hform env hset
    rw [seed_eq hset, String.toList_ofList]
    exact readSeed_of_spells hform.spells.trimmed hform.spells
  · intro cs m n hliteral hdecimal
    exact Numeral.literal_eq_decimal hliteral hdecimal

theorem seed_reads_spellings_odd_texts :
    seed [(seedVariable, " -0x_1F\n")] = .ok (some (-31)) ∧ seed [(seedVariable, "-007")] = .ok (some (-7)) ∧
      seed [(seedVariable, "\t ")] = .ok none ∧ ∃ e, seed [(seedVariable, " 1__0")] = .error e ∧
        Blames e seedVariable " must be an integer, not " ['1', '_', '_', '0'] := by
  obtain ⟨htexts, hforms, -⟩ := seed_reads_spellings
  refine ⟨?_, ?_, ?_, ?_⟩
  · obtain ⟨body, htrim, -, hread, -⟩ := htexts [(seedVariable, " -0x_1F\n")] _ rfl (by decide +kernel)
    have hbody : Text.trim " -0x_1F\n".toList = ['-'] ++ '0' :: 'x' :: (['_'] ++ ['1', 'F']) := by decide +kernel
    apply hread
    rw [← htrim.trim_eq, hbody]
    have hdigits : Numeral.Spelled 16 ['1', 'F'] [1, 15] := .next (by decide) (.last (by decide))
    have hsign : (['-'], -1) ∈ Numeral.signs := by decide
    have hletter : ('x', 16) ∈ Numeral.letters := by decide
    exact .intro hsign (.prefixed hletter (.inr rfl) hdigits)
  · exact hforms (-7) _ (.decimal 2 (by decide)) _ rfl
  · obtain ⟨body, htrim, hblank, -⟩ := htexts [(seedVariable, "\t ")] _ rfl (by decide +kernel)
    have hbody : Text.trim "\t ".toList = [] := by decide +kernel
    apply hblank
    rw [← htrim.trim_eq, hbody]
  · obtain ⟨body, htrim, -, -, hother⟩ := htexts [(seedVariable, " 1__0")] _ rfl (by decide +kernel)
    have hbody : Text.trim " 1__0".toList = ['1', '_', '_', '0'] := by decide +kernel
    rw [htrim.trim_eq] at hbody
    subst hbody
    have hnone : Numeral.read? ['1', '_', '_', '0'] = none := by decide +kernel
    apply hother (List.cons_ne_nil _ _)
    intro n hn
    rw [← Numeral.read?_eq_some_iff hn.isAscii, hnone] at hn
    cases hn

/-- A level was found, or the failure names the variable and shows what is no level. -/
def Reported (name : List Char) (r : Except Failure Int) : Prop :=
  (∃ level, r = .ok level ∧ 0 ≤ level) ∨ ∃ e, r = .error e ∧ Blames e levelVariable " is not a logging level: " name

/-- The text consists of digits, but it is too long for a number or has a digit that is not decimal. -/
def Unreadable (name : List Char) : Prop :=
  Text.isDigits name = true ∧ (4300 < name.length ∨ ∃ c ∈ name, Text.decimalDigit? c = none)

private theorem length_filterMap_takeWhile {α β : Type} (f : α → Option β) (xs : List α) :
    ((xs.takeWhile fun x => (f x).isSome).filterMap f).length = (xs.takeWhile fun x => (f x).isSome).length := by
  induction xs with
  | nil => rfl
  | cons x xs ih =>
    cases hx : f x with
    | none => simp [hx]
    | some y => simp [hx, ih]

/-- The text is a number if all its digits are decimal and they are not too many. -/
private theorem readNumber_of_decimal {name : List Char} (h : ∀ c ∈ name, (Text.decimalDigit? c).isSome = true)
    (short : name.length ≤ 4300) :
    readNumber name = .ok (Numeral.ofDigits 10 (name.filterMap Text.decimalDigit?)) := by
  have hall : (name.takeWhile fun c => (Text.decimalDigit? c).isSome) = name := List.takeWhile_eq_self_iff.mpr h
  have hlength := length_filterMap_takeWhile Text.decimalDigit? name
  rw [hall] at hlength
  have hlong : ¬Numeral.maxDigits < (name.filterMap Text.decimalDigit?).length := by
    rw [hlength]
    exact Nat.not_lt.mpr short
  have hrest : ¬(name.filterMap Text.decimalDigit?).length < name.length := by omega
  rw [readNumber, hall, if_neg hlong, if_neg hrest]

private theorem readNumber_of_not_decimal {name : List Char}
    (h : 4300 < name.length ∨ ∃ c ∈ name, Text.decimalDigit? c = none) :
    ∃ e, readNumber name = .error e ∧ (e = .malformedNumber (String.ofList name) ∨ ∃ n, e = .longNumber n) := by
  unfold readNumber
  dsimp only
  split
  · exact ⟨_, rfl, .inr ⟨_, rfl⟩⟩
  · rename_i hshort
    rw [length_filterMap_takeWhile] at hshort ⊢
    have hless : (name.takeWhile fun c => (Text.decimalDigit? c).isSome).length < name.length := by
      by_contra hnot
      have hstart := List.takeWhile_prefix (fun c => (Text.decimalDigit? c).isSome) (l := name)
      have hall := hstart.eq_of_length (Nat.le_antisymm hstart.length_le (Nat.not_lt.mp hnot))
      rw [hall] at hshort
      rcases h with hlong | ⟨c, hc, hnone⟩
      · exact hshort hlong
      · have hsome := List.takeWhile_eq_self_iff.mp hall c hc
        rw [hnone] at hsome
        cases hsome
    rw [if_pos hless]
    exact ⟨_, rfl, .inl rfl⟩

private theorem malformedLevel_blames (cs : List Char) :
    Blames (.malformedLevel (String.ofList cs)) levelVariable " is not a logging level: " cs := by
  have hwords : levelVariable ++ " is not a logging level: " = "KSAMPLE_LOG_LEVEL is not a logging level: " := by
    decide +kernel
  refine ⟨rfl, ?_⟩
  rw [hwords, ← quotedText_ofList]
  rfl

/-- What cannot be read as a number is not reported as a level: already the first letters differ. -/
private theorem not_blames_of_number {e : Failure} {s : String} (h : e = .malformedNumber s ∨ ∃ n, e = .longNumber n)
    (name : List Char) : ¬Blames e levelVariable " is not a logging level: " name := by
  have hvariable : levelVariable = "K" ++ "SAMPLE_LOG_LEVEL" := by decide +kernel
  have hletter : ∀ s : String, ("K" ++ "SAMPLE_LOG_LEVEL" ++ s).toList.head? = some 'K' := by
    intro s
    rw [String.toList_append, String.toList_append]
    rfl
  intro hblames
  have hmessage := hblames.message
  rw [hvariable, String.append_assoc] at hmessage
  have hhead := hletter (" is not a logging level: " ++ String.ofList (Text.Quoted.text name))
  rw [← hmessage] at hhead
  rcases h with rfl | ⟨n, rfl⟩
  · have hnumber : (Failure.malformedNumber s).message.toList.head? = some 'i' := by
      show ("invalid literal for int() with base 10: " ++ Failure.shortened s).toList.head? = _
      rw [String.toList_append]
      rfl
    rw [hnumber] at hhead
    exact absurd hhead (by decide)
  · have hnumber : (Failure.longNumber n).message.toList.head? = some 'E' := by
      show ("Exceeds the limit (4300 digits) for integer string conversion: value has " ++
        String.ofList (Numeral.write n) ++ _).toList.head? = _
      rw [String.toList_append, String.toList_append]
      rfl
    rw [hnumber] at hhead
    exact absurd hhead (by decide)

private theorem logLevel_eq (hset : env.lookup levelVariable = some t) : logLevel env = readLevel t.toList := by
  rw [logLevel, hset]
  rfl

private theorem readLevel_of_digits (hbody : Trimmed cs body) (h : Text.isDigits (Text.upper body) = true) :
    readLevel cs = readNumber (Text.upper body) := by
  rw [readLevel, hbody.trim_eq, if_pos h]

private theorem readLevel_of_name (hbody : Trimmed cs body) (h : ¬Text.isDigits (Text.upper body) = true) :
    readLevel cs = match levels.lookup (String.ofList (Text.upper body)) with
      | some n => .ok n
      | none => .error (.malformedLevel (String.ofList (Text.upper body))) := by
  rw [readLevel, hbody.trim_eq]
  exact if_neg h

/-- Everything is reported but digits that do not make a number. -/
private theorem reported_readLevel_iff (hbody : Trimmed cs body) :
    Reported (Text.upper body) (readLevel cs) ↔ ¬Unreadable (Text.upper body) := by
  by_cases hdigits : Text.isDigits (Text.upper body) = true
  · rw [readLevel_of_digits hbody hdigits]
    constructor
    · rintro hreported ⟨-, hbad⟩
      obtain ⟨e, he, hnumber⟩ := readNumber_of_not_decimal hbad
      rw [he] at hreported
      rcases hreported with ⟨level, h, -⟩ | ⟨e', h, hblames⟩
      · cases h
      · cases h
        exact not_blames_of_number hnumber _ hblames
    · intro hreadable
      have hshort : (Text.upper body).length ≤ 4300 :=
        Nat.not_lt.mp fun hlong => hreadable ⟨hdigits, .inl hlong⟩
      have hdecimal : ∀ c ∈ Text.upper body, (Text.decimalDigit? c).isSome = true := by
        intro c hc
        by_contra hnone
        exact hreadable ⟨hdigits, .inr ⟨c, hc, Option.not_isSome_iff_eq_none.mp hnone⟩⟩
      rw [readNumber_of_decimal hdecimal hshort]
      exact .inl ⟨_, rfl, Int.natCast_nonneg _⟩
  · rw [readLevel_of_name hbody hdigits]
    refine iff_of_true ?_ fun h => hdigits h.1
    cases hlookup : levels.lookup (String.ofList (Text.upper body)) with
    | none => exact .inr ⟨_, rfl, malformedLevel_blames _⟩
    | some n =>
      have hlevels : ∀ p ∈ levels, 0 ≤ p.2 := by decide
      exact .inl ⟨n, rfl, hlevels _ (mem_of_lookup hlookup)⟩

private theorem upper_ascii {cs : List Char} (ascii : IsAscii cs) : Text.upper cs = cs.map Char.toUpper := by
  induction cs with
  | nil => rfl
  | cons c cs ih =>
    have hc : c.toNat < 128 := ascii c List.mem_cons_self
    have hchar : Text.upperChar c = [c.toUpper] := by rw [Text.upperChar, if_pos hc]
    rw [List.map_cons, ← ih ascii.tail, Text.upper, List.flatMap_cons, hchar]
    rfl

private theorem toNat_lt_of_toUpper {c : Char} (h : c.toUpper.toNat < 128) : c.toNat < 128 := by
  unfold Char.toUpper at h
  split at h
  · rename_i hlower
    have hz : c.toNat ≤ 122 := hlower.2
    omega
  · exact h

private theorem decimalDigit?_of_isDigit {c : Char} (h : c.isDigit = true) :
    c.toNat < 128 ∧ c.toUpper = c ∧ Text.decimalDigit? c = some (c.toNat - 0x30) := by
  have hc : c.toNat < 128 := by
    rw [Char.isDigit, Bool.and_eq_true, decide_eq_true_eq, decide_eq_true_eq] at h
    have hnine : c.toNat ≤ 57 := h.2
    omega
  refine ⟨hc, ?_, ?_⟩
  · exact Numeral.ascii_induction (P := fun c => c.isDigit = true → c.toUpper = c) (by decide +kernel) hc h
  · rw [Text.decimalDigit?, if_pos hc, if_pos h]

/-- A run of ASCII digits is the number that it spells. -/
private theorem readLevel_of_ascii_digits (hbody : Trimmed cs body) (hne : body ≠ []) (h : ∀ c ∈ body, c.isDigit = true)
    (short : body.length ≤ 4300) :
    readLevel cs = .ok (Nat.ofDigits 10 (body.map fun c => c.toNat - 0x30).reverse : Nat) := by
  have hupper : Text.upper body = body := by
    calc Text.upper body = body.map Char.toUpper := upper_ascii fun c hc => (decimalDigit?_of_isDigit (h c hc)).1
      _ = body.map id := List.map_congr_left fun c hc => (decimalDigit?_of_isDigit (h c hc)).2.1
      _ = body := List.map_id body
  have hdecimal : ∀ c ∈ body, (Text.decimalDigit? c).isSome = true := by
    intro c hc
    rw [(decimalDigit?_of_isDigit (h c hc)).2.2]
    rfl
  have hdigits : Text.isDigits (Text.upper body) = true := by
    rw [hupper, Text.isDigits, Bool.and_eq_true, List.all_eq_true]
    refine ⟨by simpa using hne, ?_⟩
    intro c hc
    rw [Text.isDigit, hdecimal c hc, Bool.true_or]
  have hvalues : body.filterMap Text.decimalDigit? = body.map fun c => c.toNat - 0x30 := by
    rw [← List.filterMap_eq_map]
    exact List.filterMap_congr fun c hc => (decimalDigit?_of_isDigit (h c hc)).2.2
  rw [readLevel_of_digits hbody hdigits, hupper, readNumber_of_decimal hdecimal short, hvalues, Numeral.ofDigits_eq]

/-- The name of a level, in any case, is its number. -/
private theorem readLevel_of_level {name : String} {n : Int} (hbody : Trimmed cs body) (hlevel : (name, n) ∈ levels)
    (h : body.map Char.toUpper = name.toList) : readLevel cs = .ok n := by
  have hnames : ∀ p ∈ levels, IsAscii p.1.toList ∧ ¬Text.isDigits p.1.toList = true ∧ levels.lookup p.1 = some p.2 := by
    decide +kernel
  obtain ⟨hname, hdigits, hlookup⟩ := hnames (name, n) hlevel
  have ascii : IsAscii body := by
    intro c hc
    apply toNat_lt_of_toUpper
    apply hname
    rw [← h]
    exact List.mem_map_of_mem hc
  have hupper : Text.upper body = name.toList := by rw [upper_ascii ascii, h]
  have hnodigits : ¬Text.isDigits (Text.upper body) = true := by rwa [hupper]
  rw [readLevel_of_name hbody hnodigits, hupper, String.ofList_toList, hlookup]

/-- Numbers and names of levels are levels, and every other text is reported by the variable's own failure, but for
texts of digits that are too long or not all decimal. -/
theorem level_reported_iff (env : Environment) (t : String) (hset : env.lookup levelVariable = some t) :
    ∃ body, Trimmed t.toList body ∧
      (body ≠ [] → (∀ c ∈ body, c.isDigit = true) → body.length ≤ 4300 →
        logLevel env = .ok (Nat.ofDigits 10 (body.map fun c => c.toNat - 0x30).reverse : Nat)) ∧
      (∀ name n, (name, n) ∈ levels → body.map Char.toUpper = name.toList → logLevel env = .ok n) ∧
      (Reported (Text.upper body) (logLevel env) ↔ ¬Unreadable (Text.upper body)) := by
  have hbody := Text.trimmed_trim t.toList
  rw [logLevel_eq hset]
  refine ⟨Text.trim t.toList, hbody, ?_, ?_, reported_readLevel_iff hbody⟩
  · intro hne h short
    exact readLevel_of_ascii_digits hbody hne h short
  · intro name n hlevel h
    exact readLevel_of_level hbody hlevel h

theorem level_reported_iff_three_texts :
    logLevel [(levelVariable, " wArninG\t")] = .ok 30 ∧ logLevel [(levelVariable, "0025 ")] = .ok 25 ∧
      Reported ['C', 'H', 'A', 'T', 'T', 'Y'] (logLevel [(levelVariable, "chatty")]) := by
  refine ⟨?_, ?_, ?_⟩
  · obtain ⟨body, htrim, -, hname, -⟩ := level_reported_iff [(levelVariable, " wArninG\t")] _ rfl
    have hbody : (Text.trim " wArninG\t".toList).map Char.toUpper = "WARNING".toList := by decide +kernel
    rw [htrim.trim_eq] at hbody
    exact hname "WARNING" 30 (by decide) hbody
  · obtain ⟨body, htrim, hdigits, -⟩ := level_reported_iff [(levelVariable, "0025 ")] _ rfl
    have hbody : Text.trim "0025 ".toList = ['0', '0', '2', '5'] := by decide +kernel
    rw [htrim.trim_eq] at hbody
    subst hbody
    exact hdigits (List.cons_ne_nil _ _) (List.all_eq_true.mp (by decide)) (by decide)
  · obtain ⟨body, htrim, -, -, hreported⟩ := level_reported_iff [(levelVariable, "chatty")] _ rfl
    have hbody : Text.upper (Text.trim "chatty".toList) = ['C', 'H', 'A', 'T', 'T', 'Y'] := by decide +kernel
    rw [htrim.trim_eq] at hbody
    rw [hbody] at hreported
    exact hreported.mpr fun h => absurd h.1 (by decide +kernel)

/-- A superscript two is a digit, but no number, and no level is reported for it. -/
theorem superscript_level_unreported :
    ∃ e, logLevel [(levelVariable, "²")] = .error e ∧ e.message = "invalid literal for int() with base 10: '²'" ∧
      ¬Reported (Text.upper (Text.trim "²".toList)) (logLevel [(levelVariable, "²")]) := by
  have hlevel : logLevel [(levelVariable, "²")] = readLevel "²".toList := logLevel_eq rfl
  have hupper : Text.upper (Text.trim "²".toList) = ['²'] := by decide +kernel
  have hdigits : Text.isDigits ['²'] = true := by decide +kernel
  have hnone : Text.decimalDigit? '²' = none := by decide +kernel
  have hread : readLevel "²".toList = .error (.malformedNumber "²") := by
    rw [readLevel_of_digits (Text.trimmed_trim _) (by rw [hupper]; exact hdigits), hupper, readNumber]
    simp [hnone]
  refine ⟨.malformedNumber "²", hlevel.trans hread, by decide +kernel, ?_⟩
  rw [hlevel, reported_readLevel_iff (Text.trimmed_trim _), not_not]
  exact ⟨by decide +kernel, .inr ⟨'²', by decide +kernel, by decide +kernel⟩⟩

end RequestSamples.Settings
