import Mathlib.Data.List.Nodup
import Mathlib.Data.Nat.Digits.Defs
import RequestSamples.Proofs.Names.Seeding
import RequestSamples.Proofs.Names.Textual

/-!
# The choices behind a name

A seeded source makes three choices for a name: an adjective, a surname and a number below the power of sixteen that
the number of digits asks for.

* (drawing) a name is drawn if and only if its choices are, and it is their text (`name_of_chosen`, `chosen_of_name`);
* (text) the number is written in full, with zeros before it (`write_eq_leftpad`), and the text splits at its
  underscores into the adjective, the surname and the digits (`splitOn_text`);
* (choices) so the choices can be told from the text (`text_injective`, `name_tells_choices`);
* (frame) draws leave everything of a source but its twister (`exists_twister_of_consecutive`).
-/

namespace RequestSamples

/-- A chain of draws goes on where its first link has ended. -/
theorem Drawing.on_bind_of_ok {σ α β : Type} {d : Drawing σ α} {s s₁ : σ} {a : α} (h : d.on s = (.ok a, s₁))
    (k : α → Drawing σ β) : Drawing.on (d >>= k) s = (k a).on s₁ := by
  have hrun : (ExceptT.run d).run s = (.ok a, s₁) := h
  unfold Drawing.on
  rw [ExceptT.run_bind, StateT.run_bind, hrun]
  rfl

/-- A chain of draws has failed where its first link has. -/
private theorem Drawing.on_bind_of_error {σ α β : Type} {d : Drawing σ α} {s s₁ : σ} {e : Failure}
    (h : d.on s = (.error e, s₁)) (k : α → Drawing σ β) : Drawing.on (d >>= k) s = (.error e, s₁) := by
  have hrun : (ExceptT.run d).run s = (.error e, s₁) := h
  unfold Drawing.on
  rw [ExceptT.run_bind, StateT.run_bind, hrun]
  rfl

namespace Names

/-- What is chosen for a name with this number of digits. -/
@[ext]
structure Choice (digits : Nat) where
  adjective : Fin adjectives.length
  surname : Fin surnames.length
  number : Fin (16 ^ digits)
deriving DecidableEq

namespace Choice

variable {d : Nat}

/-- The hexadecimal digits of the number, with zeros before them if there are too few. -/
def suffix (c : Choice d) : List Char := List.leftpad d '0' (Nat.toDigits 16 c.number)

/-- The name. -/
def text (c : Choice d) : String :=
  adjectives[c.adjective] ++ "_" ++ surnames[c.surname] ++ "_" ++ String.ofList c.suffix

end Choice

private theorem ofList_lt {cs ds : List Char} (h : cs < ds) :
    (String.ofList cs).toList < (String.ofList ds).toList := by
  rwa [String.toList_ofList, String.toList_ofList]

private theorem mem_ofList {c : Char} {cs : List Char} (h : c ∈ cs) : c ∈ (String.ofList cs).toList := by
  rwa [String.toList_ofList]

private theorem not_mem_ofList {c : Char} {cs : List Char} (h : c ∉ cs) : c ∉ (String.ofList cs).toList := by
  rwa [String.toList_ofList]

-- The words are compared as lists of characters, one pair of neighbours after the other: the bytes of all the words
-- would be too much to compute at once.
private theorem adjectives_sorted : adjectives.IsChain fun v w => v.toList < w.toList := by
  unfold adjectives
  repeat' first | apply List.IsChain.cons_cons | apply List.IsChain.singleton
  all_goals exact ofList_lt (by decide)

private theorem surnames_sorted : surnames.IsChain fun v w => v.toList < w.toList := by
  unfold surnames
  repeat' first | apply List.IsChain.cons_cons | apply List.IsChain.singleton
  all_goals exact ofList_lt (by decide)

private theorem underscore_not_mem_adjective : ∀ w ∈ adjectives, '_' ∉ w.toList := by
  unfold adjectives
  repeat refine List.forall_mem_cons.mpr ⟨not_mem_ofList (by decide), ?_⟩
  exact List.forall_mem_nil _

private theorem underscore_not_mem_surname : ∀ w ∈ surnames, '_' ∉ w.toList := by
  unfold surnames
  repeat refine List.forall_mem_cons.mpr ⟨not_mem_ofList (by decide), ?_⟩
  exact List.forall_mem_nil _

private theorem nodup_of_sorted {ws : List String} (h : ws.IsChain fun v w => v.toList < w.toList) : ws.Nodup := by
  have hpairwise : ws.Pairwise fun v w => v.toList < w.toList := List.isChain_iff_pairwise.mp h
  apply hpairwise.imp
  intro v w hlt heq
  rw [heq] at hlt
  exact List.lt_irrefl _ hlt

/-- A word of a sorted list is found at one place only. -/
private theorem index_eq_of_sorted {ws : List String} (h : ws.IsChain fun v w => v.toList < w.toList)
    {i j : Fin ws.length} (hij : ws[i].toList = ws[j].toList) : i = j :=
  Fin.ext ((nodup_of_sorted h).getElem_inj_iff.mp (String.toList_inj.mp hij))

private theorem leftpad_concat (w : Nat) (c x : Char) (cs : List Char) :
    List.leftpad (w + 1) c (cs ++ [x]) = List.leftpad w c cs ++ [x] := by
  rw [List.leftpad, List.leftpad, List.length_append, List.length_singleton, Nat.add_sub_add_right, List.append_assoc]

private theorem digit_eq_digitChar {n : Nat} (h : n < 16) : Text.Hex.digit n = n.digitChar := by
  have hall : ∀ m : Fin 16, Text.Hex.digit m = m.val.digitChar := by decide
  exact hall ⟨n, h⟩

private theorem write_succ_eq_leftpad {w n : Nat} (h : n < 16 ^ (w + 1)) :
    Text.Hex.write (w + 1) n = List.leftpad (w + 1) '0' (Nat.toDigits 16 n) := by
  induction w generalizing n with
  | zero =>
    have hn : n < 16 := h
    rw [Text.Hex.write_succ, Nat.mod_eq_of_lt hn, digit_eq_digitChar hn, Nat.toDigits_of_lt_base hn]
    rfl
  | succ w ih =>
    have hquotient : n / 16 < 16 ^ (w + 1) := by
      rw [Nat.div_lt_iff_lt_mul (by decide)]
      exact h
    have hdigit : n % 16 < 16 := Nat.mod_lt n (by decide)
    rw [Text.Hex.write_succ, ih hquotient, digit_eq_digitChar hdigit]
    by_cases hn : n < 16
    · -- The quotient is zero, and its only digit is one of the zeros before the number.
      have hzero : Nat.toDigits 16 0 = ['0'] := rfl
      rw [Nat.div_eq_of_lt hn, Nat.mod_eq_of_lt hn, Nat.toDigits_of_lt_base hn, hzero, ← leftpad_concat]
      simp [List.leftpad, List.replicate_succ']
    · have hpos : 0 < n / 16 := Nat.div_pos (Nat.not_lt.mp hn) (by decide)
      have hdigits := Nat.toDigits_append_toDigits (b := 16) (by decide) hpos hdigit
      rw [Nat.toDigits_of_lt_base hdigit, Nat.div_add_mod] at hdigits
      rw [← leftpad_concat, hdigits]

/-- A number that fits into its digits is written in full, and zero with one digit at least. -/
theorem write_eq_leftpad {d n : Nat} (h : n < 16 ^ d) :
    Text.Hex.write (max d 1) n = List.leftpad d '0' (Nat.toDigits 16 n) := by
  cases d with
  | zero =>
    have hn : n = 0 := by
      rw [Nat.pow_zero] at h
      omega
    subst hn
    rfl
  | succ d =>
    have hmax : max (d + 1) 1 = d + 1 := by omega
    rw [hmax, write_succ_eq_leftpad h]

namespace Choice

variable {d : Nat}

private theorem suffix_eq_write (c : Choice d) : c.suffix = Text.Hex.write (max d 1) c.number :=
  (write_eq_leftpad c.number.isLt).symm

private theorem length_suffix (c : Choice d) : c.suffix.length = max d 1 := by
  rw [suffix_eq_write, Text.Hex.write_length]

private theorem mem_of_mem_suffix {c : Choice d} {x : Char} (h : x ∈ c.suffix) : x ∈ "0123456789abcdef".toList := by
  have hall : ∀ m : Fin 16, Text.Hex.digit m ∈
      ['0', '1', '2', '3', '4', '5', '6', '7', '8', '9', 'a', 'b', 'c', 'd', 'e', 'f'] := by decide
  rw [suffix_eq_write] at h
  obtain ⟨m, rfl⟩ := Text.Hex.exists_digit_of_mem_write h
  exact mem_ofList (hall m)

private theorem read?_suffix (c : Choice d) : Text.Hex.read? c.suffix = some c.number.val := by
  have hlt : c.number.val < 16 ^ max d 1 :=
    Nat.lt_of_lt_of_le c.number.isLt (Nat.pow_le_pow_right (by decide) (Nat.le_max_left d 1))
  rw [suffix_eq_write, Text.Hex.read?_write, Nat.mod_eq_of_lt hlt]

/-- The text splits at its underscores into the three choices. -/
theorem splitOn_text (c : Choice d) :
    List.splitOn '_' c.text.toList = [adjectives[c.adjective].toList, surnames[c.surname].toList, c.suffix] := by
  have hdigits : '_' ∉ "0123456789abcdef".toList := not_mem_ofList (by decide)
  have htext : c.text.toList =
      ['_'].intercalate [adjectives[c.adjective].toList, surnames[c.surname].toList, c.suffix] := by
    have hunderscore : "_".toList = ['_'] := rfl
    simp only [text, String.toList_append, String.toList_ofList, hunderscore, List.intercalate, List.intersperse,
      List.flatten_cons, List.flatten_nil, List.append_nil, List.append_assoc]
  rw [htext, List.splitOn_intercalate '_' ?_ (List.cons_ne_nil _ _)]
  intro part hpart
  rcases List.mem_cons.mp hpart with rfl | hpart
  · exact underscore_not_mem_adjective _ (List.getElem_mem _)
  · rcases List.mem_cons.mp hpart with rfl | hpart
    · exact underscore_not_mem_surname _ (List.getElem_mem _)
    · rcases List.mem_cons.mp hpart with rfl | hpart
      · exact fun h => hdigits (mem_of_mem_suffix h)
      · cases hpart

/-- Different choices never make the same text. -/
theorem text_injective : Function.Injective (text (d := d)) := by
  intro c c' h
  have hparts := c.splitOn_text
  rw [h, c'.splitOn_text] at hparts
  simp only [List.cons.injEq, and_true] at hparts
  obtain ⟨hadjective, hsurname, hsuffix⟩ := hparts
  have hnumber := c.read?_suffix
  rw [← hsuffix, c'.read?_suffix] at hnumber
  exact Choice.ext (index_eq_of_sorted adjectives_sorted hadjective.symm)
    (index_eq_of_sorted surnames_sorted hsurname.symm) (Fin.ext (Option.some.inj hnumber).symm)

/-- The text has three parts, two words and as many digits as are asked for, and they are the choices. -/
structure Shows (c : Choice d) (text : String) : Prop where
  parts : List.splitOn '_' text.toList = [adjectives[c.adjective].toList, surnames[c.surname].toList, c.suffix]
  length : c.suffix.length = max d 1
  digits : ∀ x ∈ c.suffix, x ∈ "0123456789abcdef".toList
  value : Text.Hex.read? c.suffix = some c.number.val

private theorem shows_text (c : Choice d) : c.Shows c.text :=
  ⟨c.splitOn_text, c.length_suffix, fun _ h => mem_of_mem_suffix h, c.read?_suffix⟩

theorem text_ne_empty (c : Choice d) : c.text ≠ "" := by
  intro h
  have hparts := c.splitOn_text
  have hone : (List.splitOn '_' "".toList).length = 1 := by decide
  rw [← h, hparts] at hone
  cases hone

/-- The choices of the name `suspicious_brahmagupta_06671a`. -/
def suspiciousBrahmagupta : Choice 6 where
  adjective := ⟨81, by rw [adjectives_length]; decide⟩
  surname := ⟨14, by rw [surnames_length]; decide⟩
  number := ⟨0x06671a, by norm_num⟩

end Choice

/-- The twister makes these choices one after the other and is then in another state. -/
def Chosen {d : Nat} (t : Twister) (c : Choice d) (t' : Twister) : Prop :=
  ∃ t₁ t₂, t.below? adjectives.length Seeded.attempts = (some c.adjective.val, t₁) ∧
    t₁.below? surnames.length Seeded.attempts = (some c.surname.val, t₂) ∧ t₂.bits (4 * d) = (c.number.val, t')

/-- The choices are determined by the state of the twister. -/
theorem Chosen.unique {d : Nat} {t t' t'' : Twister} {c c' : Choice d} (h : Chosen t c t') (h' : Chosen t c' t'') :
    c' = c ∧ t'' = t' := by
  obtain ⟨t₁, t₂, hadjective, hsurname, hnumber⟩ := h
  obtain ⟨t₁', t₂', hadjective', hsurname', hnumber'⟩ := h'
  rw [hadjective, Prod.mk.injEq, Option.some.injEq] at hadjective'
  obtain ⟨hi, rfl⟩ := hadjective'
  rw [hsurname, Prod.mk.injEq, Option.some.injEq] at hsurname'
  obtain ⟨hj, rfl⟩ := hsurname'
  rw [hnumber, Prod.mk.injEq] at hnumber'
  obtain ⟨hn, rfl⟩ := hnumber'
  exact ⟨Choice.ext (Fin.ext hi.symm) (Fin.ext hj.symm) (Fin.ext hn.symm), rfl⟩

/-- The twister after these choices, if it makes them. -/
def Choice.after? {d : Nat} (c : Choice d) (t : Twister) : Option Twister :=
  let first := t.below? adjectives.length Seeded.attempts
  let second := first.2.below? surnames.length Seeded.attempts
  let third := second.2.bits (4 * d)
  if first.1 = some c.adjective.val ∧ second.1 = some c.surname.val ∧ third.1 = c.number.val then some third.2 else none

private theorem eq_of_fst {α β : Type} {p : α × β} {a : α} (h : p.1 = a) : p = (a, p.2) := by rw [← h]

theorem chosen_of_after? {d : Nat} {t t' : Twister} {c : Choice d} (h : c.after? t = some t') : Chosen t c t' := by
  unfold Choice.after? at h
  dsimp only at h
  split at h
  · rename_i hchoices
    obtain ⟨hadjective, hsurname, hnumber⟩ := hchoices
    exact ⟨_, _, eq_of_fst hadjective, eq_of_fst hsurname,
      (eq_of_fst hnumber).trans (congrArg (Prod.mk _) (Option.some.inj h))⟩
  · cases h

namespace Seeded

private theorem choose_eq_ok_iff {ws : List String} {s s' : Seeded} {w : String} :
    (choose ws).on s = (.ok w, s') ↔ ∃ i : Fin ws.length, ∃ t,
      s.twister.below? ws.length attempts = (some i.val, t) ∧ w = ws[i] ∧ s' = { s with twister := t } := by
  show choose ws s = _ ↔ _
  unfold choose
  rcases hdraw : s.twister.below? ws.length attempts with ⟨_ | i, t⟩
  · exact iff_of_false nofun (by rintro ⟨i, t, h, -⟩; cases h)
  · have hi : i < ws.length := Twister.below?_lt (congrArg Prod.fst hdraw)
    have hword : ws.getD i "" = ws[i] := by simp [hi]
    dsimp only
    rw [hword]
    constructor
    · intro h
      cases h
      exact ⟨⟨i, hi⟩, t, rfl, rfl, rfl⟩
    · rintro ⟨j, t', h, rfl, rfl⟩
      cases h
      rfl

theorem bits_on (d : Nat) (s : Seeded) :
    (bits (4 * d)).on s = (.ok (s.twister.bits (4 * d)).1, { s with twister := (s.twister.bits (4 * d)).2 }) := by
  have hk : ¬(4 * d : Int) < 0 := by omega
  have hcount : (4 * d : Int).toNat = 4 * d := by omega
  show bits (4 * d) s = _
  rw [bits, if_neg hk, hcount]

private theorem lift_on {α : Type} (x : Given α) (s : Seeded) : Drawing.on (liftM x) s = (x, s) := by
  cases x <;> rfl

private theorem digits_on {s : Seeded} {d : Nat} (hd : s.suffixDigits = .ok d) (r : Seeded) :
    Drawing.on (liftM s.suffixDigits) r = (.ok (d : Int), r) := by
  rw [lift_on, hd]

private theorem nameText_eq {d : Nat} (c : Choice d) :
    nameText adjectives[c.adjective] surnames[c.surname] d c.number = c.text := by
  have hwidth : (max (d : Int) 1).toNat = max d 1 := by omega
  rw [nameText, Choice.text, Choice.suffix_eq_write, hwidth]

variable {d : Nat} {s s' : Seeded} {v : Value}

/-- A name is drawn if its choices are. -/
theorem name_of_chosen (hd : s.suffixDigits = .ok d) {c : Choice d} {t : Twister} (h : Chosen s.twister c t) :
    name.on s = (.ok (.text c.text), { s with twister := t }) := by
  obtain ⟨t₁, t₂, hadjective, hsurname, hnumber⟩ := h
  have hfirst := choose_eq_ok_iff.mpr ⟨c.adjective, t₁, hadjective, rfl, rfl⟩
  have hsecond := choose_eq_ok_iff (s := { s with twister := t₁ }).mpr ⟨c.surname, t₂, hsurname, rfl, rfl⟩
  have hget : Drawing.on get { s with twister := t₂ } = (.ok { s with twister := t₂ }, { s with twister := t₂ }) := rfl
  have hbits := bits_on d { s with twister := t₂ }
  rw [hnumber] at hbits
  rw [name, Drawing.on_bind_of_ok hfirst, Drawing.on_bind_of_ok hsecond, Drawing.on_bind_of_ok hget,
    Drawing.on_bind_of_ok (digits_on hd _), Drawing.on_bind_of_ok hbits, ← nameText_eq]
  rfl

/-- What has been drawn if a name has been. -/
private theorem exists_of_name (h : name.on s = (.ok v, s')) :
    ∃ (i : Fin adjectives.length) (j : Fin surnames.length) (t₁ t₂ : Twister) (digits : Int) (n : Nat),
      s.twister.below? adjectives.length attempts = (some i.val, t₁) ∧
      t₁.below? surnames.length attempts = (some j.val, t₂) ∧ s.suffixDigits = .ok digits ∧
      (bits (4 * digits)).on { s with twister := t₂ } = (.ok n, s') ∧
      v = .text (nameText adjectives[i] surnames[j] digits n) := by
  obtain ⟨adjective, s₁, hfirst, h⟩ := Drawing.on_bind_eq_ok h
  obtain ⟨i, t₁, hadjective, rfl, rfl⟩ := choose_eq_ok_iff.mp hfirst
  obtain ⟨surname, s₂, hsecond, h⟩ := Drawing.on_bind_eq_ok h
  obtain ⟨j, t₂, hsurname, rfl, rfl⟩ := choose_eq_ok_iff.mp hsecond
  obtain ⟨r, _, hget, h⟩ := Drawing.on_bind_eq_ok h
  cases hget
  obtain ⟨digits, r, hdigits, h⟩ := Drawing.on_bind_eq_ok h
  rw [lift_on, Prod.mk.injEq] at hdigits
  obtain ⟨hdigits, rfl⟩ := hdigits
  obtain ⟨n, r, hbits, h⟩ := Drawing.on_bind_eq_ok h
  cases h
  exact ⟨i, j, t₁, t₂, digits, n, hadjective, hsurname, hdigits, hbits, rfl⟩

/-- A name has been drawn only if its choices have. -/
theorem chosen_of_name (hd : s.suffixDigits = .ok d) (h : name.on s = (.ok v, s')) :
    ∃ (c : Choice d) (t : Twister), Chosen s.twister c t ∧ v = .text c.text ∧ s' = { s with twister := t } := by
  obtain ⟨i, j, t₁, t₂, digits, n, hadjective, hsurname, hdigits, hbits, rfl⟩ := exists_of_name h
  cases hd.symm.trans hdigits
  rw [bits_on] at hbits
  cases hbits
  have hpow : (16 : Nat) ^ d = 2 ^ (4 * d) := by rw [Nat.pow_mul]
  have hlt : (t₂.bits (4 * d)).1 < 16 ^ d := by
    rw [hpow]
    exact Twister.bits_lt t₂ (4 * d)
  refine ⟨⟨i, j, ⟨_, hlt⟩⟩, _, ⟨t₁, t₂, hadjective, hsurname, rfl⟩, ?_, rfl⟩
  rw [← nameText_eq]

/-- A name has been drawn only if its source can draw so many digits. -/
theorem digits_of_name (hd : s.suffixDigits = digitsOf (.int d)) (h : name.on s = (.ok v, s')) :
    s.suffixDigits = .ok d := by
  obtain ⟨_, _, _, _, digits, _, -, -, hdigits, -, -⟩ := exists_of_name h
  have hcases : digitsOf (.int d) =
      if -2 ^ 31 ≤ 4 * (d : Int) && 4 * (d : Int) < 2 ^ 31 then .ok (d : Int) else .error .tooWide := rfl
  rw [hd, hcases] at hdigits ⊢
  split at hdigits
  · rename_i hwidth
    rw [if_pos hwidth]
  · cases hdigits

/-- A name with so many digits tells its choices, and names with as many digits are equal only if all choices are. -/
theorem name_tells_choices (hd : s.suffixDigits = digitsOf (.int d)) (h : name.on s = (.ok v, s')) :
    ∃ (c : Choice d) (text : String), Chosen s.twister c s'.twister ∧ v = .text text ∧ c.Shows text ∧
      c.number.val < 16 ^ d ∧
      ∀ (r r' : Seeded) (w : Value) (c' : Choice d), r.suffixDigits = digitsOf (.int d) → name.on r = (.ok w, r') →
        Chosen r.twister c' r'.twister →
        (w = v ↔ c'.adjective = c.adjective ∧ c'.surname = c.surname ∧ c'.number = c.number) := by
  obtain ⟨c, t, hc, rfl, rfl⟩ := chosen_of_name (digits_of_name hd h) h
  refine ⟨c, c.text, hc, rfl, c.shows_text, c.number.isLt, ?_⟩
  intro r r' w c' hd' h' hc'
  obtain ⟨c'', t', hc'', rfl, rfl⟩ := chosen_of_name (digits_of_name hd' h') h'
  obtain ⟨rfl, -⟩ := hc'.unique hc''
  rw [Value.text.injEq, Choice.text_injective.eq_iff, Choice.ext_iff]

theorem twister_ofSeed (seed : Int) : (ofSeed (some seed)).twister = Twister.ofSeed seed := by
  rw [ofSeed, Option.getD_some]

theorem name_tells_choices_of_seed :
    ∃ v s', name.on (ofSeed (some 42)) = (.ok v, s') ∧ ∃ (c : Choice 6) (text : String), v = .text text ∧
      c.Shows text ∧ adjectives[c.adjective] = "suspicious" ∧ surnames[c.surname] = "brahmagupta" ∧
      c.suffix = ['0', '6', '6', '7', '1', 'a'] := by
  have hdigits : (ofSeed (some 42)).suffixDigits = .ok (6 : Nat) := rfl
  have hd : (ofSeed (some 42)).suffixDigits = digitsOf (.int (6 : Nat)) := rfl
  have hdraws : (Choice.suspiciousBrahmagupta.after? (ofSeed (some 42)).twister).isSome = true := by
    rw [twister_ofSeed, Twister.ofSeed_eq (by decide)]
    decide +kernel
  -- Only these facts about the seed are kept: its words would be computed again and again.
  generalize ofSeed (some 42) = s at hdigits hd hdraws
  obtain ⟨t, ht⟩ := Option.isSome_iff_exists.mp hdraws
  have hname := name_of_chosen hdigits (chosen_of_after? ht)
  obtain ⟨c, text, hchosen, hv, hshows, -⟩ := name_tells_choices hd hname
  obtain ⟨rfl, -⟩ := (chosen_of_after? ht).unique hchosen
  exact ⟨_, _, hname, _, text, hv, hshows, rfl, rfl, by decide⟩

/-- The computation changes nothing of a source but its twister, also if it fails. -/
def Turns {α : Type} (d : Drawing Seeded α) : Prop := ∀ s, ∃ t, (d.on s).2 = { s with twister := t }

theorem Turns.bind {α β : Type} {d : Drawing Seeded α} {k : α → Drawing Seeded β} (hd : Turns d)
    (hk : ∀ a, Turns (k a)) : Turns (d >>= k) := by
  intro s
  obtain ⟨t, ht⟩ := hd s
  rcases h : d.on s with ⟨e | a, s₁⟩ <;> rw [h] at ht <;> dsimp only at ht <;> subst ht
  · exact ⟨t, congrArg Prod.snd (Drawing.on_bind_of_error h k)⟩
  · obtain ⟨t', ht'⟩ := hk a { s with twister := t }
    exact ⟨t', by rw [Drawing.on_bind_of_ok h, ht']⟩

private theorem turns_pure {α : Type} (a : α) : Turns (pure a) := fun s => ⟨s.twister, rfl⟩

private theorem turns_get : Turns get := fun s => ⟨s.twister, rfl⟩

private theorem turns_lift {α : Type} (x : Given α) : Turns (liftM x) := fun s => ⟨s.twister, by rw [lift_on]⟩

private theorem turns_choose (ws : List String) : Turns (choose ws) := by
  intro s
  show ∃ t, (choose ws s).2 = _
  unfold choose
  rcases s.twister.below? ws.length attempts with ⟨_ | i, t⟩
  · exact ⟨t, rfl⟩
  · exact ⟨t, rfl⟩

private theorem turns_bits (k : Int) : Turns (bits k) := by
  intro s
  show ∃ t, (bits k s).2 = _
  unfold bits
  split
  · exact ⟨s.twister, rfl⟩
  · exact ⟨_, rfl⟩

private theorem turns_name : Turns name :=
  (turns_choose _).bind fun _ => (turns_choose _).bind fun _ => turns_get.bind fun _ => (turns_lift _).bind fun _ =>
    (turns_bits _).bind fun _ => turns_pure _

private theorem turns_uuid : Turns uuid := (turns_bits _).bind fun _ => turns_pure _

end Seeded

namespace Source

theorem draw_of_chosen {d : Nat} {s : Seeded} {c : Choice d} {t : Twister} (hd : s.suffixDigits = .ok d)
    (hc : Chosen s.twister c t) :
    (Session.drawFrom draws .name).on (.seeded s) = (.ok (.text c.text), .seeded { s with twister := t }) := by
  have hdraw : (Session.drawFrom draws .name).on (.seeded s) =
      ((Seeded.name.on s).1, .seeded (Seeded.name.on s).2) := rfl
  rw [hdraw, Seeded.name_of_chosen hd hc]

theorem exists_twister_of_draw (d : Draw) (s : Seeded) :
    ∃ r t, (Session.drawFrom draws d).on (.seeded s) = (r, .seeded { s with twister := t }) := by
  cases d with
  | name =>
    obtain ⟨t, ht⟩ := Seeded.turns_name s
    exact ⟨(Seeded.name.on s).1, t, congrArg (fun s' => ((Seeded.name.on s).1, seeded s')) ht⟩
  | uuid =>
    obtain ⟨t, ht⟩ := Seeded.turns_uuid s
    exact ⟨(Seeded.uuid.on s).1, t, congrArg (fun s' => ((Seeded.uuid.on s).1, seeded s')) ht⟩

/-- Draws from a seeded source leave everything but its twister. -/
theorem exists_twister_of_consecutive {s : Seeded} {h : Populator.History} {s' : Source}
    (hh : Populator.Consecutive draws (.seeded s) h s') : ∃ t, s' = .seeded { s with twister := t } := by
  generalize hstart : seeded s = start at hh
  induction hh generalizing s with
  | nil => exact ⟨s.twister, hstart.symm⟩
  | @cons _ _ d _ _ ih =>
    subst hstart
    obtain ⟨r, t, ht⟩ := exists_twister_of_draw d s
    exact ih (s := { s with twister := t }) (by rw [ht])

theorem exists_twister_of_drawAll (ds : List Draw) (s : Seeded) :
    ∃ t, (Populator.drawAll draws ds (.seeded s)).2 = .seeded { s with twister := t } :=
  exists_twister_of_consecutive (Populator.consecutive_made draws ds (.seeded s))

end Source

end Names

end RequestSamples
