import Mathlib.Data.Nat.Digits.Defs
import RequestSamples.Numeral

/-!
# Spellings of integers

An integer is spelled by a sign, which may be missing, and digits: decimal ones, at most 4300, or digits of the base
that a prefix names (`Spells`).  Single underscores may stand between two digits and after a prefix.

* A text of ASCII characters is read as an integer if and only if it spells it (`read?_eq_some_iff`).
* What is both a literal and a decimal number has the same value as either (`literal_eq_decimal`).
* The decimal digits of a number, with zeros before them or without, and its digits in another base behind the prefix of
  that base are spellings of it (`Form.spells`).
-/

namespace RequestSamples.Numeral

/-! ### The grammar -/

/-- The character is the digit of a base for a number; letters may be of either case. -/
def Denotes (base : Nat) (c : Char) (d : Nat) : Prop := d < base ∧ (c = d.digitChar ∨ c = d.digitChar.toUpper)

instance (base : Nat) (c : Char) (d : Nat) : Decidable (Denotes base c d) :=
  inferInstanceAs (Decidable (d < base ∧ (c = d.digitChar ∨ c = d.digitChar.toUpper)))

/-- The text spells the digits, most significant first; a single underscore may stand between two of them. -/
inductive Spelled (base : Nat) : List Char → List Nat → Prop
  | last {c : Char} {d : Nat} (digit : Denotes base c d) : Spelled base [c] [d]
  | next {c : Char} {d : Nat} {cs : List Char} {ds : List Nat} (digit : Denotes base c d)
      (rest : Spelled base cs ds) : Spelled base (c :: cs) (d :: ds)
  | apart {c : Char} {d : Nat} {cs : List Char} {ds : List Nat} (digit : Denotes base c d)
      (rest : Spelled base cs ds) : Spelled base (c :: '_' :: cs) (d :: ds)

/-- The signs, none among them, and what a number is multiplied by for them. -/
def signs : List (List Char × Int) := [([], 1), (['+'], 1), (['-'], -1)]

/-- The letters that name a base behind a zero. -/
def letters : List (Char × Nat) := [('x', 16), ('X', 16), ('o', 8), ('O', 8), ('b', 2), ('B', 2)]

/-- The text without a sign spells digits of a base: decimal digits as they are, others behind a prefix. -/
inductive Unsigned : List Char → Nat → List Nat → Prop
  | decimal {cs : List Char} {ds : List Nat} (digits : Spelled 10 cs ds) (short : ds.length ≤ 4300) :
      Unsigned cs 10 ds
  | prefixed {letter : Char} {base : Nat} {gap cs : List Char} {ds : List Nat} (named : (letter, base) ∈ letters)
      (single : gap = [] ∨ gap = ['_']) (digits : Spelled base cs ds) :
      Unsigned ('0' :: letter :: (gap ++ cs)) base ds

/-- The text spells the integer. -/
inductive Spells : List Char → Int → Prop
  | intro {sign cs : List Char} {unit : Int} {base : Nat} {ds : List Nat} (signed : (sign, unit) ∈ signs)
      (number : Unsigned cs base ds) : Spells (sign ++ cs) (unit * (Nat.ofDigits base ds.reverse : Nat))

/-- The number of the model's digits is the one that the library gives to them. -/
theorem ofDigits_eq (base : Nat) (ds : List Nat) : ofDigits base ds = Nat.ofDigits base ds.reverse := by
  rw [ofDigits_eq_foldl, Nat.ofDigits_eq_foldr, List.foldr_reverse]
  rfl

/-! ### Digits -/

/-- All characters of the text are ASCII characters. -/
def IsAscii (cs : List Char) : Prop := ∀ c ∈ cs, c.toNat < 128

instance (cs : List Char) : Decidable (IsAscii cs) := List.decidableBAll _ cs

theorem IsAscii.tail {c : Char} {cs : List Char} (h : IsAscii (c :: cs)) : IsAscii cs :=
  fun d hd => h d (List.mem_cons_of_mem c hd)

theorem IsAscii.right {cs ds : List Char} (h : IsAscii (cs ++ ds)) : IsAscii ds :=
  fun d hd => h d (List.mem_append_right cs hd)

/-- A property of all ASCII characters can be checked for one code after the other. -/
theorem ascii_induction {P : Char → Prop} (h : ∀ n : Fin 128, P (Char.ofNat n)) {c : Char} (hc : c.toNat < 128) :
    P c := by
  have hn := h ⟨c.toNat, hc⟩
  rwa [Char.ofNat_toNat] at hn

private theorem digitIn?_eq_filter {base : Nat} (hbase : base ≤ 16) (c : Char) :
    digitIn? base c = (digitIn? 16 c).filter (· < base) := by
  obtain ⟨value, hvalue⟩ : ∃ value : Option Nat, ∀ base, digitIn? base c = value.filter (· < base) :=
    ⟨_, fun _ => rfl⟩
  have hless : (fun d => decide (d < 16) && decide (d < base)) = fun d => decide (d < base) := by
    funext d
    rw [← Bool.decide_and]
    exact decide_eq_decide.mpr (by omega)
  rw [hvalue, hvalue, Option.filter_filter, hless]

private theorem digitIn?_eq_some_iff {base d : Nat} {c : Char} (hbase : base ≤ 16) (hc : c.toNat < 128) :
    digitIn? base c = some d ↔ Denotes base c d := by
  have hsixteen : ∀ d : Fin 16, digitIn? 16 c = some d.val ↔ c = d.val.digitChar ∨ c = d.val.digitChar.toUpper :=
    ascii_induction (P := fun c => ∀ d : Fin 16, digitIn? 16 c = some d.val ↔
      c = d.val.digitChar ∨ c = d.val.digitChar.toUpper) (by decide +kernel) hc
  rw [digitIn?_eq_filter hbase, Option.filter_eq_some_iff, decide_eq_true_eq, and_comm]
  apply and_congr_right
  intro hd
  exact hsixteen ⟨d, Nat.lt_of_lt_of_le hd hbase⟩

private theorem Denotes.ne_underscore {base d : Nat} {c : Char} (hbase : base ≤ 16) (h : Denotes base c d) :
    c ≠ '_' := by
  have hdigits : ∀ d : Fin 16, d.val.digitChar ≠ '_' ∧ d.val.digitChar.toUpper ≠ '_' := by decide
  obtain ⟨hlower, hupper⟩ := hdigits ⟨d, Nat.lt_of_lt_of_le h.1 hbase⟩
  rcases h.2 with rfl | rfl
  · exact hlower
  · exact hupper

/-- What may stand behind a digit: nothing, or more digits, with an underscore before them or without. -/
def Follows (base : Nat) (cs : List Char) (ds : List Nat) : Prop :=
  cs = [] ∧ ds = [] ∨ Spelled base cs ds ∨ ∃ rest, cs = '_' :: rest ∧ Spelled base rest ds

private theorem spelled_cons {base : Nat} {c : Char} {cs : List Char} {ds : List Nat} :
    Spelled base (c :: cs) ds ↔ ∃ d rest, ds = d :: rest ∧ Denotes base c d ∧ Follows base cs rest := by
  constructor
  · intro h
    cases h with
    | last digit => exact ⟨_, [], rfl, digit, .inl ⟨rfl, rfl⟩⟩
    | next digit rest => exact ⟨_, _, rfl, digit, .inr (.inl rest)⟩
    | apart digit rest => exact ⟨_, _, rfl, digit, .inr (.inr ⟨_, rfl, rest⟩)⟩
  · rintro ⟨d, rest, rfl, digit, ⟨rfl, rfl⟩ | hrest | ⟨cs, rfl, hrest⟩⟩
    · exact .last digit
    · exact .next digit hrest
    · exact .apart digit hrest

private theorem digits?_cons {base : Nat} {c : Char} {cs : List Char} {ds : List Nat} (afterDigit : Bool)
    (hc : c ≠ '_') : digits? base afterDigit (c :: cs) = some ds ↔
      ∃ d rest, ds = d :: rest ∧ digitIn? base c = some d ∧ digits? base true cs = some rest := by
  rw [digits?, if_neg hc]
  constructor
  · intro h
    obtain ⟨d, hd, h⟩ := Option.bind_eq_some_iff.mp h
    obtain ⟨rest, hrest, h⟩ := Option.bind_eq_some_iff.mp h
    cases h
    exact ⟨d, rest, rfl, hd, hrest⟩
  · rintro ⟨d, rest, rfl, hd, hrest⟩
    rw [hd, hrest]
    rfl

private theorem follows_nil_iff {base : Nat} {ds : List Nat} : Follows base [] ds ↔ ds = [] := by
  constructor
  · rintro (⟨-, hds⟩ | hspelled | ⟨rest, h, -⟩)
    · exact hds
    · cases hspelled
    · cases h
  · rintro rfl
    exact .inl ⟨rfl, rfl⟩

private theorem not_spelled_underscore {base : Nat} (hbase : base ≤ 16) {cs : List Char} {ds : List Nat} :
    ¬Spelled base ('_' :: cs) ds := by
  intro h
  obtain ⟨d, rest, -, digit, -⟩ := spelled_cons.mp h
  exact digit.ne_underscore hbase rfl

private theorem follows_underscore_iff {base : Nat} (hbase : base ≤ 16) {cs : List Char} {ds : List Nat} :
    Follows base ('_' :: cs) ds ↔ Spelled base cs ds := by
  constructor
  · rintro (⟨h, -⟩ | hspelled | ⟨rest, h, hrest⟩)
    · cases h
    · exact absurd hspelled (not_spelled_underscore hbase)
    · cases h
      exact hrest
  · intro h
    exact .inr (.inr ⟨cs, rfl, h⟩)

private theorem follows_cons_iff {base : Nat} {c : Char} (hc : c ≠ '_') {cs : List Char} {ds : List Nat} :
    Follows base (c :: cs) ds ↔ Spelled base (c :: cs) ds := by
  constructor
  · rintro (⟨h, -⟩ | h | ⟨rest, h, -⟩)
    · cases h
    · exact h
    · cases h
      exact absurd rfl hc
  · intro h
    exact .inr (.inl h)

/-- The digits of a text are those that it spells; behind a digit the text may also end or begin with an
underscore. -/
theorem digits?_eq_some_iff {base : Nat} (hbase : base ≤ 16) {cs : List Char} (ascii : IsAscii cs) (ds : List Nat) :
    (digits? base false cs = some ds ↔ Spelled base cs ds) ∧
      (digits? base true cs = some ds ↔ Follows base cs ds) := by
  induction cs generalizing ds with
  | nil =>
    refine ⟨iff_of_false nofun nofun, ?_⟩
    rw [follows_nil_iff, digits?, if_pos rfl, Option.some.injEq]
    exact eq_comm
  | cons c cs ih =>
    by_cases hc : c = '_'
    · subst hc
      refine ⟨iff_of_false nofun (not_spelled_underscore hbase), ?_⟩
      rw [digits?, if_pos rfl, if_pos rfl, (ih ascii.tail ds).1, follows_underscore_iff hbase]
    · have hdigit : ∀ d, digitIn? base c = some d ↔ Denotes base c d :=
        fun d => digitIn?_eq_some_iff hbase (ascii c List.mem_cons_self)
      have hspelled : ∀ afterDigit, digits? base afterDigit (c :: cs) = some ds ↔ Spelled base (c :: cs) ds := by
        intro afterDigit
        rw [digits?_cons afterDigit hc, spelled_cons]
        simp only [hdigit, ih ascii.tail]
      exact ⟨hspelled false, (hspelled true).trans (follows_cons_iff hc).symm⟩

private theorem decimalDigits?_eq_some_iff {cs : List Char} (ascii : IsAscii cs) {ds : List Nat} :
    decimalDigits? cs = some ds ↔ Spelled 10 cs ds ∧ ds.length ≤ 4300 := by
  rw [decimalDigits?, Option.filter_eq_some_iff, (digits?_eq_some_iff (by decide) ascii ds).1, decide_eq_true_eq]
  rfl

/-! ### Signs -/

private theorem signed_true (n : Nat) : signed true n = -1 * n := (neg_one_mul (n : Int)).symm

private theorem signed_false (n : Nat) : signed false n = 1 * n := (one_mul (n : Int)).symm

/-- Every text begins with one of the signs, if only with none. -/
private theorem exists_sign (cs : List Char) : ∃ sign unit negative body, (sign, unit) ∈ signs ∧
    splitSign cs = (negative, body) ∧ cs = sign ++ body ∧ ∀ n : Nat, signed negative n = unit * n := by
  unfold splitSign
  split
  · exact ⟨['-'], -1, true, _, by decide, rfl, rfl, signed_true⟩
  · exact ⟨['+'], 1, false, _, by decide, rfl, rfl, signed_false⟩
  · exact ⟨[], 1, false, _, by decide, rfl, rfl, signed_false⟩

private theorem Denotes.not_sign {d : Nat} {c : Char} (h : Denotes 10 c d) : c ≠ '-' ∧ c ≠ '+' := by
  have hdigits : ∀ d : Fin 10, (d.val.digitChar ≠ '-' ∧ d.val.digitChar ≠ '+') ∧
      d.val.digitChar.toUpper ≠ '-' ∧ d.val.digitChar.toUpper ≠ '+' := by decide
  obtain ⟨hlower, hupper⟩ := hdigits ⟨d, h.1⟩
  rcases h.2 with rfl | rfl
  · exact hlower
  · exact hupper

theorem Unsigned.head {cs : List Char} {base : Nat} {ds : List Nat} (h : Unsigned cs base ds) :
    ∃ c rest, cs = c :: rest ∧ c ≠ '-' ∧ c ≠ '+' := by
  cases h with
  | decimal digits =>
    cases digits with
    | last digit => exact ⟨_, _, rfl, digit.not_sign⟩
    | next digit => exact ⟨_, _, rfl, digit.not_sign⟩
    | apart digit => exact ⟨_, _, rfl, digit.not_sign⟩
  | prefixed => exact ⟨_, _, rfl, by decide, by decide⟩

/-- The sign is split off a text that goes on without a sign. -/
private theorem splitSign_append {sign cs : List Char} {unit : Int} {base : Nat} {ds : List Nat}
    (hsign : (sign, unit) ∈ signs) (h : Unsigned cs base ds) :
    ∃ negative, splitSign (sign ++ cs) = (negative, cs) ∧ ∀ n : Nat, signed negative n = unit * n := by
  simp only [signs, List.mem_cons, Prod.mk.injEq, List.not_mem_nil, or_false] at hsign
  rcases hsign with ⟨rfl, rfl⟩ | ⟨rfl, rfl⟩ | ⟨rfl, rfl⟩
  · obtain ⟨c, rest, rfl, hminus, hplus'⟩ := h.head
    refine ⟨false, ?_, signed_false⟩
    rw [List.nil_append, splitSign]
    · intro cs hcs
      exact hminus (List.cons.inj hcs).1
    · intro cs hcs
      exact hplus' (List.cons.inj hcs).1
  · exact ⟨false, rfl, signed_false⟩
  · exact ⟨true, rfl, signed_true⟩

/-! ### Prefixes -/

private theorem prefixBase?_eq_some_iff {c : Char} {base : Nat} : prefixBase? c = some base ↔ (c, base) ∈ letters := by
  simp only [letters, List.mem_cons, Prod.mk.injEq, List.not_mem_nil, or_false, prefixBase?, Bool.or_eq_true,
    decide_eq_true_eq]
  split
  · rename_i h
    rcases h with rfl | rfl <;> simp [eq_comm]
  · split
    · rename_i h
      rcases h with rfl | rfl <;> simp [eq_comm]
    · split
      · rename_i h
        rcases h with rfl | rfl <;> simp [eq_comm]
      · simp_all

private theorem base_le_of_letters {c : Char} {base : Nat} (h : (c, base) ∈ letters) : base ≤ 16 := by
  have hall : ∀ p ∈ letters, p.2 ≤ 16 := by decide
  exact hall (c, base) h

private theorem decimalDigit?_eq_zero_iff {c : Char} (hc : c.toNat < 128) : Text.decimalDigit? c = some 0 ↔ c = '0' :=
  ascii_induction (P := fun c => Text.decimalDigit? c = some 0 ↔ c = '0') (by decide +kernel) hc

theorem exists_of_splitPrefix? {cs rest : List Char} {base : Nat} (ascii : IsAscii cs)
    (h : splitPrefix? cs = some (base, rest)) : ∃ letter gap, (letter, base) ∈ letters ∧ (gap = [] ∨ gap = ['_']) ∧
      cs = '0' :: letter :: (gap ++ rest) := by
  unfold splitPrefix? at h
  split at h
  · rename_i z c cs
    split at h
    · rename_i hz
      obtain ⟨b, hbase, h⟩ := Option.map_eq_some_iff.mp h
      obtain ⟨rfl, rfl⟩ := Prod.mk.inj h
      rw [(decimalDigit?_eq_zero_iff (ascii z List.mem_cons_self)).mp hz]
      by_cases hgap : cs.head? = some '_'
      · rw [if_pos hgap]
        obtain ⟨tail, rfl⟩ := List.head?_eq_some_iff.mp hgap
        exact ⟨c, ['_'], prefixBase?_eq_some_iff.mp hbase, .inr rfl, rfl⟩
      · rw [if_neg hgap]
        exact ⟨c, [], prefixBase?_eq_some_iff.mp hbase, .inl rfl, rfl⟩
    · cases h
  · cases h

private theorem splitPrefix?_append {letter : Char} {base : Nat} {gap cs : List Char} {ds : List Nat}
    (hletter : (letter, base) ∈ letters) (hgap : gap = [] ∨ gap = ['_']) (digits : Spelled base cs ds) :
    splitPrefix? ('0' :: letter :: (gap ++ cs)) = some (base, cs) := by
  have hzero : Text.decimalDigit? '0' = some 0 := by decide
  have hhead : cs.head? ≠ some '_' := by
    have hne : ∀ {c d}, Denotes base c d → c ≠ '_' := fun digit => digit.ne_underscore (base_le_of_letters hletter)
    cases digits with
    | last digit => exact fun h => hne digit (Option.some.inj h)
    | next digit => exact fun h => hne digit (Option.some.inj h)
    | apart digit => exact fun h => hne digit (Option.some.inj h)
  rw [splitPrefix?, if_pos hzero, prefixBase?_eq_some_iff.mpr hletter, Option.map_some]
  rcases hgap with rfl | rfl
  · rw [List.nil_append, if_neg hhead]
  · rfl

/-- What begins with a prefix is no decimal number. -/
private theorem digits?_of_splitPrefix? {cs : List Char} {p : Nat × List Char} (h : splitPrefix? cs = some p) :
    digits? 10 false cs = none := by
  have hletters : ∀ p ∈ letters, p.1 ≠ '_' ∧ digitIn? 10 p.1 = none := by decide +kernel
  unfold splitPrefix? at h
  split at h
  · rename_i z c cs
    split at h
    · rename_i hz
      obtain ⟨base, hbase, -⟩ := Option.map_eq_some_iff.mp h
      obtain ⟨hc, hdigit⟩ := hletters (c, base) (prefixBase?_eq_some_iff.mp hbase)
      have hunderscore : z ≠ '_' := by
        rintro rfl
        revert hz
        decide
      have hrest : digits? 10 true (c :: cs) = none := by
        rw [digits?, if_neg hc, hdigit]
        rfl
      rw [digits?, if_neg hunderscore, hrest]
      cases digitIn? 10 z <;> rfl
    · cases h
  · cases h

/-! ### Reading -/

section Reading

variable {cs body : List Char} {negative : Bool}

private theorem readDecimal?_eq (hsign : splitSign cs = (negative, body)) :
    readDecimal? cs = (decimalDigits? body).map fun ds => signed negative (ofDigits 10 ds) := by
  rw [readDecimal?, hsign]

private theorem readDecimal?_of_based {p : Nat × List Char} (hsign : splitSign cs = (negative, body))
    (hbase : splitPrefix? body = some p) : readDecimal? cs = none := by
  rw [readDecimal?_eq hsign, decimalDigits?, digits?_of_splitPrefix? hbase]
  rfl

private theorem readLiteral?_of_based {base : Nat} {rest : List Char} (hsign : splitSign cs = (negative, body))
    (hbase : splitPrefix? body = some (base, rest)) :
    readLiteral? cs = (digits? base false rest).map fun ds => signed negative (ofDigits base ds) := by
  rw [readLiteral?, hsign]
  dsimp only
  rw [hbase]

/-- Without a prefix a literal is a decimal number, but not every decimal number is a literal. -/
private theorem readLiteral?_of_unbased (hsign : splitSign cs = (negative, body)) (hbase : splitPrefix? body = none) :
    readLiteral? cs = none ∨ readLiteral? cs = readDecimal? cs := by
  rw [readDecimal?_eq hsign, readLiteral?, hsign]
  dsimp only
  rw [hbase]
  dsimp only
  cases decimalDigits? body with
  | none => exact .inl rfl
  | some ds =>
    simp only [Option.bind_eq_bind, Option.bind_some, Option.map_some]
    split
    · exact .inl rfl
    · exact .inr rfl

/-- A text that is a literal and a decimal number has the same value as either. -/
theorem literal_eq_decimal {m n : Int} (hliteral : readLiteral? cs = some m) (hdecimal : readDecimal? cs = some n) :
    m = n := by
  obtain ⟨-, -, negative, body, -, hsign, -⟩ := exists_sign cs
  cases hbase : splitPrefix? body with
  | some p =>
    rw [readDecimal?_of_based hsign hbase] at hdecimal
    cases hdecimal
  | none =>
    rcases readLiteral?_of_unbased hsign hbase with h | h
    · rw [h] at hliteral
      cases hliteral
    · rw [h, hdecimal] at hliteral
      exact (Option.some.inj hliteral).symm

private theorem read?_of_based {base : Nat} {rest : List Char} (hsign : splitSign cs = (negative, body))
    (hbase : splitPrefix? body = some (base, rest)) :
    read? cs = (digits? base false rest).map fun ds => signed negative (ofDigits base ds) := by
  rw [read?, readLiteral?_of_based hsign hbase, readDecimal?_of_based hsign hbase]
  cases digits? base false rest <;> rfl

private theorem read?_of_unbased (hsign : splitSign cs = (negative, body)) (hbase : splitPrefix? body = none) :
    read? cs = (decimalDigits? body).map fun ds => signed negative (ofDigits 10 ds) := by
  rw [← readDecimal?_eq hsign, read?]
  rcases readLiteral?_of_unbased hsign hbase with h | h
  · rw [h]
    rfl
  · rw [h]
    cases readDecimal? cs <;> rfl

end Reading

/-- A text of ASCII characters is read as an integer if and only if it spells it. -/
theorem read?_eq_some_iff {cs : List Char} (ascii : IsAscii cs) {n : Int} : read? cs = some n ↔ Spells cs n := by
  constructor
  · intro h
    obtain ⟨sign, unit, negative, body, hsign, hsplit, rfl, hsigned⟩ := exists_sign cs
    have hbody : IsAscii body := ascii.right
    cases hbase : splitPrefix? body with
    | some p =>
      obtain ⟨base, rest⟩ := p
      obtain ⟨letter, gap, hletter, hgap, rfl⟩ := exists_of_splitPrefix? hbody hbase
      rw [read?_of_based hsplit hbase] at h
      obtain ⟨ds, hds, rfl⟩ := Option.map_eq_some_iff.mp h
      have hrest : IsAscii rest := hbody.tail.tail.right
      rw [hsigned, ofDigits_eq]
      exact .intro hsign
        (.prefixed hletter hgap ((digits?_eq_some_iff (base_le_of_letters hletter) hrest ds).1.mp hds))
    | none =>
      rw [read?_of_unbased hsplit hbase] at h
      obtain ⟨ds, hds, rfl⟩ := Option.map_eq_some_iff.mp h
      obtain ⟨hspelled, hshort⟩ := (decimalDigits?_eq_some_iff hbody).mp hds
      rw [hsigned, ofDigits_eq]
      exact .intro hsign (.decimal hspelled hshort)
  · rintro ⟨hsign, hnumber⟩
    rename_i sign cs unit base ds
    obtain ⟨negative, hsplit, hsigned⟩ := splitSign_append hsign hnumber
    have hcs : IsAscii cs := ascii.right
    rw [← hsigned, ← ofDigits_eq]
    cases hnumber with
    | decimal hspelled hshort =>
      have hdigits := (digits?_eq_some_iff (by decide) hcs ds).1.mpr hspelled
      have hbase : splitPrefix? cs = none := by
        cases hp : splitPrefix? cs with
        | none => rfl
        | some p =>
          rw [digits?_of_splitPrefix? hp] at hdigits
          cases hdigits
      rw [read?_of_unbased hsplit hbase, (decimalDigits?_eq_some_iff hcs).mpr ⟨hspelled, hshort⟩]
      rfl
    | prefixed hletter hgap hspelled =>
      have hrest := hcs.tail.tail.right
      rw [read?_of_based hsplit (splitPrefix?_append hletter hgap hspelled),
        (digits?_eq_some_iff (base_le_of_letters hletter) hrest ds).1.mpr hspelled]
      rfl

/-! ### Characters -/

/-- All characters that spellings are made of. -/
def alphabet : List Char :=
  ['0', '1', '2', '3', '4', '5', '6', '7', '8', '9', 'a', 'b', 'c', 'd', 'e', 'f', 'A', 'B', 'C', 'D', 'E', 'F',
    'x', 'X', 'o', 'O', '_', '+', '-']

private theorem Denotes.mem_alphabet {base d : Nat} {c : Char} (hbase : base ≤ 16) (h : Denotes base c d) :
    c ∈ alphabet := by
  have hdigits : ∀ d : Fin 16, d.val.digitChar ∈ alphabet ∧ d.val.digitChar.toUpper ∈ alphabet := by decide +kernel
  obtain ⟨hlower, hupper⟩ := hdigits ⟨d, Nat.lt_of_lt_of_le h.1 hbase⟩
  rcases h.2 with rfl | rfl
  · exact hlower
  · exact hupper

private theorem Spelled.subset_alphabet {base : Nat} {cs : List Char} {ds : List Nat} (hbase : base ≤ 16)
    (h : Spelled base cs ds) : cs ⊆ alphabet := by
  induction h with
  | last digit => exact List.cons_subset.mpr ⟨digit.mem_alphabet hbase, List.nil_subset _⟩
  | next digit _ ih => exact List.cons_subset.mpr ⟨digit.mem_alphabet hbase, ih⟩
  | apart digit _ ih =>
    exact List.cons_subset.mpr ⟨digit.mem_alphabet hbase, List.cons_subset.mpr ⟨by decide +kernel, ih⟩⟩

private theorem Spells.subset_alphabet {cs : List Char} {n : Int} (h : Spells cs n) : cs ⊆ alphabet := by
  obtain ⟨hsign, hnumber⟩ := h
  rename_i sign cs unit base ds
  have hsigns : ∀ p ∈ signs, p.1 ⊆ alphabet := by decide +kernel
  refine List.append_subset.mpr ⟨hsigns (sign, unit) hsign, ?_⟩
  cases hnumber with
  | decimal digits => exact digits.subset_alphabet (by decide)
  | prefixed named single digits =>
    have hletters : ∀ p ∈ letters, p.1 ∈ alphabet := by decide +kernel
    have hgap : ∀ gap : List Char, gap = [] ∨ gap = ['_'] → gap ⊆ alphabet := by
      rintro gap (rfl | rfl)
      · exact List.nil_subset _
      · decide +kernel
    refine List.cons_subset.mpr ⟨by decide +kernel, List.cons_subset.mpr ⟨hletters _ named, ?_⟩⟩
    exact List.append_subset.mpr ⟨hgap _ single, digits.subset_alphabet (base_le_of_letters named)⟩

theorem Spells.isAscii {cs : List Char} {n : Int} (h : Spells cs n) : IsAscii cs := by
  have halphabet : IsAscii alphabet := by decide +kernel
  exact fun c hc => halphabet c (h.subset_alphabet hc)

/-- There is no blank in a spelling. -/
theorem Spells.trimmed {cs : List Char} {n : Int} (h : Spells cs n) : Text.Trimmed cs cs := by
  have hall : (alphabet.all fun c => !Text.isBlank c) = true := by decide +kernel
  have halphabet : ∀ c ∈ alphabet, Text.isBlank c = false := by simpa using hall
  refine ⟨⟨[], [], by rw [List.nil_append, List.append_nil], nofun, nofun⟩, ?_, ?_⟩
  · intro c hc
    exact halphabet c (h.subset_alphabet (List.mem_of_mem_head? hc))
  · intro c hc
    exact halphabet c (h.subset_alphabet (List.mem_of_getLast? hc))

/-! ### Forms -/

/-- The minus of a negative integer. -/
def minus (n : Int) : List Char := if n < 0 then ['-'] else []

/-- The usual forms of an integer: decimal, zeros before the digits allowed, or with the prefix of another base. -/
inductive Form (n : Int) : List Char → Prop
  | decimal (zeros : Nat) (short : zeros + (Nat.toDigits 10 n.natAbs).length ≤ 4300) :
      Form n (minus n ++ (List.replicate zeros '0' ++ Nat.toDigits 10 n.natAbs))
  | prefixed {letter : Char} {base : Nat} (named : (letter, base) ∈ letters) :
      Form n (minus n ++ '0' :: letter :: Nat.toDigits base n.natAbs)

private theorem exists_minus (n : Int) : ∃ unit, (minus n, unit) ∈ signs ∧ unit * n.natAbs = n := by
  unfold minus
  split
  · exact ⟨-1, by decide, by omega⟩
  · exact ⟨1, by decide, by omega⟩

theorem Spelled.concat {base d : Nat} {c : Char} {cs : List Char} {ds : List Nat} (h : Spelled base cs ds)
    (digit : Denotes base c d) : Spelled base (cs ++ [c]) (ds ++ [d]) := by
  induction h with
  | last first => exact .next first (.last digit)
  | next first _ ih => exact .next first ih
  | apart first _ ih => exact .apart first ih

theorem Spelled.zeros {base : Nat} {cs : List Char} {ds : List Nat} (h : Spelled base cs ds) (hbase : 0 < base)
    (k : Nat) : Spelled base (List.replicate k '0' ++ cs) (List.replicate k 0 ++ ds) := by
  induction k with
  | zero => exact h
  | succ k ih => exact .next ⟨hbase, .inl rfl⟩ ih

/-- The digits of a number spell it. -/
private theorem exists_spelled_toDigits {base : Nat} (hbase : 1 < base) (n : Nat) :
    ∃ ds, Spelled base (Nat.toDigits base n) ds ∧ ds.length = (Nat.toDigits base n).length ∧
      Nat.ofDigits base ds.reverse = n := by
  induction n using Nat.base_induction base hbase with
  | single m hm =>
    rw [Nat.toDigits_of_lt_base hm]
    exact ⟨[m], .last ⟨hm, .inl rfl⟩, rfl, Nat.ofDigits_singleton⟩
  | digit m k hk hm ih =>
    obtain ⟨ds, hspelled, hlength, hvalue⟩ := ih
    rw [← Nat.toDigits_append_toDigits hbase hm hk, Nat.toDigits_of_lt_base hk]
    refine ⟨ds ++ [k], hspelled.concat ⟨hk, .inl rfl⟩, ?_, ?_⟩
    · rw [List.length_append, List.length_append, hlength]
      rfl
    · rw [List.reverse_append, List.reverse_singleton, List.singleton_append, Nat.ofDigits_cons, hvalue]
      omega

/-- The forms of an integer spell it. -/
theorem Form.spells {n : Int} {cs : List Char} (h : Form n cs) : Spells cs n := by
  obtain ⟨unit, hsign, hn⟩ := exists_minus n
  cases h with
  | decimal zeros short =>
    obtain ⟨ds, hspelled, hlength, hvalue⟩ := exists_spelled_toDigits (by decide : 1 < 10) n.natAbs
    have hzeros := hspelled.zeros (by decide) zeros
    have hshort : (List.replicate zeros 0 ++ ds).length ≤ 4300 := by
      rw [List.length_append, List.length_replicate, hlength]
      exact short
    have hnumber := Spells.intro hsign (.decimal hzeros hshort)
    rwa [List.reverse_append, List.reverse_replicate, Nat.ofDigits_append_replicate_zero, hvalue, hn] at hnumber
  | prefixed named =>
    rename_i letter base
    have hlarge : ∀ p ∈ letters, 1 < p.2 := by decide
    obtain ⟨ds, hspelled, -, hvalue⟩ := exists_spelled_toDigits (hlarge (letter, base) named) n.natAbs
    have hnumber := Spells.intro hsign (.prefixed named (.inl rfl) hspelled)
    rwa [hvalue, hn, List.nil_append] at hnumber

end RequestSamples.Numeral
