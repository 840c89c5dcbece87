import RequestSamples.Bytes

/-!
# Base64 text

Three bytes become four characters of an alphabet of 64, and one or two bytes at the end are padded with `=`.
-/

namespace RequestSamples.Base64

/-- The character of a number below 64. -/
def letter (n : Nat) : Char :=
  if n < 26 then Char.ofNat (0x41 + n)
  else if n < 52 then Char.ofNat (0x61 + (n - 26))
  else if n < 62 then Char.ofNat (0x30 + (n - 52))
  else if n = 62 then '+' else '/'

/-- The number of a character of the alphabet. -/
def letter? (c : Char) : Option Nat :=
  if 'A' ≤ c && c ≤ 'Z' then some (c.toNat - 0x41)
  else if 'a' ≤ c && c ≤ 'z' then some (c.toNat - 0x61 + 26)
  else if '0' ≤ c && c ≤ '9' then some (c.toNat - 0x30 + 52)
  else if c = '+' then some 62
  else if c = '/' then some 63
  else none

/-- The padded text of a byte string. -/
def encode : Bytes → List Char
  | a :: b :: c :: bs =>
    letter (a.toNat / 4) :: letter (a.toNat % 4 * 16 + b.toNat / 16) ::
      letter (b.toNat % 16 * 4 + c.toNat / 64) :: letter (c.toNat % 64) :: encode bs
  | [a, b] =>
    [letter (a.toNat / 4), letter (a.toNat % 4 * 16 + b.toNat / 16), letter (b.toNat % 16 * 4), '=']
  | [a] => [letter (a.toNat / 4), letter (a.toNat % 4 * 16), '=', '=']
  | [] => []

/-- The bytes of a padded text. -/
def decode? : List Char → Option Bytes
  | [] => some []
  | w :: x :: y :: z :: cs => do
    let p ← letter? w
    let q ← letter? x
    if y = '=' && z = '=' && cs.isEmpty then return [UInt8.ofNat (p * 4 + q / 16)]
    let r ← letter? y
    if z = '=' && cs.isEmpty then return [UInt8.ofNat (p * 4 + q / 16), UInt8.ofNat (q % 16 * 16 + r / 4)]
    let s ← letter? z
    let bs ← decode? cs
    return UInt8.ofNat (p * 4 + q / 16) :: UInt8.ofNat (q % 16 * 16 + r / 4) ::
      UInt8.ofNat (r % 4 * 64 + s) :: bs
  | _ => none

private theorem letter?_letter {n : Nat} (h : n < 64) : letter? (letter n) = some n := by
  have : ∀ m : Fin 64, letter? (letter m) = some m.val := by decide
  exact this ⟨n, h⟩

private theorem letter_ne_pad {n : Nat} (h : n < 64) : letter n ≠ '=' := by
  have : ∀ m : Fin 64, letter m ≠ '=' := by decide
  exact this ⟨n, h⟩

private theorem ofNat_eq {n : Nat} {a : UInt8} (h : n = a.toNat) : UInt8.ofNat n = a := by
  subst h; exact UInt8.ofNat_toNat

theorem decode?_encode (bs : Bytes) : decode? (encode bs) = some bs := by
  fun_induction encode bs with
  | case1 a b c bs ih =>
    have ha := a.toNat_lt; have hb := b.toNat_lt; have hc := c.toNat_lt
    have h3 := letter_ne_pad (show b.toNat % 16 * 4 + c.toNat / 64 < 64 by omega)
    have h4 := letter_ne_pad (show c.toNat % 64 < 64 by omega)
    simp only [decode?, letter?_letter (show a.toNat / 4 < 64 by omega),
      letter?_letter (show a.toNat % 4 * 16 + b.toNat / 16 < 64 by omega),
      letter?_letter (show b.toNat % 16 * 4 + c.toNat / 64 < 64 by omega),
      letter?_letter (show c.toNat % 64 < 64 by omega), h3, h4, ih]
    simp only [decide_false, Bool.false_and, Option.bind_eq_bind, Option.bind_some, Option.pure_def]
    simp only [Bool.false_eq_true, ↓reduceIte, Option.some.injEq, List.cons.injEq, and_true]
    exact ⟨ofNat_eq (by omega), ofNat_eq (by omega), ofNat_eq (by omega)⟩
  | case2 a b =>
    have ha := a.toNat_lt; have hb := b.toNat_lt
    have h3 := letter_ne_pad (show b.toNat % 16 * 4 < 64 by omega)
    simp only [decode?, letter?_letter (show a.toNat / 4 < 64 by omega),
      letter?_letter (show a.toNat % 4 * 16 + b.toNat / 16 < 64 by omega),
      letter?_letter (show b.toNat % 16 * 4 < 64 by omega), h3]
    simp only [decide_false, decide_true, Bool.false_and, Bool.true_and, List.isEmpty_nil, ↓reduceIte,
      Option.bind_eq_bind, Option.bind_some, Option.pure_def, Option.some.injEq, List.cons.injEq, and_true,
      Bool.false_eq_true]
    exact ⟨ofNat_eq (by omega), ofNat_eq (by omega)⟩
  | case3 a =>
    have ha := a.toNat_lt
    simp only [decode?, letter?_letter (show a.toNat / 4 < 64 by omega),
      letter?_letter (show a.toNat % 4 * 16 < 64 by omega)]
    simp only [decide_true, Bool.true_and, List.isEmpty_nil, ↓reduceIte,
      Option.bind_eq_bind, Option.bind_some, Option.pure_def, Option.some.injEq, List.cons.injEq, and_true]
    exact ofNat_eq (by omega)
  | case4 => rfl

end RequestSamples.Base64
