import RequestSamples.Numeral.Digits
import RequestSamples.Text.Blank
import RequestSamples.Text.Digit

/-!
# Integers as text

Three readers of integers.  A *literal* is decimal without a leading zero, or zeros only, or has one of the
prefixes `0x`, `0o`, `0b` in either case; a *decimal* may have leading zeros; a number in base sixteen may
have the prefix `0x` and may stand in white space.  All allow a sign, single underscores between digits (after
a prefix too) and the decimal digits of every script.  Decimal numbers of more than 4300 digits are neither
read nor shown.
-/

namespace RequestSamples.Numeral

/-- The most digits that a decimal number may have. -/
def maxDigits : Nat := 4300

/-- The decimal text of an integer. -/
def write : Int → List Char
  | .ofNat n => Nat.toDigits 10 n
  | .negSucc n => '-' :: Nat.toDigits 10 (n + 1)

/-- The integer has more digits than a decimal number may have. -/
def isLong (n : Int) : Bool := maxDigits < (Nat.toDigits 10 n.natAbs).length

private theorem isLong_iff {n : Int} : isLong n = true ↔ 10 ^ maxDigits ≤ n.natAbs := by
  have hshort : (Nat.toDigits 10 n.natAbs).length ≤ maxDigits ↔ n.natAbs < 10 ^ maxDigits :=
    Nat.length_toDigits_le_iff (by decide) (by decide)
  rw [isLong, decide_eq_true_iff, ← Nat.not_le, hshort, Nat.not_lt]

theorem isLong_pow {m : Nat} (h : maxDigits ≤ m) : isLong (10 ^ m) = true := by
  rw [isLong_iff, Int.natAbs_pow]
  exact Nat.pow_le_pow_right (by decide) h

/-- The value of a digit in a base of at most sixteen. -/
def digitIn? (base : Nat) (c : Char) : Option Nat :=
  let value := match Text.decimalDigit? c with
    | some d => some d
    | none =>
      if 'a' ≤ c && c ≤ 'f' then some (c.toNat - 0x57)
      else if 'A' ≤ c && c ≤ 'F' then some (c.toNat - 0x37)
      else none
  value.filter (· < base)

/-- A sign and the text after it. -/
def splitSign : List Char → Bool × List Char
  | '-' :: cs => (true, cs)
  | '+' :: cs => (false, cs)
  | cs => (false, cs)

/-- The digits of a text in which single underscores stand between digits only.  The flag says that a digit
has just been read. -/
def digits? (base : Nat) : Bool → List Char → Option (List Nat)
  | afterDigit, [] => if afterDigit then some [] else none
  | afterDigit, c :: cs =>
    if c = '_' then if afterDigit then digits? base false cs else none
    else do
      let d ← digitIn? base c
      let ds ← digits? base true cs
      return d :: ds

/-- The integer of a sign and a size. -/
def signed (negative : Bool) (n : Nat) : Int := if negative then -n else n

/-- The digits of a decimal number, leading zeros allowed. -/
def decimalDigits? (cs : List Char) : Option (List Nat) :=
  (digits? 10 false cs).filter fun ds => ds.length ≤ maxDigits

/-- Reads a decimal number; zeros may lead. -/
def readDecimal? (cs : List Char) : Option Int :=
  let (negative, cs) := splitSign cs
  (decimalDigits? cs).map fun ds => signed negative (ofDigits 10 ds)

/-- The base that the letter of a prefix names. -/
def prefixBase? (c : Char) : Option Nat :=
  if c = 'x' || c = 'X' then some 16
  else if c = 'o' || c = 'O' then some 8
  else if c = 'b' || c = 'B' then some 2
  else none

/-- The base and the digits after a prefix; one underscore may follow the prefix. -/
def splitPrefix? : List Char → Option (Nat × List Char)
  | z :: c :: cs =>
    if Text.decimalDigit? z = some 0 then
      (prefixBase? c).map fun base => (base, if cs.head? = some '_' then cs.tail else cs)
    else none
  | _ => none

/-- Reads a literal: with a prefix, or decimal and not beginning with a zero unless it is zero. -/
def readLiteral? (cs : List Char) : Option Int :=
  let (negative, cs) := splitSign cs
  match splitPrefix? cs with
  | some (base, cs) => (digits? base false cs).map fun ds => signed negative (ofDigits base ds)
  | none => do
    let ds ← decimalDigits? cs
    let n := ofDigits 10 ds
    if ds.head? = some 0 && n ≠ 0 then none else some (signed negative n)

/-- White space that may stand around a number; separators are blank, but no white space. -/
def isPadding (c : Char) : Bool := Text.isBlank c && !(0x1c ≤ c.toNat && c.toNat ≤ 0x1f)

/-- The text without the white space at either end. -/
def unpadded (cs : List Char) : List Char :=
  ((cs.dropWhile isPadding).reverse.dropWhile isPadding).reverse

/-- Reads a number in base sixteen, with its prefix or without. -/
def readHex? (cs : List Char) : Option Int :=
  let (negative, cs) := splitSign (unpadded cs)
  let cs := match splitPrefix? cs with
    | some (16, cs) => cs
    | _ => cs
  (digits? 16 false cs).map fun ds => signed negative (ofDigits 16 ds)

/-- Reads an integer as a literal, and as a decimal number if it is no literal. -/
def read? (cs : List Char) : Option Int := readLiteral? cs <|> readDecimal? cs

end RequestSamples.Numeral
