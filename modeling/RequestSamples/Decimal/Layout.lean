import RequestSamples.Decimal.Shortest

/-!
# Layouts of decimal numbers

How the shortest decimal of a number is set out: which positions of the point are written without an exponent,
and how an exponent is written.  The two layouts in use differ in both.
-/

namespace RequestSamples.Decimal

/-- The decisions of a number format. -/
structure Layout where
  /-- The point stands above this position in a number without an exponent. -/
  below : Int
  /-- The greatest position of the point in a number without an exponent. -/
  highest : Int
  /-- A positive exponent has a plus sign. -/
  plusSign : Bool
  /-- The exponent has at least so many digits. -/
  exponentDigits : Nat
  /-- The spelling of a positive and of a negative infinity. -/
  infinity : String
  negativeInfinity : String
  /-- The spelling of the undefined number. -/
  undefined : String

/-- Numbers in messages about values: positional from `0.0001` up to below `10 ^ 16`, exponents with a sign
and two digits. -/
def Layout.quoted : Layout := ⟨-4, 16, true, 2, "inf", "-inf", "nan"⟩

/-- Numbers in JSON text: positional from `0.00001` up to below `10 ^ 16`, bare exponents, finite numbers
only. -/
def Layout.json : Layout := ⟨-5, 16, false, 1, "null", "null", "null"⟩

/-- Numbers in answers, where those that are not finite have names of their own. -/
def Layout.named : Layout :=
  { Layout.json with infinity := "Infinity", negativeInfinity := "-Infinity", undefined := "NaN" }

/-- Digits without an exponent, with at least one digit on each side of the point. -/
def positional (d : Digits) : List Char :=
  if d.point ≤ 0 then '0' :: '.' :: List.replicate (-d.point).toNat '0' ++ d.digits
  else
    let places := d.point.toNat
    if d.digits.length ≤ places then d.digits ++ List.replicate (places - d.digits.length) '0' ++ ['.', '0']
    else d.digits.take places ++ '.' :: d.digits.drop places

/-- Digits with an exponent, the point after the first digit. -/
def Layout.scientific (l : Layout) (d : Digits) : List Char :=
  let exponent := d.point - 1
  let size := Nat.toDigits 10 exponent.natAbs
  let sign := if exponent < 0 then ['-'] else if l.plusSign then ['+'] else []
  let mantissa := match d.digits with
    | [] => ['0']
    | [c] => [c]
    | c :: cs => c :: '.' :: cs
  mantissa ++ 'e' :: sign ++ List.replicate (l.exponentDigits - size.length) '0' ++ size

/-- The text of a number. -/
def Layout.write (l : Layout) : Binary64 → List Char
  | .infinite negative => (if negative then l.negativeInfinity else l.infinity).toList
  | .undefined => l.undefined.toList
  | .finite negative m e =>
    let d := shortest m e
    let size := if l.below < d.point && d.point ≤ l.highest then positional d else l.scientific d
    if negative then '-' :: size else size

example : Layout.quoted.write (.ofDecimal false 1 16) = "1e+16".toList := by decide +kernel
example : Layout.json.write (.ofDecimal false 1 16) = "1e16".toList := by decide +kernel
example : Layout.json.write (.ofDecimal true 1 (-5)) = "-0.00001".toList := by decide +kernel
example : Layout.quoted.write (.ofDecimal false 5 (-324)) = "5e-324".toList := by decide +kernel
example : Layout.json.write (.ofDecimal false 30000000000000004 (-17)) = "0.30000000000000004".toList := by
  decide +kernel

end RequestSamples.Decimal
