import RequestSamples.Power

/-!
# Binary floating point numbers of 64 bits

A finite number is a sign, a significand below `2 ^ 53` and an exponent of two that is at least `-1074`;
beyond the largest of them lie two infinities, and one number is undefined.  All arithmetic is exact on
integers and rounds once, to the nearest number and of two nearest ones to that with the even significand.
-/

namespace RequestSamples

/-- A number of 64 bits: `± significand * 2 ^ exponent`, an infinity, or the undefined number. -/
inductive Binary64
  | finite (negative : Bool) (significand : Nat) (exponent : Int)
  | infinite (negative : Bool)
  | undefined
deriving DecidableEq, Repr

namespace Binary64

instance : Inhabited Binary64 := ⟨finite false 0 (-1074)⟩

/-- The integer nearest to `n / d`, and of two nearest ones the even one. -/
def roundHalfEven (n d : Nat) : Nat :=
  let q := n / d
  let r := n % d
  if 2 * r < d then q
  else if d < 2 * r then q + 1
  else if q % 2 = 0 then q else q + 1

/-- The greatest `b` with `2 ^ b ≤ n / d`, for positive `n` and `d`. -/
def binade (n d : Nat) : Int :=
  let guess : Int := (n.log2 : Int) - d.log2
  if d * 2 ^ guess.toNat ≤ n * 2 ^ (-guess).toNat then guess else guess - 1

/-- The number nearest to `± n / d`. -/
def ofRatio (negative : Bool) (n d : Nat) : Binary64 :=
  if n = 0 then finite negative 0 (-1074)
  else
    let exponent := max (binade n d - 52) (-1074)
    let significand := roundHalfEven (n * 2 ^ (-exponent).toNat) (d * 2 ^ exponent.toNat)
    let (significand, exponent) :=
      if significand = 2 ^ 53 then (2 ^ 52, exponent + 1) else (significand, exponent)
    if 971 < exponent then infinite negative else finite negative significand exponent

/-- The number nearest to `± digits * 10 ^ exponent`.  An exponent far out of range decides without
computing the power. -/
def ofDecimal (negative : Bool) (digits : Nat) (exponent : Int) : Binary64 :=
  if digits = 0 then finite negative 0 (-1074)
  else if 400 < exponent then infinite negative
  else if exponent + digits.log2 < -400 then finite negative 0 (-1074)
  else ofRatio negative (digits * 10 ^ exponent.toNat) (10 ^ (-exponent).toNat)

/-- The number nearest to `k` times this one. -/
def scale (k : Nat) : Binary64 → Binary64
  | finite negative m e => ofRatio negative (m * k * 2 ^ e.toNat) (2 ^ (-e).toNat)
  | x => x

/-- The exact value of a finite number. -/
def toRat? : Binary64 → Option Rat
  | finite negative m e =>
    let size : Rat := mkRat (m * 2 ^ e.toNat) (2 ^ (-e).toNat)
    some (if negative then -size else size)
  | infinite _ | undefined => none

/-- The integer part of a finite number. -/
def truncate? : Binary64 → Option Int
  | finite negative m e =>
    let size : Int := (m * 2 ^ e.toNat) / 2 ^ (-e).toNat
    some (if negative then -size else size)
  | infinite _ | undefined => none

end Binary64

end RequestSamples
