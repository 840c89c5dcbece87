import RequestSamples.Bytes

/-!
# Variable-length integers

A natural number is written in groups of seven bits, least significant first; the high bit of a byte says
that more follow.  A signed integer is first folded onto the naturals below `2 ^ 64`: `0, -1, 1, -2, …` become
`0, 1, 2, 3, …`, and integers beyond 63 bits and a sign wrap.
-/

namespace RequestSamples.Varint

/-- At most `more` further groups of seven bits, least significant first. -/
def writeGroups : (more : Nat) → (n : Nat) → Bytes
  | 0, n => [UInt8.ofNat n]
  | more + 1, n =>
    if n < 0x80 then [UInt8.ofNat n] else UInt8.ofNat (n % 0x80 + 0x80) :: writeGroups more (n / 0x80)

/-- A natural number below `2 ^ 64`: ten groups of seven bits hold it. -/
def writeNat (n : Nat) : Bytes := writeGroups 9 n

/-- Reads one number and gives the bytes after it. -/
def readNat? : Bytes → Option (Nat × Bytes)
  | [] => none
  | b :: bs =>
    if b < 0x80 then some (b.toNat, bs)
    else (readNat? bs).map fun (n, rest) => (b.toNat % 0x80 + 0x80 * n, rest)

/-- The fold of the integers onto the numbers below `2 ^ 64`. -/
def fold (v : Int) : Nat :=
  (BitVec.ofInt 64 (2 * v) ^^^ BitVec.ofInt 64 (v / 2 ^ 63)).toNat

/-- The integer that folds onto `n`. -/
def unfold (n : Nat) : Int := if n % 2 = 0 then n / 2 else -(n / 2 : Int) - 1

/-- A signed integer. -/
def write (v : Int) : Bytes := writeNat (fold v)

/-- Reads one signed integer and gives the bytes after it. -/
def read? (bs : Bytes) : Option (Int × Bytes) := (readNat? bs).map fun (n, rest) => (unfold n, rest)

example : write 0 = [0x00] := by decide
example : write (-1) = [0x01] := by decide
example : write 64 = [0x80, 0x01] := by decide
example : write (-2 ^ 63) = List.replicate 9 0xff ++ [0x01] := by decide

end RequestSamples.Varint
