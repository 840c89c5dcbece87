/-!
# Ranges of code points

A character class that follows a standard is a list of ranges of code points, both ends included.
Membership in such a list is membership in one of its ranges.
-/

namespace RequestSamples.Text

/-- A list of ranges of code points, both ends included. -/
abbrev Ranges := List (Nat × Nat)

/-- The code point of `c` lies in one of the ranges. -/
def Ranges.holds (rs : Ranges) (c : Char) : Bool :=
  rs.any fun (low, high) => low ≤ c.toNat && c.toNat ≤ high

end RequestSamples.Text
