import RequestSamples.Value

/-!
# Ranges of versions

The versions from a lowest to a highest one.  The range is empty if the highest lies below the lowest.
-/

namespace RequestSamples

/-- The versions from `lowest` to `highest`. -/
structure Versions where
  lowest : Int
  highest : Int
deriving DecidableEq, Repr

namespace Versions

/-- The range has no version. -/
def isEmpty (r : Versions) : Bool := r.highest < r.lowest

/-- All versions, in order. -/
def toList (r : Versions) : List Int :=
  (List.range (r.highest - r.lowest + 1).toNat).map fun (i : Nat) => r.lowest + i

/-- A value denotes a version of the range. -/
def contains (r : Versions) (v : Value) : Bool :=
  match v.number? with
  | some (.finite q) => q.den = 1 && r.lowest ≤ q.num && q.num ≤ r.highest
  | _ => false

theorem mem_toList {r : Versions} {n : Int} : n ∈ r.toList ↔ r.lowest ≤ n ∧ n ≤ r.highest := by
  simp only [toList, List.mem_map, List.mem_range]
  constructor
  · rintro ⟨i, hi, rfl⟩
    omega
  · rintro ⟨h₁, h₂⟩
    exact ⟨(n - r.lowest).toNat, by omega, by omega⟩

theorem contains_int {r : Versions} {n : Int} : r.contains (.int n) = true ↔ n ∈ r.toList := by
  rw [mem_toList, contains, Value.number?_int]
  show (_ && decide (r.lowest ≤ n) && decide (n ≤ r.highest)) = true ↔ _
  simp

end Versions

end RequestSamples
