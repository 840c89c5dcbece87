import RequestSamples.ApiKey

/-!
# Sets of request kinds

A set of request kinds is an object.  It stands at a place, and whoever knows the place sees it as it has become
since.  Union, intersection and difference make new sets, of the sort of the set on their left.  A union in place
changes the set on its left instead, unless that is frozen: then it makes a new one as well.
-/

namespace RequestSamples

/-- A set of request kinds. -/
structure KeySet where
  /-- The set never changes. -/
  frozen : Bool
  has : ApiKey → Bool

namespace KeySet

/-- The kinds in a set, by wire id. -/
def members (s : KeySet) : List ApiKey := ApiKey.all.filter s.has

/-- What is in either of two sets; a set that comes of two is of the sort of the first one. -/
def union (s s' : KeySet) : KeySet := ⟨s.frozen, fun k => s.has k || s'.has k⟩

/-- What is in both of two sets. -/
def intersection (s s' : KeySet) : KeySet := ⟨s.frozen, fun k => s.has k && s'.has k⟩

/-- What is in the first of two sets only. -/
def difference (s s' : KeySet) : KeySet := ⟨s.frozen, fun k => s.has k && !s'.has k⟩

/-- Computations with sets, which stand at places. -/
abbrev Program := StateM (List KeySet)

namespace Program

/-- The set at a place. -/
def load (i : Nat) : Program KeySet := do return (← get).getD i ⟨true, fun _ => false⟩

/-- A new set. -/
def make (s : KeySet) : Program Nat := do
  let sets ← get
  set (sets ++ [s])
  return sets.length

/-- A new set of two others. -/
def combine (op : KeySet → KeySet → KeySet) (i j : Nat) : Program Nat := do make (op (← load i) (← load j))

/-- The union of two sets, in the place of the first one unless that is frozen. -/
def unite (i j : Nat) : Program Nat := do
  let s ← load i
  if s.frozen then combine union i j
  else
    let united := union s (← load j)
    modify (·.set i united)
    return i

end Program

end KeySet

end RequestSamples
