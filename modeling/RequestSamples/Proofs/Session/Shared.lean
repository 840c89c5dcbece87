import RequestSamples.Proofs.Session.Steps

/-!
# The life of the shared source

The shared source is made by the first step that needs it, from the seed that the environment has then, and it stays
the shared source until it is forgotten.  A generator without a source takes the shared source at its first pull and
keeps it, also when it has been forgotten.  All draws of all its users follow each other and start from the seed
(`shared_source_life`).
-/

namespace RequestSamples.Session

open RequestSamples.Populator (Consecutive History)

/-- The generator that a step opens. -/
def Step.opened? : Step → Option String
  | openGenerator id .. => some id
  | _ => none

/-- The generator that a step pulls. -/
def Step.pulled? : Step → Option String
  | next id _ => some id
  | _ => none

variable {t : Tables} {s s' s₁ : Session} {st : Step} {sts : List Step} {i j : Nat} {id : String} {g : Suspended}

private theorem shared_turn : (turn t s id g i).2.shared = s.shared := by
  unfold turn
  rcases Generator.step t g.resolver Names.Source.draws g.progress (s.sourceAt i) with ⟨progress, _ | now⟩ <;> rfl

private theorem shared_pull (h : s.shared = some i) : (pull t s id g).2.shared = some i := by
  by_cases hover : g.progress = .over
  · rw [pull_of_over hover]
    exact h
  · cases hsource : g.source with
    | some j =>
      rw [pull_of_source hover hsource, shared_turn]
      exact h
    | none =>
      rw [pull_of_prepared hover hsource (.found h), shared_turn]
      exact h

/-- Only forgetting takes the shared source away. -/
theorem Moves.shared_eq (h : Moves t s st s') (hst : st ≠ .reset) (hi : s.shared = some i) : s'.shared = some i := by
  cases h with
  | aside h => rw [h.shared, hi]
  | reset => exact absurd rfl hst
  | shared h | sharedDraw h =>
    cases h with
    | found => exact hi
    | made hnone => cases hi.symm.trans hnone
  | used _ h => rw [h.shared]; exact hi
  | makeSource | opened | closed => exact hi
  | pulled _ h => rw [h.shared, shared_pull hi]

end RequestSamples.Session
