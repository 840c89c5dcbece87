import RequestSamples.Session

/-!
# Parts of a session

Steps about the environment and the sources look neither at generators nor at kept messages nor at the logger: they do
the same whatever these parts are, and leave them (`step_withParts`).  Steps about kept messages do the same whatever
generators and logger there are (`step_withOthers`).
-/

namespace RequestSamples.Session

/-- The step is about the environment and the sources. -/
def Step.ConcernsSources : Step → Prop
  | .setEnvironment .. | .reset | .seed | .sharedSeed | .sharedIsSame | .sharedDraw _ | .makeSource ..
  | .setSuffixDigits .. | .draw .. | .left _ => True
  | _ => False

/-- The step is about kept messages. -/
def Step.ConcernsMessages : Step → Prop
  | .makeSkeleton .. | .makeMessage .. | .populate .. | .show _ | .equal .. | .set .. | .append .. | .share .. => True
  | _ => False

/-- The session with its generators, its kept messages and its logger changed like this. -/
def withParts (s : Session) (gs : List (String × Suspended) → List (String × Suspended)) (r : Store → Store)
    (l : Logger → Logger) : Session :=
  { s with generators := gs s.generators, store := r s.store, logger := l s.logger }

variable {t : Tables} {s : Session} {st : Step}

theorem sharedPlace_withParts (gs : List (String × Suspended) → List (String × Suspended)) (r : Store → Store)
    (l : Logger → Logger) :
    (s.withParts gs r l).sharedPlace = s.sharedPlace.map fun p => (p.1, p.2.withParts gs r l) := by
  unfold sharedPlace
  rw [show (s.withParts gs r l).shared = s.shared from rfl,
    show (s.withParts gs r l).environment = s.environment from rfl]
  cases s.shared with
  | some i => rfl
  | none => cases Settings.seed s.environment <;> rfl

/-- A step that is about sources does the same whatever the other parts are, and leaves them. -/
theorem step_withParts (hst : st.ConcernsSources) (gs : List (String × Suspended) → List (String × Suspended))
    (r : Store → Store) (l : Logger → Logger) :
    (s.withParts gs r l).step t st = ((s.step t st).1, (s.step t st).2.withParts gs r l) := by
  cases st with
  | setEnvironment name text =>
    simp only [step]
    show (s.withParts gs r l).changed ((s.environment.set name text).map _) = _
    cases s.environment.set name text <;> rfl
  | sharedIsSame | sharedDraw =>
    simp only [step]
    rw [sharedPlace_withParts]
    cases s.sharedPlace <;> rfl
  | sharedSeed =>
    simp only [step]
    rw [sharedPlace_withParts]
    cases s.sharedPlace with
    | error e => rfl
    | ok p =>
      dsimp only [Except.map]
      rw [show (p.2.withParts gs r l).sourceAt p.1 = p.2.sourceAt p.1 from rfl]
      cases p.2.sourceAt p.1 <;> rfl
  | setSuffixDigits id | draw id | left id =>
    simp only [step]
    rw [show (s.withParts gs r l).sourcePlace id = s.sourcePlace id from rfl]
    cases s.sourcePlace id <;> rfl
  | reset | seed | makeSource => rfl
  | _ => cases hst

/-- A step that is about messages does the same whatever generators and logger there are, and leaves them. -/
theorem step_withOthers (hst : st.ConcernsMessages) (gs : List (String × Suspended) → List (String × Suspended))
    (l : Logger → Logger) :
    (s.withParts gs (fun r => r) l).step t st =
      ((s.step t st).1, (s.step t st).2.withParts gs (fun r => r) l) := by
  have hstored (r : Except Failure Store) : (s.withParts gs (fun r => r) l).stored r =
      ((s.stored r).1, (s.stored r).2.withParts gs (fun r => r) l) := by
    cases r <;> rfl
  cases st with
  | populate id key source =>
    simp only [step]
    rw [show (s.withParts gs (fun r => r) l).sourcePlace source = s.sourcePlace source from rfl,
      show (s.withParts gs (fun r => r) l).store = s.store from rfl]
    split <;> rfl
  | «show» id =>
    simp only [step]
    rw [show (s.withParts gs (fun r => r) l).store = s.store from rfl]
    cases s.store.view id <;> rfl
  | makeSkeleton | makeMessage | set | append | share => exact hstored _
  | equal => rfl
  | _ => cases hst

end RequestSamples.Session
