import RequestSamples.Session

/-!
# Runs of sessions

A run takes steps one after the other and keeps each with its answer.  What every step preserves holds at its end
(`run_preserves`).
-/

namespace RequestSamples.Session

/-- Steps with their answers, in order. -/
abbrev Transcript := List (Step × Except Failure Reply)

/-- A session that goes on by these steps. -/
def run (t : Tables) : Session → List Step → Transcript × Session
  | s, [] => ([], s)
  | s, st :: sts => ((st, (s.step t st).1) :: (run t (s.step t st).2 sts).1, (run t (s.step t st).2 sts).2)

/-- Each step of a run is allowed when it is taken. -/
def Along (t : Tables) (allowed : Session → Step → Prop) : Session → List Step → Prop
  | _, [] => True
  | s, st :: sts => allowed s st ∧ Along t allowed (s.step t st).2 sts

variable {t : Tables}

theorem Along.mem {allowed : Session → Step → Prop} {p : Step → Prop} (hallowed : ∀ s st, allowed s st → p st)
    {s : Session} {sts : List Step} (h : s.Along t allowed sts) : ∀ st ∈ sts, p st := by
  induction sts generalizing s with
  | nil => exact List.forall_mem_nil p
  | cons st sts ih => exact List.forall_mem_cons.mpr ⟨hallowed s st h.1, ih h.2⟩

theorem step_setEnvironment {s : Session} {name text : String} (hcheck : Environment.check name text = .ok ()) :
    s.step t (.setEnvironment name (.text text)) =
      (.ok .nothing, { s with environment := (name, text) :: s.environment.unset name }) := by
  simp only [step, Environment.set, hcheck]
  rfl

theorem run_preserves {P : Session → Prop} (hstep : ∀ s st, P s → P (s.step t st).2) {s : Session} (hs : P s)
    (sts : List Step) : P (s.run t sts).2 := by
  induction sts generalizing s with
  | nil => exact hs
  | cons st sts ih => exact ih (hstep s st hs)

/-- The samples among the answers. -/
def samples (told : Transcript) : List Sample :=
  told.filterMap fun e =>
    match e.2 with
    | .ok (.sample sample) => some sample
    | _ => none

end RequestSamples.Session
