import Mathlib.Data.List.Forall2
import RequestSamples.Proofs.Generator.Turn

/-!
# What runs log

A key is announced as soon as it has been found, if its kind is left out of the default run, and its sample is
reported once it has been made (`events_of_error`, `events_of_ok`).  So the records of a run account for all keys that
it has reached (`events_run`): two at most for each key with a sample, and at most the first of them for the key at
which the run has failed.
-/

namespace RequestSamples

namespace Log

private theorem Event.ten_le_level (e : Event) : 10 ≤ e.level := by
  cases e <;> simp [level]

/-- At level ten all records are passed on. -/
theorem passed_ten (events : List Event) : passed 10 events = events := by
  refine List.filter_eq_self.mpr ?_
  intro e _
  exact decide_eq_true e.ten_le_level

end Log

namespace Generator

variable {σ : Type}

/-- What is logged about a key before its request is filled. -/
def announced (t : Tables) (key : Value) : List Log.Event :=
  match t.lookup key with
  | .ok k => asked t k
  | .error _ => []

/-- What is logged about kinds and their samples, one after the other. -/
def reported (t : Tables) (kinds : List ApiKey) (samples : List Sample) : List Log.Event :=
  (kinds.zip samples).flatMap fun e => asked t e.1 ++ [.generated e.1 e.2.version]

/-- The key at which a run has failed. -/
def Run.failedAt (r : Run σ) (ks : List Value) : Option Value := r.failure.bind fun _ => ks[r.samples.length]?

variable {t : Tables} {resolve : Resolver} {draws : NameSource σ} {key : Value} {s : σ}

theorem events_of_error {e : Failure} (h : (turn t resolve draws key s).result = .error e) :
    (turn t resolve draws key s).events = announced t key := by
  have ends := turn_ends t resolve draws key s
  generalize turn t resolve draws key s = now at ends h
  unfold announced
  cases ends with
  | unknown hk | unfilled hk | unresolved hk => rw [hk]
  | sampled => cases h

theorem events_of_ok {sample : Sample} (h : (turn t resolve draws key s).result = .ok sample) :
    ∃ k, t.lookup key = .ok k ∧
      (turn t resolve draws key s).events = asked t k ++ [.generated k sample.version] := by
  have ends := turn_ends t resolve draws key s
  generalize turn t resolve draws key s = now at ends h
  cases ends with
  | unknown | unfilled | unresolved => cases h
  | sampled hk =>
    cases h
    exact ⟨_, hk, rfl⟩

variable (t resolve draws)

/-- A run goes through all its keys unless it fails at one of them. -/
theorem length_samples (ks : List Value) (s : σ) :
    ((run t resolve draws ks s).failure = none → (run t resolve draws ks s).samples.length = ks.length) ∧
      ((run t resolve draws ks s).failure ≠ none → (run t resolve draws ks s).samples.length < ks.length) := by
  induction ks generalizing s with
  | nil => exact ⟨fun _ => rfl, fun h => absurd rfl h⟩
  | cons k ks ih =>
    cases hk : (turn t resolve draws k s).result with
    | error e =>
      rw [run_cons_error hk]
      exact ⟨nofun, fun _ => Nat.succ_pos _⟩
    | ok sample =>
      rw [run_cons_ok hk]
      obtain ⟨hall, hsome⟩ := ih (turn t resolve draws k s).source
      exact ⟨fun h => congrArg (· + 1) (hall h), fun h => Nat.succ_lt_succ (hsome h)⟩

/-- The keys with samples have been found, and there is nothing in the log but what belongs to them and to the key at
which the run has failed. -/
theorem events_run (ks : List Value) (s : σ) :
    ∃ kinds, List.Forall₂ (fun key k => t.lookup key = .ok k)
        (ks.take (run t resolve draws ks s).samples.length) kinds ∧
      (run t resolve draws ks s).events =
        reported t kinds (run t resolve draws ks s).samples ++
          ((run t resolve draws ks s).failedAt ks).elim [] (announced t) := by
  induction ks generalizing s with
  | nil => exact ⟨[], .nil, rfl⟩
  | cons k ks ih =>
    cases hk : (turn t resolve draws k s).result with
    | error e =>
      rw [run_cons_error hk]
      exact ⟨[], .nil, events_of_error hk⟩
    | ok sample =>
      rw [run_cons_ok hk]
      obtain ⟨kind, hkind, hfirst⟩ := events_of_ok hk
      obtain ⟨kinds, hkinds, hlater⟩ := ih (turn t resolve draws k s).source
      refine ⟨kind :: kinds, .cons hkind hkinds, ?_⟩
      simp only [hfirst, hlater, reported, List.zip_cons_cons, List.flatMap_cons, List.append_assoc]
      rfl

end Generator

end RequestSamples
