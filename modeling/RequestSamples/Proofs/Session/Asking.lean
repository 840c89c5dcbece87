import RequestSamples.Proofs.Generator.Default
import RequestSamples.Proofs.Generator.Logged
import RequestSamples.Proofs.Session.Places

/-!
# Ways of asking for everything

Samples can be asked for without keys, for all kinds, or for a list of keys.  The keys of the default run are the
kinds that are not left out, by wire id, and a run over kinds that are not left out announces none of them
(`level_of_run`) and gives their samples in order (`apiKeys_of_run`).  What a run does depends on a selection through
its keys only, and so does what a session answers to the pulls of a generator (`next_of_keys_eq`).  So the three ways
of asking for everything agree, and an empty list of keys is not one of them (`default_forms_agree`).
-/

namespace RequestSamples

private theorem ApiKey.all_pairwise : ApiKey.all.Pairwise fun j k => j.id < k.id := by
  decide

namespace Tables

variable {t : Tables}

private theorem defaultKeys_pairwise (t : Tables) : t.defaultKeys.Pairwise fun j k => j.id < k.id :=
  ApiKey.all_pairwise.filter _

private theorem mem_defaultKeys {k : ApiKey} : k ∈ t.defaultKeys ↔ t.excluded k = false := by
  simp only [defaultKeys, List.mem_filter, ApiKey.mem_all, true_and, Bool.not_eq_true']

/-- A kind is found as itself. -/
private theorem eq_of_lookup_key {j k : ApiKey} (h : t.lookup (.key j) = .ok k) : k = j := by
  rw [lookup_key] at h
  split at h
  · exact (Except.ok.inj h).symm
  · cases h

end Tables

namespace Generator

variable {σ : Type} {t : Tables} {resolve : Resolver} {draws : NameSource σ} {s : σ}

/-- The turn of a kind that is not left out announces nothing. -/
private theorem level_of_turn {k : ApiKey} (hk : t.excluded k = false) :
    ∀ e ∈ (turn t resolve draws (.key k) s).events, e.level = 10 := by
  have quiet {j : ApiKey} (hj : t.lookup (.key k) = .ok j) : asked t j = [] := by
    obtain rfl := Tables.eq_of_lookup_key hj
    rw [asked, hk]
    rfl
  intro e he
  have ends := turn_ends t resolve draws (.key k) s
  generalize turn t resolve draws (.key k) s = now at ends he
  cases ends with
  | unknown => cases he
  | unfilled hj | unresolved hj =>
    rw [quiet hj] at he
    cases he
  | sampled hj =>
    rw [quiet hj, List.nil_append, List.mem_singleton] at he
    rw [he]
    rfl

theorem level_of_run {ks : List ApiKey} (h : ∀ k ∈ ks, t.excluded k = false) :
    ∀ e ∈ (run t resolve draws (ks.map .key) s).events, e.level = 10 := by
  induction ks generalizing s with
  | nil => intro e he; cases he
  | cons k ks ih =>
    have hfirst : ∀ e ∈ (turn t resolve draws (.key k) s).events, e.level = 10 :=
      level_of_turn (h k List.mem_cons_self)
    rw [List.map_cons]
    cases hk : (turn t resolve draws (.key k) s).result with
    | error e =>
      rw [run_cons_error hk]
      exact hfirst
    | ok sample =>
      rw [run_cons_ok hk]
      intro e he
      rcases List.mem_append.mp he with he | he
      · exact hfirst e he
      · exact ih (fun k hk => h k (List.mem_cons_of_mem _ hk)) e he

/-- A run that goes through has one sample of each kind, in order. -/
theorem apiKeys_of_run {ks : List ApiKey} (h : (run t resolve draws (ks.map .key) s).failure = none) :
    (run t resolve draws (ks.map .key) s).samples.map (·.message.apiKey) = ks.map fun k => .ok (.key k) := by
  induction ks generalizing s with
  | nil => rfl
  | cons k ks ih =>
    rw [List.map_cons] at h ⊢
    cases hk : (turn t resolve draws (.key k) s).result with
    | error e =>
      rw [run_cons_error hk] at h
      cases h
    | ok sample =>
      rw [run_cons_ok hk] at h ⊢
      obtain ⟨j, done, hj, hf, -, hmessage, -⟩ := turn_eq_ok hk
      obtain rfl := Tables.eq_of_lookup_key hj
      have hkey : sample.message.apiKey = .ok (.key j) := by
        rw [hmessage]
        exact Populator.apiKey_of_run hf
      rw [List.map_cons, List.map_cons, hkey, ih h]

end Generator

namespace Session

open Generator (Progress)

variable {t : Tables} {s : Session} {id : String} {g g' : Suspended} {resolve : Resolver} {place : Option Nat}
  {selection selection' : Selection}

private theorem setGenerator_setGenerator : (s.setGenerator id g').setGenerator id g = s.setGenerator id g := by
  simp [setGenerator, List.filter_filter]

private theorem turn_setGenerator (i : Nat) : turn t (s.setGenerator id g') id g i = turn t s id g i := by
  simp only [turn, setGenerator_setGenerator]
  rfl

/-- A pull of a generator that is not over replaces the generator. -/
private theorem pull_setGenerator (h : g.progress ≠ .over) : pull t (s.setGenerator id g') id g = pull t s id g := by
  have hshared : (s.setGenerator id g').sharedPlace =
      s.sharedPlace.map fun p => (p.1, p.2.setGenerator id g') := by
    have hkept : (s.setGenerator id g').shared = s.shared := rfl
    unfold sharedPlace
    rw [hkept]
    cases s.shared with
    | some i => rfl
    | none =>
      show (Settings.seed s.environment >>= _) = Except.map _ (Settings.seed s.environment >>= _)
      cases Settings.seed s.environment <;> rfl
  unfold pull
  rw [hshared]
  cases hp : g.progress with
  | «over» => exact absurd hp h
  | fresh | ready =>
    cases g.source with
    | some i => exact turn_setGenerator i
    | none =>
      cases s.sharedPlace with
      | error e => exact congrArg (Prod.mk _) setGenerator_setGenerator
      | ok p => exact turn_setGenerator p.1

private theorem turn_of_keys_eq (h : selection.keys t = selection'.keys t) (i : Nat) :
    turn t s id ⟨resolve, place, .fresh selection⟩ i = turn t s id ⟨resolve, place, .fresh selection'⟩ i := by
  have hstep (source : Names.Source) :
      Generator.step t resolve Names.Source.draws (.fresh selection) source =
        Generator.step t resolve Names.Source.draws (.fresh selection') source := by
    simp only [Generator.step, h]
  unfold turn
  simp only [hstep]

private theorem pull_of_keys_eq (h : selection.keys t = selection'.keys t) :
    pull t s id ⟨resolve, place, .fresh selection⟩ = pull t s id ⟨resolve, place, .fresh selection'⟩ := by
  unfold pull
  cases place with
  | some i => exact turn_of_keys_eq h i
  | none =>
    cases s.sharedPlace with
    | error e => rfl
    | ok p => exact turn_of_keys_eq h p.1

/-- After its first pull a generator is the same for all selections with the same keys, and so is the session. -/
theorem next_of_keys_eq (h : selection.keys t = selection'.keys t) (source into : Option String) :
    ((s.step t (.openGenerator id (.ok selection) (.ok resolve) source)).2.step t (.next id into)) =
      ((s.step t (.openGenerator id (.ok selection') (.ok resolve) source)).2.step t (.next id into)) := by
  cases hplace : source.mapM s.sourcePlace with
  | error e =>
    have hopen (selection : Selection) :
        (s.step t (.openGenerator id (.ok selection) (.ok resolve) source)).2 = s := by
      simp only [step, hplace]
      rfl
    rw [hopen, hopen]
  | ok place =>
    have hopen (selection : Selection) :
        (s.step t (.openGenerator id (.ok selection) (.ok resolve) source)).2 =
          s.setGenerator id ⟨resolve, place, .fresh selection⟩ := by
      simp only [step, hplace]
      rfl
    have hfresh (selection : Selection) : Progress.fresh selection ≠ .over := by
      intro h
      cases h
    have hpull : pull t (s.setGenerator id ⟨resolve, place, .fresh selection⟩) id ⟨resolve, place, .fresh selection⟩ =
        pull t (s.setGenerator id ⟨resolve, place, .fresh selection'⟩) id ⟨resolve, place, .fresh selection'⟩ := by
      rw [pull_setGenerator (hfresh selection), pull_setGenerator (hfresh selection'), pull_of_keys_eq h]
    rw [hopen, hopen]
    simp only [step, generator, lookup_setGenerator, hpull]

end Session

namespace Generator

variable {σ : Type}

/-- Asking without keys, for all kinds and for the keys of the default run gives the same samples, the same failure and
the same records, none of them above the lowest level, and takes the source to the same state; a session cannot tell
them apart either, whatever source they draw from.  The keys of the default run are the kinds that are not left out,
increasing by wire id, and unless the run fails its samples are of these kinds.  No keys at all are another thing: they
give nothing and draw nothing. -/
theorem default_forms_agree (t : Tables) (resolve : Resolver) (draws : NameSource σ) (s : σ) :
    generate t resolve draws .null s = forAll t resolve draws s ∧
      forKeys t resolve draws (t.defaultKeys.map .key) s = forAll t resolve draws s ∧
      (∀ e ∈ (forAll t resolve draws s).events, e.level = 10 ∧ e.levelName ≠ "INFO") ∧
      t.defaultKeys.Pairwise (fun j k => j.id < k.id) ∧ (∀ k, k ∈ t.defaultKeys ↔ t.excluded k = false) ∧
      ((forAll t resolve draws s).failure = none →
        (forAll t resolve draws s).samples.map (·.message.apiKey) = t.defaultKeys.map fun k => .ok (.key k)) ∧
      (∀ (session : Session) (id : String) (source into : Option String),
        let next (selection : Selection) :=
          (session.step t (.openGenerator id (.ok selection) (.ok resolve) source)).2.step t (.next id into)
        next (.listed (t.defaultKeys.map .key)) = next (.ofKeys .null)) ∧
      (∀ keys : Value, keys.elements = .ok [] → generate t resolve draws keys s = ⟨[], none, [], s⟩) ∧
      forKeys t resolve draws [] s = ⟨[], none, [], s⟩ := by
  have hempty (keys : Value) (h : keys.elements = .ok []) : generate t resolve draws keys s = ⟨[], none, [], s⟩ := by
    have hkeys : (Selection.ofKeys keys).keys t = .ok [] := by
      cases keys with
      | null => cases h
      | _ => exact h
    rw [generate, runAll, hkeys]
    rfl
  refine ⟨rfl, rfl, ?_, t.defaultKeys_pairwise, fun k => Tables.mem_defaultKeys, fun h => apiKeys_of_run h, ?_,
    hempty, hempty _ rfl⟩
  · intro e he
    have hlevel : e.level = 10 := level_of_run (fun k hk => Tables.mem_defaultKeys.mp hk) e he
    refine ⟨hlevel, ?_⟩
    cases e with
    | onRequest => cases hlevel
    | generated k version =>
      show "DEBUG" ≠ "INFO"
      decide
  · intro session id source into next
    have hkeys : (Selection.listed (t.defaultKeys.map .key)).keys t = (Selection.ofKeys .null).keys t := rfl
    exact Session.next_of_keys_eq hkeys source into

/-- Two kinds are not left out: both ways of asking for them give one sample of each. -/
theorem default_forms_agree_two_kinds :
    let draws : NameSource Nat := ⟨fun n => (.ok (.text "topic"), n + 1), fun n => (.ok (.uuid .zero), n + 1)⟩
    let t := { Tables.standard with excluded := fun k => k ≠ .metadata && k ≠ .heartbeat }
    let everything := forAll t (.constant (.int 1)) draws 0
    everything.failure = none ∧
      everything.samples.map (·.message.apiKey) = [.ok (.key .metadata), .ok (.key .heartbeat)] ∧
      forKeys t (.constant (.int 1)) draws [.key .metadata, .key .heartbeat] 0 = everything ∧
      generate t (.constant (.int 1)) draws (.list []) 0 = ⟨[], none, [], 0⟩ := by
  intro draws t everything
  obtain ⟨-, hkeys, -, -, -, hsamples, -, hempty, -⟩ := default_forms_agree t (.constant (.int 1)) draws 0
  exact ⟨rfl, hsamples rfl, hkeys, hempty _ rfl⟩

end Generator

end RequestSamples
