import RequestSamples.Proofs.Generator.Turn
import RequestSamples.Proofs.Populator.Alike

/-!
# Runs over different sources

What a source gives flows into the fields that are meant for it and nowhere else.  Two runs over alike sources go side
by side: each turn of the one ends as that of the other, logs the same, and gives a sample that matches the other's
(`turns_match`).  So the runs fail alike, log the same and give as many samples, and those match (`runs_match`).
-/

namespace RequestSamples

/-- The samples are of one class, kind and version, they agree in all fields that take nothing drawn, at every depth,
and their batches are twins. -/
structure Sample.Matches (a b : Sample) : Prop where
  apiKey : a.message.apiKey = b.message.apiKey
  family : a.message.family = b.message.family
  version : a.version = b.version
  fields : a.message.blanked = b.message.blanked
  batches : List.Forall₂ Value.BatchTwins a.message.partitionRecords b.message.partitionRecords

private theorem ApiKey.partitionRecords_skeleton (k : ApiKey) : k.skeleton.partitionRecords = [] := by
  cases k <;> rfl

namespace Generator

open Populator

variable {σ τ : Type} {t : Tables} {resolve : Resolver} {source : NameSource σ} {source' : NameSource τ} {s : σ}
  {s' : τ}

/-- The fresh request of a kind, filled from two sources. -/
private theorem filled_twins {p : Populator} {k : ApiKey} {vs vs' : List Value} {es es' : Entries}
    (hfits : p.fits k.skeleton = .ok ()) (hvs : Draw.AllTwins p.demand vs vs') (hes : p.fields vs = .ok es)
    (hes' : p.fields vs' = .ok es') :
    (assign es k.skeleton).blanked = (assign es' k.skeleton).blanked ∧
      List.Forall₂ Value.BatchTwins (assign es k.skeleton).partitionRecords
        (assign es' k.skeleton).partitionRecords := by
  cases hp : p.shape? with
  | none =>
    obtain rfl := shape?_eq_none hp
    cases hvs
    cases hes
    cases hes'
    rw [assign_nil, k.partitionRecords_skeleton]
    exact ⟨rfl, .nil⟩
  | some shape =>
    have hfresh := (ApiKey.skeleton_eq_fresh (shape?_isRequest hp) (hasShape_of_fits hp hfits)).1
    rw [hfresh]
    exact assign_twins hp hvs hes hes'

/-- The turns of a key over alike sources end alike, log the same, and leave the sources alike. -/
theorem turns_match (t : Tables) (resolve : Resolver) (h : Alike source source' s s') (key : Value) :
    (turn t resolve source key s).events = (turn t resolve source' key s').events ∧
      ((∃ e, (turn t resolve source key s).result = .error e ∧ (turn t resolve source' key s').result = .error e) ∨
        ∃ a b, (turn t resolve source key s).result = .ok a ∧ (turn t resolve source' key s').result = .ok b ∧
          a.Matches b ∧
          Alike source source' (turn t resolve source key s).source (turn t resolve source' key s').source) := by
  cases hk : t.lookup key with
  | error e =>
    rw [turn_of_unknown hk, turn_of_unknown hk]
    exact ⟨rfl, .inl ⟨_, rfl, rfl⟩⟩
  | ok k =>
    cases hfits : ((t.registry k).getD .noop).fits k.skeleton with
    | error e =>
      rw [turn_of_unfilled hk (filling_of_misfit hfits), turn_of_unfilled hk (filling_of_misfit hfits)]
      exact ⟨rfl, .inl ⟨_, rfl, rfl⟩⟩
    | ok u =>
      -- Whether the request fits has been settled without the sources; from here on neither of them fails.
      obtain ⟨vs, vs', es, es', r, r', hvs, hes, hes', hrun, hrun', hr⟩ := run_of_alike h hfits
      cases hversion : resolve (.key k) with
      | error e =>
        rw [turn_of_unresolved hk hrun hversion, turn_of_unresolved hk hrun' hversion]
        exact ⟨rfl, .inl ⟨_, rfl, rfl⟩⟩
      | ok version =>
        obtain ⟨hfields, hbatches⟩ := filled_twins hfits hvs hes hes'
        have hkey : (assign es k.skeleton).apiKey = (assign es' k.skeleton).apiKey :=
          (apiKey_of_run hrun).trans (apiKey_of_run hrun').symm
        have hfamily : (assign es k.skeleton).family = (assign es' k.skeleton).family := by
          rw [family_assign, family_assign]
        rw [turn_of_sampled hk hrun hversion, turn_of_sampled hk hrun' hversion]
        exact ⟨rfl, .inr ⟨_, _, rfl, rfl, ⟨hkey, hfamily, rfl, hfields, hbatches⟩, hr⟩⟩

/-- Runs over alike sources fail alike, log the same, and give samples that match one by one. -/
private theorem runs_of_alike (h : Alike source source' s s') (ks : List Value) :
    (run t resolve source ks s).failure = (run t resolve source' ks s').failure ∧
      (run t resolve source ks s).events = (run t resolve source' ks s').events ∧
      List.Forall₂ Sample.Matches (run t resolve source ks s).samples (run t resolve source' ks s').samples := by
  induction ks generalizing s s' with
  | nil => exact ⟨rfl, rfl, .nil⟩
  | cons key ks ih =>
    obtain ⟨hevents, ⟨e, he, he'⟩ | ⟨a, b, ha, hb, hab, hnext⟩⟩ := turns_match t resolve h key
    · rw [run_cons_error he, run_cons_error he', hevents]
      exact ⟨rfl, rfl, .nil⟩
    · obtain ⟨hfailure, hlater, hsamples⟩ := ih hnext
      rw [run_cons_ok ha, run_cons_ok hb, hevents, hlater]
      exact ⟨hfailure, rfl, .cons hab hsamples⟩

/-- Whatever keys are selected, runs over sources that never fail and give names of equal lengths differ only in the
fields that take what is drawn, and in the checksums and the values of the batches made of it. -/
theorem runs_match (t : Tables) (resolve : Resolver) (selection : Selection) (h : Alike source source' s s') :
    (runAll t resolve source selection s).failure = (runAll t resolve source' selection s').failure ∧
      (runAll t resolve source selection s).events = (runAll t resolve source' selection s').events ∧
      List.Forall₂ Sample.Matches (runAll t resolve source selection s).samples
        (runAll t resolve source' selection s').samples := by
  unfold runAll
  cases selection.keys t with
  | error e => exact ⟨rfl, rfl, .nil⟩
  | ok ks => exact runs_of_alike h ks

/-- Two runs that stop at an unknown key, with batches of different names. -/
theorem runs_match_unknown_key :
    let source : NameSource Nat := ⟨fun n => (.ok (.text "alpha"), n + 1), fun n => (.ok (.uuid .zero), n + 1)⟩
    let source' : NameSource Unit := ⟨fun u => (.ok (.text "omega"), u), fun u => (.ok .null, u)⟩
    let selection := Selection.listed [.key .produce, .key .metadata, .int 99]
    let samples := (runAll .standard (.latest .standard) source selection 0).samples
    let samples' := (runAll .standard (.latest .standard) source' selection ()).samples
    Alike source source' 0 () ∧ samples.length = 2 ∧ List.Forall₂ Sample.Matches samples samples' ∧
      (runAll .standard (.latest .standard) source' selection ()).failure =
        some (.showing (.int 99) (.schemaUnknown (.int 99))) := by
  intro source source' selection samples samples'
  have hnames : FitsBatch "alpha" ∧ FitsBatch "omega" := by
    constructor <;> decide +kernel
  have hdraw (n : Nat) (d : Draw) : ∃ v, ((Session.drawFrom source d).on n).1 = .ok v ∧ d.Supplied v := by
    cases d with
    | name => exact ⟨_, rfl, "alpha", rfl, hnames.1⟩
    | uuid => exact ⟨_, rfl, trivial⟩
  have hdraw' (d : Draw) : ∃ v, ((Session.drawFrom source' d).on ()).1 = .ok v ∧ d.Supplied v := by
    cases d with
    | name => exact ⟨_, rfl, "omega", rfl, hnames.2⟩
    | uuid => exact ⟨_, rfl, trivial⟩
  have halike : Alike source source' 0 () := by
    refine ⟨fun ds d => hdraw _ d, fun ds d => hdraw' d, ?_⟩
    intro ds name name' hname hname'
    cases hname
    cases hname'
    decide +kernel
  obtain ⟨hfailure, -, hsamples⟩ := runs_match .standard (.latest .standard) selection halike
  refine ⟨halike, ?_, hsamples, ?_⟩
  · rfl
  · rw [← hfailure]
    rfl

end Generator

end RequestSamples
