import RequestSamples.Proofs.Generator.Turn
import RequestSamples.Proofs.Populator.Supply

/-!
# The default run

The default run goes through the kinds that are not left out.  With a source that never fails, what can go wrong at a
kind follows from the tables alone (`Tables.offence?`): its versions may be missing, its populator may be made for
other requests, and its range of versions may be empty, in this order.  So the run fails as the first kind with an
offence does, after one sample for each kind before it (`default_run`); with the standard tables it never fails.
-/

namespace RequestSamples

/-- The populator of a kind is made for the requests of another one. -/
def Tables.misfit? (t : Tables) (k : ApiKey) : Option Failure :=
  ((t.registry k).bind Populator.shape?).bind fun s =>
    if s = Shape.ofKey k then none else some (.shapeMismatch s (Shape.ofKey k).name)

/-- What is first to go wrong at a kind. -/
def Tables.offence? (t : Tables) (k : ApiKey) : Option Failure :=
  match t.versions k with
  | none => some (.schemaUnknown (.key k))
  | some r => t.misfit? k <|> if r.isEmpty then some .emptyRange else none

/-- The resolver chooses the latest or the oldest of the versions of a kind. -/
inductive Tables.Picks (t : Tables) : Resolver → (Versions → Int) → Prop
  | latest : Picks t (.latest t) Versions.highest
  | oldest : Picks t (.oldest t) Versions.lowest

/-- The kind of a sample, with its shape and its version. -/
structure Sample.IsOf (t : Tables) (pick : Versions → Int) (sample : Sample) (k : ApiKey) : Prop where
  apiKey : sample.message.apiKey = .ok (.key k)
  shape : sample.message.hasShape (Shape.ofKey k) = true
  version : ∃ r, t.versions k = some r ∧ sample.version = .int (pick r)

private theorem ApiKey.hasShape_skeleton (k : ApiKey) (s : Shape) :
    k.skeleton.hasShape s = decide (Shape.ofKey k = s) := by
  by_cases h : Shape.ofKey k = .generic
  · rw [skeleton, if_pos h, h]
    rfl
  · rw [skeleton, if_neg h]
    rfl

private theorem ApiKey.typeName_skeleton (k : ApiKey) : k.skeleton.typeName = (Shape.ofKey k).name := by
  by_cases h : Shape.ofKey k = .generic
  · rw [skeleton, if_pos h, h]
    rfl
  · rw [skeleton, if_neg h]
    rfl

variable {t : Tables} {resolve : Resolver} {pick : Versions → Int} {k : ApiKey}

/-- The populator of a kind fits the fresh request unless it is a misfit. -/
private theorem Tables.fits_skeleton (t : Tables) (k : ApiKey) :
    ((t.registry k).getD .noop).fits k.skeleton = (t.misfit? k).elim (.ok ()) .error := by
  cases hr : t.registry k with
  | none => simp [misfit?, hr, Populator.fits, Populator.shape?]
  | some p =>
    cases hs : p.shape? with
    | none => simp [misfit?, hr, hs, Populator.fits]
    | some s =>
      by_cases h : s = Shape.ofKey k
      · simp [misfit?, hr, hs, h, Populator.fits, k.hasShape_skeleton]
      · simp [misfit?, hr, hs, h, Ne.symm h, Populator.fits, k.hasShape_skeleton, k.typeName_skeleton]

/-- That a populator is a misfit comes out of a run as it is. -/
private theorem Tables.escaping_of_misfit? {e : Failure} (h : t.misfit? k = some e) : e.escaping = e := by
  obtain ⟨shape, -, h⟩ := Option.bind_eq_some_iff.mp h
  split at h <;> cases h
  rfl

theorem Tables.lookup_key (t : Tables) (k : ApiKey) :
    t.lookup (.key k) = if (t.versions k).isSome then .ok k else .error (.schemaUnknown (.key k)) := by
  rw [lookup, Value.toKey?_key]

/-- A picked version is one end of the range, unless that is empty. -/
private theorem Tables.Picks.resolve_key (h : t.Picks resolve pick) {r : Versions} (hr : t.versions k = some r) :
    resolve (.key k) = if r.isEmpty then .error .emptyRange else .ok (.int (pick r)) := by
  have hsupported : t.supportedVersions (.key k) = .ok r := by
    simp only [supportedVersions, Value.toKey?_key, hr]
  have hknown := Tables.someVersions_of_supported hsupported
  cases h with
  | latest =>
    show (t.someVersions (.key k) >>= _) = _
    rw [hknown]
    cases r.isEmpty <;> rfl
  | oldest =>
    show (t.someVersions (.key k) >>= _) = _
    rw [hknown]
    cases r.isEmpty <;> rfl

/-- A kind without an offence has versions, and its populator is `noop` or made for its requests. -/
private theorem Tables.offence?_eq_none :
    t.offence? k = none ↔
      (∃ lowest highest, t.versions k = some ⟨lowest, highest⟩ ∧ lowest ≤ highest) ∧
        ∀ p, t.registry k = some p → p ≠ .noop → p.shape? = some (Shape.ofKey k) := by
  have hmisfit : t.misfit? k = none ↔
      ∀ p, t.registry k = some p → p ≠ .noop → p.shape? = some (Shape.ofKey k) := by
    cases hr : t.registry k with
    | none => simp [misfit?, hr]
    | some p =>
      cases hs : p.shape? with
      | none =>
        obtain rfl := Populator.shape?_eq_none hs
        simp [misfit?, hr, Populator.shape?]
      | some s =>
        have hne : p ≠ .noop := by
          rintro rfl
          cases hs
        simp [misfit?, hr, hs, hne]
  rw [← hmisfit]
  cases hr : t.versions k with
  | none => simp [offence?, hr]
  | some r =>
    obtain ⟨lowest, highest⟩ := r
    cases hm : t.misfit? k with
    | some e => simp [offence?, hr, hm]
    | none =>
      by_cases hrange : lowest ≤ highest
      · simp [offence?, hr, hm, Versions.isEmpty, hrange]
      · simp [offence?, hr, hm, Versions.isEmpty, hrange, Int.not_le.mp hrange]

namespace Generator

open Populator (Supplies)

variable {σ : Type} {draws : NameSource σ} {s : σ}

/-- The turn of a kind fails with its offence, and otherwise gives a sample of the kind. -/
private theorem turn_of_supplies (hp : t.Picks resolve pick) (hs : Supplies draws s) (k : ApiKey) :
    match t.offence? k with
    | some e => (turn t resolve draws (.key k) s).result = .error e
    | none => ∃ sample, (turn t resolve draws (.key k) s).result = .ok sample ∧ sample.IsOf t pick k ∧
        Supplies draws (turn t resolve draws (.key k) s).source := by
  have hlookup := t.lookup_key k
  have hfits := t.fits_skeleton k
  cases hr : t.versions k with
  | none =>
    have hoffence : t.offence? k = some (.schemaUnknown (.key k)) := by simp [Tables.offence?, hr]
    rw [hr] at hlookup
    rw [hoffence, turn_of_unknown hlookup]
    rfl
  | some r =>
    have hk : t.lookup (.key k) = .ok k := by simpa [hr] using hlookup
    cases hm : t.misfit? k with
    | some e =>
      have hoffence : t.offence? k = some e := by simp [Tables.offence?, hr, hm]
      rw [hm] at hfits
      rw [hoffence, turn_of_unfilled hk (filling_of_misfit hfits), Tables.escaping_of_misfit? hm]
    | none =>
      rw [hm] at hfits
      obtain ⟨_, es, s', -, -, -, hrun, hs'⟩ := Populator.run_of_supplies hs hfits
      have hversion := hp.resolve_key hr
      cases hempty : r.isEmpty with
      | true =>
        have hoffence : t.offence? k = some .emptyRange := by simp [Tables.offence?, hr, hm, hempty]
        rw [hempty] at hversion
        rw [hoffence, turn_of_unresolved hk hrun hversion]
        rfl
      | false =>
        have hoffence : t.offence? k = none := by simp [Tables.offence?, hr, hm, hempty]
        rw [hempty] at hversion
        have hshape : (Populator.assign es k.skeleton).hasShape (Shape.ofKey k) = true := by
          rw [Populator.hasShape_assign, k.hasShape_skeleton]
          simp
        rw [hoffence, turn_of_sampled hk hrun hversion]
        exact ⟨_, rfl, ⟨Populator.apiKey_of_run hrun, hshape, r, hr, rfl⟩, hs'⟩

/-- A run fails with the first offence of its kinds, after one sample for each kind before it. -/
theorem run_of_supplies (hp : t.Picks resolve pick) (hs : Supplies draws s) (ks : List ApiKey) :
    (run t resolve draws (ks.map .key) s).failure = ks.findSome? t.offence? ∧
      List.Forall₂ (Sample.IsOf t pick) (run t resolve draws (ks.map .key) s).samples
        (ks.takeWhile fun k => (t.offence? k).isNone) := by
  induction ks generalizing s with
  | nil => exact ⟨rfl, .nil⟩
  | cons k ks ih =>
    have hturn := turn_of_supplies hp hs k
    rw [List.map_cons, List.findSome?_cons, List.takeWhile_cons]
    cases ho : t.offence? k with
    | some e =>
      rw [ho] at hturn
      rw [run_cons_error hturn]
      exact ⟨rfl, .nil⟩
    | none =>
      rw [ho] at hturn
      obtain ⟨sample, hresult, hsample, hs'⟩ := hturn
      obtain ⟨hfailure, hsamples⟩ := ih hs'
      rw [run_cons_ok hresult]
      exact ⟨hfailure, .cons hsample hsamples⟩

/-- With a source that never fails, the default run with the latest or the oldest versions goes through if and only if
every kind that is not left out has a range of versions that is not empty, and no populator but one for its requests.
Otherwise it ends as the first kind with an offence does, after one sample for each kind before it.  With the standard
tables it goes through. -/
theorem default_run (hp : t.Picks resolve pick) (hs : Supplies draws s) :
    ((runAll t resolve draws .everything s).failure = none ↔
      ∀ k, t.excluded k = false →
        (∃ lowest highest, t.versions k = some ⟨lowest, highest⟩ ∧ lowest ≤ highest) ∧
          ∀ p, t.registry k = some p → p ≠ .noop → p.shape? = some (Shape.ofKey k)) ∧
      (runAll t resolve draws .everything s).failure = t.defaultKeys.findSome? t.offence? ∧
      List.Forall₂ (Sample.IsOf t pick) (runAll t resolve draws .everything s).samples
        (t.defaultKeys.takeWhile fun k => (t.offence? k).isNone) ∧
      ∀ {resolve pick}, Tables.standard.Picks resolve pick →
        (runAll .standard resolve draws .everything s).failure = none := by
  obtain ⟨hfailure, hsamples⟩ := run_of_supplies hp hs t.defaultKeys
  refine ⟨?_, hfailure, hsamples, ?_⟩
  · have hall : (runAll t resolve draws .everything s).failure = none ↔ ∀ k ∈ t.defaultKeys, t.offence? k = none := by
      rw [← List.findSome?_eq_none_iff, ← hfailure]
      rfl
    rw [hall]
    simp only [Tables.offence?_eq_none, Tables.defaultKeys, List.mem_filter, ApiKey.mem_all, true_and,
      Bool.not_eq_true']
  · intro resolve pick hp
    have hstandard : ∀ k, Tables.standard.offence? k = none := by
      intro k
      cases k <;> rfl
    have hrun := (run_of_supplies hp hs Tables.standard.defaultKeys).1
    rw [List.findSome?_eq_none_iff.mpr fun k _ => hstandard k] at hrun
    exact hrun

/-- Without a version of heartbeats the run stops behind the eleven kinds before them. -/
theorem default_run_empty_heartbeat :
    let draws : NameSource Nat := ⟨fun n => (.ok (.text "topic"), n + 1), fun n => (.ok (.uuid .zero), n + 1)⟩
    let t := Tables.standard.setVersions .heartbeat (some ⟨4, 3⟩)
    t.Picks (.latest t) Versions.highest ∧ Supplies draws 0 ∧
      (runAll t (.latest t) draws .everything 0).failure = some .emptyRange ∧
      (runAll t (.latest t) draws .everything 0).samples.length = 11 ∧
      (runAll .standard (.oldest .standard) draws .everything 0).failure = none := by
  intro draws t
  have hdraw (n : Nat) (d : Draw) : ∃ v, ((Session.drawFrom draws d).on n).1 = .ok v ∧ d.Supplied v := by
    cases d with
    | name => exact ⟨_, rfl, "topic", rfl, by decide +kernel⟩
    | uuid => exact ⟨_, rfl, trivial⟩
  have hs : Supplies draws 0 := fun ds d => hdraw _ d
  obtain ⟨-, hfailure, hsamples, hstandard⟩ := default_run (.latest (t := t)) hs
  refine ⟨.latest, hs, hfailure, ?_, hstandard .oldest⟩
  exact hsamples.length_eq

end Generator

end RequestSamples
