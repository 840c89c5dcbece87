import RequestSamples.Proofs.Generator.Turn

/-!
# Mandatory collections of generated requests

A sample has no empty mandatory collection if its kind has a populator (`message_populated`), and is a fresh
request otherwise (`filling_fresh`), whatever the tables say and whatever has been drawn.  In the standard
tables a kind with mandatory collections has a populator unless it is left out.  The main fact is
`mandatory_filled_iff_populated`.
-/

namespace RequestSamples

namespace Tables

/-- No kind that is left out has a populator. -/
private theorem registry_of_excluded {k : ApiKey} (h : standard.excluded k = true) : standard.registry k = none := by
  cases k <;> first | rfl | exact absurd h (by decide)

private theorem noop_of_excluded {k : ApiKey} (h : standard.excluded k = true) :
    ∀ p, standard.registry k = some p → p = .noop := by
  rw [registry_of_excluded h]
  intro p hp
  cases hp

/-- A populator of the standard tables is made for requests of a shape. -/
private theorem ne_noop_of_registry {k : ApiKey} {p : Populator} (h : standard.registry k = some p) : p ≠ .noop := by
  rintro rfl
  cases k <;> cases h

/-- A kind that needs no populator and is not left out has no mandatory collections. -/
private theorem mandatory_of_unpopulated {k : ApiKey} (he : standard.excluded k = false)
    (hr : standard.registry k = none) : (Shape.ofKey k).mandatory = [] := by
  cases k <;> first | rfl | exact absurd he (by decide) | cases hr

end Tables

namespace Generator

variable {σ : Type} {t : Tables} {resolve : Resolver} {draws : NameSource σ} {k : ApiKey} {s : σ}
  {done : Populator.Filling σ}

/-- A kind with a populator gets a request of its shape in which no mandatory collection is empty. -/
theorem message_populated {p : Populator} (hp : t.registry k = some p) (hne : p ≠ .noop)
    (h : filling t draws k s = (.ok (), done)) :
    ∃ shape, p.shape? = some shape ∧ (Populator.assign done.writes k.skeleton).hasShape shape = true ∧
      (Populator.assign done.writes k.skeleton).emptyMandatory = .ok [] := by
  have hshape : ∃ shape, p.shape? = some shape := by
    cases p <;> first | exact absurd rfl hne | exact ⟨_, rfl⟩
  obtain ⟨shape, hs⟩ := hshape
  simp only [filling, hp, Option.getD_some] at h
  exact ⟨shape, hs, Populator.emptyMandatory_of_run hs h⟩

/-- A kind without a populator gets a fresh request, for which nothing is drawn. -/
theorem filling_fresh (h : ∀ p, t.registry k = some p → p = .noop) :
    filling t draws k s = (.ok (), ⟨s, []⟩) := by
  have hnoop : (t.registry k).getD .noop = .noop := by
    cases hr : t.registry k with
    | none => rfl
    | some p => exact h p hr
  rw [filling, hnoop]
  exact Populator.run_noop draws k.skeleton s

/-- The turn of a key without a populator gives the fresh request as soon as there is a version. -/
private theorem result_turn_fresh {key : Value} (hk : t.lookup key = .ok k)
    (h : ∀ p, t.registry k = some p → p = .noop) :
    (turn t resolve draws key s).result =
      ((resolve (.key k)).mapError Failure.escaping).map fun version => ⟨k.skeleton, version⟩ := by
  have hf : ((t.registry k).getD .noop).run draws k.skeleton s = (.ok (), ⟨s, []⟩) := filling_fresh h
  simp only [turn, hk, hf]
  cases resolve (.key k) with
  | error e => rfl
  | ok version =>
    simp only [Populator.assign_nil]
    rfl

private theorem sample_message {ks : List Value} {i : Nat} {sample : Sample}
    (h : (run t resolve draws ks s).samples[i]? = some sample) :
    ∃ key k, ks[i]? = some key ∧ t.lookup key = .ok k ∧
      (∀ p, t.registry k = some p → p ≠ .noop →
        ∃ shape, p.shape? = some shape ∧ sample.message.hasShape shape = true ∧
          sample.message.emptyMandatory = .ok []) ∧
      ((∀ p, t.registry k = some p → p = .noop) →
        sample.message = k.skeleton ∧
          sourceBefore t resolve draws ks (i + 1) s = sourceBefore t resolve draws ks i s ∧
          sample.message.emptyMandatory = .ok (Shape.ofKey k).mandatory) := by
  obtain ⟨key, hkey, hturn, hsource⟩ := exists_turn_of_getElem? h
  obtain ⟨k, done, hk, hf, -, hmessage, hdone⟩ := turn_eq_ok hturn
  refine ⟨key, k, hkey, hk, ?_, ?_⟩
  · intro p hp hne
    rw [hmessage]
    exact message_populated hp hne hf
  · intro hnone
    rw [filling_fresh hnone] at hf
    cases hf
    have hfresh : sample.message = k.skeleton := by rw [hmessage, Populator.assign_nil]
    rw [hfresh, ← hsource, hdone]
    exact ⟨rfl, rfl, k.emptyMandatory_skeleton⟩

/-- A sample of a kind with a populator has no empty mandatory collections and the shape of the populator.  Any
other sample is a fresh request, for which nothing has been drawn and whose mandatory collections are all empty.
With the standard tables no mandatory collection is empty unless the kind is left out, and the requests of those
kinds, when asked for, are given as they are. -/
theorem mandatory_filled_iff_populated (resolve : Resolver) (draws : NameSource σ) (ks : List Value) (s : σ) :
    (∀ (t : Tables) (i : Nat) (sample : Sample), (run t resolve draws ks s).samples[i]? = some sample →
      ∃ key k, ks[i]? = some key ∧ t.lookup key = .ok k ∧
        (∀ p, t.registry k = some p → p ≠ .noop →
          ∃ shape, p.shape? = some shape ∧ sample.message.hasShape shape = true ∧
            sample.message.emptyMandatory = .ok []) ∧
        ((∀ p, t.registry k = some p → p = .noop) →
          sample.message = k.skeleton ∧
            sourceBefore t resolve draws ks (i + 1) s = sourceBefore t resolve draws ks i s ∧
            sample.message.emptyMandatory = .ok (Shape.ofKey k).mandatory)) ∧
    (∀ (i : Nat) (sample : Sample), (run .standard resolve draws ks s).samples[i]? = some sample →
      ∃ key k, ks[i]? = some key ∧ Tables.standard.lookup key = .ok k ∧
        (Tables.standard.excluded k = false → sample.message.emptyMandatory = .ok []) ∧
        (Tables.standard.excluded k = true → sample.message = k.skeleton)) ∧
    ∀ (key : Value) (k : ApiKey), Tables.standard.lookup key = .ok k → Tables.standard.excluded k = true →
      (turn .standard resolve draws key s).result =
        ((resolve (.key k)).mapError Failure.escaping).map fun version => ⟨k.skeleton, version⟩ := by
  refine ⟨fun t i sample h => sample_message h, ?_, ?_⟩
  · intro i sample h
    obtain ⟨key, k, hkey, hk, hpopulated, hfresh⟩ := sample_message h
    refine ⟨key, k, hkey, hk, ?_, ?_⟩
    · intro he
      cases hr : Tables.standard.registry k with
      | none =>
        obtain ⟨-, -, hempty⟩ := hfresh (by rw [hr]; intro p hp; cases hp)
        rw [hempty, Tables.mandatory_of_unpopulated he hr]
      | some p =>
        obtain ⟨-, -, -, hempty⟩ := hpopulated p hr (Tables.ne_noop_of_registry hr)
        exact hempty
    · intro he
      exact (hfresh (Tables.noop_of_excluded he)).1
  · intro key k hk he
    exact result_turn_fresh hk (Tables.noop_of_excluded he)

/-- Of a filled request, one that needs no filling and one that is left out, only the last has an empty
mandatory collection; without its populator the first one would have one, too. -/
theorem mandatory_filled_iff_populated_three_kinds :
    let draws : NameSource Nat := ⟨fun n => (.ok (.text "topic"), n + 1), fun n => (.ok (.uuid .zero), n + 1)⟩
    let ks : List Value := [.key .metadata, .key .apiVersions, .key .deleteGroups]
    let unfilled := Tables.standard.setPopulator .metadata none
    let samples (t : Tables) := (run t (.constant (.int 0)) draws ks 0).samples
    (∃ sample, (samples .standard)[0]? = some sample ∧ sample.message.emptyMandatory = .ok []) ∧
      (∃ sample, (samples .standard)[1]? = some sample ∧ sample.message.emptyMandatory = .ok []) ∧
      (∃ sample, (samples .standard)[2]? = some sample ∧ sample.message = ApiKey.deleteGroups.skeleton) ∧
      ∃ sample, (samples unfilled)[0]? = some sample ∧ sample.message.emptyMandatory = .ok ["topics"] := by
  intro draws ks unfilled samples
  obtain ⟨hall, hstandard, -⟩ := mandatory_filled_iff_populated (.constant (.int 0)) draws ks 0
  refine ⟨⟨_, rfl, ?_⟩, ⟨_, rfl, ?_⟩, ⟨_, rfl, ?_⟩, ⟨_, rfl, ?_⟩⟩
  · obtain ⟨_, k, hkey, hk, hempty, -⟩ := hstandard 0 _ rfl
    cases hkey
    cases hk
    exact hempty rfl
  · obtain ⟨_, k, hkey, hk, hempty, -⟩ := hstandard 1 _ rfl
    cases hkey
    cases hk
    exact hempty rfl
  · obtain ⟨_, k, hkey, hk, -, hfresh⟩ := hstandard 2 _ rfl
    cases hkey
    cases hk
    exact hfresh rfl
  · obtain ⟨_, k, hkey, hk, -, hfresh⟩ := hall unfilled 0 _ rfl
    cases hkey
    cases hk
    exact (hfresh (by intro p hp; cases hp)).2.2

end Generator

end RequestSamples
