import RequestSamples.Proofs.Entries
import RequestSamples.Proofs.Generator.Draws
import RequestSamples.Proofs.Session.Run

/-!
# Places of sources

Generators, ids and the shared source refer to sources by their places.  In every session that has come about by
steps these are places of sources that exist (`wellPlaced_run`).  A generator without a source of its own belongs
to the place of the shared source, which may still have to be made: what would be found at a place is
`sourceFor`, and making the shared source changes nothing about it (`Prepared.sourceFor`).
-/

namespace RequestSamples.Session

open RequestSamples.Populator (Consecutive History)

/-- The place of the shared source, also if it still has to be made. -/
def sharedAt (s : Session) : Nat := s.shared.getD s.sources.length

/-- The place of the source from which a generator draws. -/
def place (s : Session) (g : Suspended) : Nat := g.source.getD s.sharedAt

/-- The place of the source from which the generator with an id draws. -/
def placeOf (s : Session) (id : String) : Option Nat := (s.generators.lookup id).map s.place

/-- The source at a place, or else the one that would be made there. -/
def sourceFor (s : Session) (i : Nat) : Except Failure Names.Source :=
  match s.sources[i]? with
  | some source => .ok source
  | none => (Settings.seed s.environment).map Names.Source.ofSeed

/-- All places that the session refers to are places of its sources. -/
structure WellPlaced (s : Session) : Prop where
  shared : ∀ i, s.shared = some i → i < s.sources.length
  ids : ∀ e ∈ s.sourceIds, e.2 < s.sources.length
  generators : ∀ e ∈ s.generators, ∀ i, e.2.source = some i → i < s.sources.length

theorem wellPlaced_initial : WellPlaced initial where
  shared := by intro i h; cases h
  ids := by intro e h; cases h
  generators := by intro e h; cases h

variable {s s' : Session} {i j : Nat} {id id' : String} {g : Suspended}

theorem sourceFor_of_lt (h : i < s.sources.length) : s.sourceFor i = .ok (s.sourceAt i) := by
  rw [sourceFor, sourceAt, List.getD_eq_getElem?_getD, List.getElem?_eq_getElem h]
  rfl

theorem WellPlaced.lookup (h : s.WellPlaced) (hg : s.generators.lookup id = some g) (hi : g.source = some i) :
    i < s.sources.length :=
  h.generators _ (mem_of_lookup hg) i hi

theorem sourcePlace_eq_ok (h : s.sourcePlace id = .ok i) : (id, i) ∈ s.sourceIds := by
  unfold sourcePlace at h
  split at h
  · rename_i hid
    cases h
    exact mem_of_lookup hid
  · cases h

theorem generator_of_lookup (hg : s.generators.lookup id = some g) : s.generator id = .ok g := by
  rw [generator, hg]

theorem sourceAt_setSource {source : Names.Source} (h : i < s.sources.length) :
    (s.setSource i source).sourceAt i = source := by
  rw [sourceAt, setSource, List.getD_eq_getElem?_getD, List.getElem?_set_self h]
  rfl

theorem sourceFor_setSource {source : Names.Source} (h : i < s.sources.length) :
    (s.setSource i source).sourceFor i = .ok source := by
  rw [sourceFor_of_lt (by rw [setSource, List.length_set]; exact h), sourceAt_setSource h]

theorem sourceFor_setSource_ne {source : Names.Source} (h : j ≠ i) :
    (s.setSource i source).sourceFor j = s.sourceFor j := by
  rw [sourceFor, setSource, List.getElem?_set_ne (Ne.symm h)]
  rfl

theorem lookup_setGenerator : (s.setGenerator id g).generators.lookup id = some g := by
  rw [setGenerator, List.lookup_cons_self]

theorem lookup_setGenerator_ne (h : id' ≠ id) :
    (s.setGenerator id g).generators.lookup id' = s.generators.lookup id' := by
  rw [setGenerator, List.lookup_cons, beq_false_of_ne h]
  exact lookup_filter_ne h _

theorem WellPlaced.setGenerator (h : s.WellPlaced) (hg : ∀ i, g.source = some i → i < s.sources.length) :
    (s.setGenerator id g).WellPlaced where
  shared := h.shared
  ids := h.ids
  generators := by
    intro e he
    rcases List.mem_cons.mp he with rfl | he
    · exact hg
    · exact h.generators e (List.mem_filter.mp he).1

theorem WellPlaced.setSource (h : s.WellPlaced) (i : Nat) (source : Names.Source) :
    (s.setSource i source).WellPlaced := by
  have hlength : (s.setSource i source).sources.length = s.sources.length := List.length_set
  constructor
  · rw [hlength]; exact h.shared
  · rw [hlength]; exact h.ids
  · rw [hlength]; exact h.generators

/-- The session with a new shared source. -/
def withShared (s : Session) (seed : Option Int) : Session :=
  { s with sources := s.sources ++ [Names.Source.ofSeed seed], shared := some s.sources.length }

/-- The session in which the shared source exists: it may have been made only now. -/
inductive Prepared (s : Session) : Nat → Session → Prop
  | found {i : Nat} (h : s.shared = some i) : Prepared s i s
  | made {seed : Option Int} (h : s.shared = none) (hseed : Settings.seed s.environment = .ok seed) :
    Prepared s s.sources.length (s.withShared seed)

theorem sharedPlace_eq_ok : s.sharedPlace = .ok (i, s') ↔ Prepared s i s' := by
  unfold sharedPlace
  constructor
  · intro h
    split at h
    · rename_i hshared
      cases h
      exact .found hshared
    · rename_i hshared
      obtain ⟨seed, hseed, h⟩ := Except.bind_eq_ok.mp h
      cases h
      exact .made hshared hseed
  · rintro (h | ⟨h, hseed⟩)
    · rw [h]
    · simp only [h, hseed]
      rfl

theorem sharedPlace_eq_error {e : Failure} :
    s.sharedPlace = .error e ↔ s.shared = none ∧ Settings.seed s.environment = .error e := by
  unfold sharedPlace
  constructor
  · intro h
    split at h
    · cases h
    · rename_i hshared
      rcases Except.bind_eq_error.mp h with hseed | ⟨_, -, h⟩
      · exact ⟨hshared, hseed⟩
      · cases h
  · rintro ⟨hshared, hseed⟩
    simp only [hshared, hseed]
    rfl

namespace Prepared

theorem sharedAt_eq (h : Prepared s i s') : s.sharedAt = i := by
  cases h with
  | found h => rw [sharedAt, h]; rfl
  | made h => rw [sharedAt, h]; rfl

theorem shared_eq (h : Prepared s i s') : s'.shared = some i := by
  cases h with
  | found h => exact h
  | made => rfl

theorem generators_eq (h : Prepared s i s') : s'.generators = s.generators := by
  cases h <;> rfl

theorem environment_eq (h : Prepared s i s') : s'.environment = s.environment := by
  cases h <;> rfl

theorem sourceIds_eq (h : Prepared s i s') : s'.sourceIds = s.sourceIds := by
  cases h <;> rfl

theorem length_le (h : Prepared s i s') : s.sources.length ≤ s'.sources.length := by
  cases h with
  | found => exact Nat.le_refl _
  | made => exact List.length_append ▸ Nat.le_add_right _ _

theorem wellPlaced (h : Prepared s i s') (hs : s.WellPlaced) : s'.WellPlaced ∧ i < s'.sources.length := by
  cases h with
  | found h => exact ⟨hs, hs.shared i h⟩
  | @made seed h =>
    have hlength : (s.sources ++ [Names.Source.ofSeed seed]).length = s.sources.length + 1 := List.length_append
    refine ⟨⟨?_, ?_, ?_⟩, ?_⟩
    · intro i hi
      cases hi
      exact hlength ▸ Nat.lt_succ_self _
    · intro e he
      exact hlength ▸ Nat.lt_succ_of_lt (hs.ids e he)
    · intro e he i hi
      exact hlength ▸ Nat.lt_succ_of_lt (hs.generators e he i hi)
    · exact hlength ▸ Nat.lt_succ_self _

theorem sourceFor (h : Prepared s i s') (j : Nat) : s'.sourceFor j = s.sourceFor j := by
  cases h with
  | found => rfl
  | @made seed h hseed =>
    have hsources : (s.withShared seed).sources = s.sources ++ [Names.Source.ofSeed seed] := rfl
    have henv : (s.withShared seed).environment = s.environment := rfl
    rw [Session.sourceFor, Session.sourceFor, hsources, henv]
    rcases Nat.lt_trichotomy j s.sources.length with hj | rfl | hj
    · rw [List.getElem?_append_left hj]
    · rw [List.getElem?_concat_length, List.getElem?_eq_none (Nat.le_refl _), hseed]
      rfl
    · rw [List.getElem?_eq_none (by rw [List.length_append, List.length_singleton]; omega),
        List.getElem?_eq_none (by omega)]

theorem sourceFor_sharedAt (h : Prepared s i s') (hs : s.WellPlaced) :
    s.sourceFor s.sharedAt = .ok (s'.sourceAt i) := by
  rw [h.sharedAt_eq, ← h.sourceFor, sourceFor_of_lt (h.wellPlaced hs).2]

end Prepared

theorem sourceFor_sharedAt_of_error {e : Failure} (h : s.sharedPlace = .error e) :
    s.sourceFor s.sharedAt = .error e := by
  obtain ⟨hshared, hseed⟩ := sharedPlace_eq_error.mp h
  rw [sourceFor, sharedAt, hshared, Option.getD_none, List.getElem?_eq_none (Nat.le_refl _), hseed]
  rfl

end RequestSamples.Session
