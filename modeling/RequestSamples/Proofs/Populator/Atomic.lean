import RequestSamples.Proofs.Batch.Refusal
import RequestSamples.Proofs.Populator.Demand

/-!
# Populators fill all or nothing

A populator that fails has set no field: it fails on an object of another shape before the first draw, and
afterwards only before the first field is set.  The main fact is `Session.Store.populate_atomic`, which says
this of kept messages in whatever state they are, together with when exactly the shape is what fails.
-/

namespace RequestSamples

open RequestSamples.Session (drawFrom)

namespace Populator

variable {σ : Type} {source : NameSource σ} {p : Populator} {v : Value} {s : σ}

private theorem nameBatch_onlyFails (name : Value) : Except.OnlyFails Batch.IsRefusal (nameBatch name) :=
  (Batch.make_onlyFails name .null .null).bind fun _ => (Batch.encode_onlyFails _ _ _).bind fun _ => .ok _

/-- Fields are refused only because a name does not go into a batch. -/
private theorem fields_onlyFails (p : Populator) (vs : List Value) :
    Except.OnlyFails Batch.IsRefusal (p.fields vs) := by
  unfold fields
  split
  · exact (nameBatch_onlyFails _).map _
  all_goals exact .ok _

/-- A populator that fails has set nothing. -/
theorem writes_of_run_error {e : Failure} (h : (p.run source v s).1 = .error e) :
    (p.run source v s).2.writes = [] := by
  have ends := p.run_ends source v s
  generalize p.run source v s = done at h ends
  cases ends with
  | misfit | undrawn | refused => rfl
  | filled => cases h

/-- On a value that it does not fit, a populator draws and sets nothing. -/
private theorem run_of_misfit {shape : Shape} (hp : p.shape? = some shape) (hv : v.hasShape shape = false) :
    p.run source v s = (.error (.shapeMismatch shape v.typeName), ⟨s, []⟩) := by
  simp only [run, fits, hp, hv, Bool.false_eq_true, if_false]

/-- On a value that it fits, a populator fails with a draw of the source or for want of a batch. -/
private theorem error_of_run_fitting {shape : Shape} {e : Failure} (hp : p.shape? = some shape)
    (hv : v.hasShape shape = true) (h : (p.run source v s).1 = .error e) :
    (∃ d r, ((drawFrom source d).on r).1 = .error e) ∨ Batch.IsRefusal e := by
  have ends := p.run_ends source v s
  generalize p.run source v s = done at h ends
  cases ends with
  | misfit hp' hv' =>
    rw [hp] at hp'
    cases hp'
    rw [hv] at hv'
    cases hv'
  | undrawn _ hd => cases h; exact .inl (exists_of_drawAll_error hd)
  | refused _ _ he => cases h; exact .inr (fields_onlyFails p _ _ he)
  | filled => cases h

end Populator

namespace Session.Store

variable {σ : Type}

/-- The shape of an item, if it is an object. -/
def shapeOf? (s : Store) (x : Item) : Option Shape :=
  match s.form x with
  | .whole (.object shape _ _) | .object shape _ => some shape
  | _ => none

theorem family_eq_of_shapeOf? {s : Store} {x : Item} {shape : Shape} (h : s.shapeOf? x = some shape) :
    s.family x = .shape shape := by
  unfold shapeOf? at h
  unfold family
  split at h
  · rename_i hx; cases h; rw [hx]; rfl
  · rename_i hx; cases h; rw [hx]; rfl
  · cases h

theorem hasShape_outline (s : Store) (x : Item) (shape : Shape) :
    (s.outline x).hasShape shape = decide (s.shapeOf? x = some shape) := by
  unfold outline shapeOf?
  cases s.form x with
  | whole v => cases v <;> simp [Value.hasShape]
  | list _ | table _ | object _ _ => simp [Value.hasShape]

theorem typeName_outline (s : Store) (x : Item) : (s.outline x).typeName = (s.family x).name := by
  unfold outline family
  cases s.form x <;> rfl

/-- A message is filled or stays as it is, with everything that it refers to.  Filling it fails because of its
shape exactly if it is no object of the populator's shape, unless a draw of the source fails like that; and
then nothing is drawn. -/
theorem populate_atomic {p : Populator} {shape : Shape} (hp : p.shape? = some shape) (draws : NameSource σ)
    (source : σ) {store : Store} {id : String} {x : Item} (hx : store.item id = .ok x) :
    (store.shapeOf? x ≠ some shape →
      store.populate id p draws source = (.error (.shapeMismatch shape (store.family x).name), store, source)) ∧
    ((∀ d r want got, ((drawFrom draws d).on r).1 ≠ .error (.shapeMismatch want got)) →
      ((∃ want got, (store.populate id p draws source).1 = .error (.shapeMismatch want got)) ↔
        store.shapeOf? x ≠ some shape)) ∧
    ∀ e, (store.populate id p draws source).1 = .error e → (store.populate id p draws source).2.1 = store := by
  -- Everything happens to the outline first; the store only takes what has been set.
  have hrun : store.populate id p draws source =
      ((p.run draws (store.outline x) source).1,
        store.assign x (p.run draws (store.outline x) source).2.writes,
        (p.run draws (store.outline x) source).2.source) := by
    simp only [populate, hx]
  have hmisfit : store.shapeOf? x ≠ some shape →
      store.populate id p draws source =
        (.error (.shapeMismatch shape (store.family x).name), store, source) := by
    intro h
    have hv : (store.outline x).hasShape shape = false := by
      rw [hasShape_outline]
      exact decide_eq_false h
    rw [hrun, Populator.run_of_misfit hp hv, typeName_outline]
    rfl
  refine ⟨hmisfit, ?_, ?_⟩
  · intro hdraws
    constructor
    · rintro ⟨want, got, h⟩ hshape
      have hv : (store.outline x).hasShape shape = true := by
        rw [hasShape_outline]
        exact decide_eq_true hshape
      rw [hrun] at h
      rcases Populator.error_of_run_fitting hp hv h with ⟨d, r, hd⟩ | href
      · exact hdraws d r want got hd
      · exact href
    · intro h
      exact ⟨shape, _, by rw [hmisfit h]⟩
  · intro e h
    rw [hrun] at h ⊢
    show store.assign x _ = store
    rw [Populator.writes_of_run_error h]
    rfl

/-- A source that counts the names it has given and has no ids. -/
def idless : NameSource Nat := ⟨fun n => (.ok (.text "topic"), n + 1), fun n => (.error (.exhausted .uuid), n)⟩

/-- A message stays as it is when its populator gets a name but no id, and when it meets another populator. -/
theorem populate_atomic_idless :
    let store := Store.empty.put "m" Shape.metadata.fresh
    store.populate "m" .metadata idless 0 = (.error (.exhausted .uuid), store, 1) ∧
      store.populate "m" .produce idless 0 =
        (.error (.shapeMismatch .produce "MetadataRequestData"), store, 0) ∧
      ¬ ∃ want got, (store.populate "m" .metadata idless 0).1 = .error (.shapeMismatch want got) := by
  intro store
  have hx : store.item "m" = .ok (.ref 0) := rfl
  have hmetadata := populate_atomic (p := .metadata) rfl idless 0 hx
  have hproduce := populate_atomic (p := .produce) rfl idless 0 hx
  refine ⟨?_, ?_, ?_⟩
  · have hstore := hmetadata.2.2 (.exhausted .uuid) rfl
    exact Prod.ext rfl (Prod.ext hstore rfl)
  · exact hproduce.1 (by decide)
  · rw [hmetadata.2.1 (by rintro (_ | _) r want got h <;> cases h)]
    exact not_not_intro rfl

end Session.Store

end RequestSamples
