import RequestSamples.Proofs.Populator.Demand

/-!
# Filled requests

A populator fits the fresh request of a kind only if the kind is the one that it is made for.  The request
that it has filled is still one of that kind (`apiKey_of_run`), and none of its mandatory collections is empty
(`emptyMandatory_of_run`), whatever has been drawn.
-/

namespace RequestSamples

/-- An object keeps its shape when its fields are set. -/
theorem Populator.hasShape_assign (es : Entries) (v : Value) (shape : Shape) :
    (assign es v).hasShape shape = v.hasShape shape := by
  cases v <;> rfl

theorem Populator.family_assign (es : Entries) (v : Value) : (assign es v).family = v.family := by
  cases v <;> rfl

/-- Only `noop` is made for no shape. -/
theorem Populator.shape?_eq_none {p : Populator} (h : p.shape? = none) : p = noop := by
  cases p <;> first | rfl | cases h

/-- A fresh request of a shape with a kind of its own is made from the defaults of the shape. -/
theorem ApiKey.skeleton_eq_fresh {k : ApiKey} {shape : Shape} (hs : shape.apiKey?.isSome = true)
    (h : k.skeleton.hasShape shape = true) : k.skeleton = shape.fresh ∧ shape.apiKey? = some k := by
  have hshape : Shape.ofKey k = shape := by
    unfold skeleton at h
    split at h
    · rename_i hgeneric
      rw [hgeneric]
      exact of_decide_eq_true h
    · exact of_decide_eq_true h
  rcases Shape.apiKey?_ofKey k with hgeneric | hkey
  · rw [← hshape, hgeneric] at hs
    cases hs
  · rw [hshape] at hkey
    refine ⟨?_, hkey⟩
    rw [skeleton, hshape, if_neg]
    rintro rfl
    cases hs

namespace Populator

variable {σ : Type}

theorem eq_pair_of_length {vs : List Value} (h : vs.length = 2) : ∃ v w, vs = [v, w] := by
  match vs, h with
  | [v, w], _ => exact ⟨v, w, rfl⟩

/-- The fields of a populator make a fresh request of its shape one without empty mandatory collections, and
none of them is its kind. -/
private theorem assign_fresh {p : Populator} {shape : Shape} {vs : List Value} {es : Entries}
    (hp : p.shape? = some shape) (hvs : vs.length = p.demand.length) (hes : p.fields vs = .ok es) :
    (assign es shape.fresh).emptyMandatory = .ok [] ∧
      (assign es shape.fresh).apiKey = shape.fresh.apiKey := by
  cases p with
  | noop => cases hp
  | produce =>
    -- The only populator whose fields can be refused.
    cases hp
    obtain ⟨name, rfl⟩ := List.length_eq_one_iff.mp hvs
    cases hb : nameBatch name with
    | error e => simp only [fields, hb] at hes; cases hes
    | ok records => simp only [fields, hb] at hes; cases hes; exact ⟨rfl, rfl⟩
  | listOffsets | updateMetadata | leaveGroup =>
    cases hp
    obtain ⟨v, rfl⟩ := List.length_eq_one_iff.mp hvs
    cases hes
    exact ⟨rfl, rfl⟩
  | offsetFetch | metadata | describeGroups | consumerGroupDescribe =>
    cases hp
    obtain ⟨v, w, rfl⟩ := eq_pair_of_length hvs
    cases hes
    exact ⟨rfl, rfl⟩

theorem hasShape_of_fits {p : Populator} {v : Value} {shape : Shape} (hp : p.shape? = some shape)
    (h : p.fits v = .ok ()) : v.hasShape shape = true := by
  simp only [fits, hp] at h
  split at h
  · assumption
  · cases h

theorem assign_nil (v : Value) : assign [] v = v := by
  cases v <;> rfl

/-- The populator that leaves requests as they are draws nothing. -/
theorem run_noop (source : NameSource σ) (v : Value) (s : σ) : noop.run source v s = (.ok (), ⟨s, []⟩) := rfl

variable {p : Populator} {source : NameSource σ} {k : ApiKey} {s : σ} {done : Filling σ}

/-- What a populator has done to the fresh request of a kind, if it is made for requests of a shape. -/
private theorem filled_of_run {shape : Shape} (hp : p.shape? = some shape)
    (h : p.run source k.skeleton s = (.ok (), done)) :
    k.skeleton = shape.fresh ∧ shape.apiKey? = some k ∧
      ∃ vs : List Value, vs.length = p.demand.length ∧ p.fields vs = .ok done.writes := by
  have ends := p.run_ends source k.skeleton s
  rw [h] at ends
  cases ends with
  | filled hv hd he =>
    obtain ⟨hfresh, hkey⟩ := ApiKey.skeleton_eq_fresh (shape?_isRequest hp) (hasShape_of_fits hp hv)
    exact ⟨hfresh, hkey, _, length_of_drawAll hd, he⟩

/-- A filled request is still one of its kind. -/
theorem apiKey_of_run (h : p.run source k.skeleton s = (.ok (), done)) :
    (assign done.writes k.skeleton).apiKey = .ok (.key k) := by
  cases hp : p.shape? with
  | none =>
    cases p <;> cases hp
    cases h
    rw [assign_nil]
    exact k.apiKey_skeleton
  | some shape =>
    obtain ⟨hfresh, hkey, vs, hvs, hes⟩ := filled_of_run hp h
    rw [hfresh, (assign_fresh hp hvs hes).2, ← hfresh]
    exact k.apiKey_skeleton

/-- No populator changes a generic request. -/
theorem eq_skeleton_of_generic (h : p.run source k.skeleton s = (.ok (), done))
    (hgeneric : (assign done.writes k.skeleton).hasShape .generic = true) :
    assign done.writes k.skeleton = k.skeleton := by
  cases hp : p.shape? with
  | none =>
    obtain rfl := shape?_eq_none hp
    cases h
    exact assign_nil _
  | some shape =>
    obtain ⟨hfresh, hkey, -⟩ := filled_of_run hp h
    rw [hasShape_assign, hfresh] at hgeneric
    cases of_decide_eq_true hgeneric
    cases hkey

/-- A filled request has no empty mandatory collections, and its shape is that of the populator. -/
theorem emptyMandatory_of_run {shape : Shape} (hp : p.shape? = some shape)
    (h : p.run source k.skeleton s = (.ok (), done)) :
    (assign done.writes k.skeleton).hasShape shape = true ∧
      (assign done.writes k.skeleton).emptyMandatory = .ok [] := by
  obtain ⟨hfresh, hkey, vs, hvs, hes⟩ := filled_of_run hp h
  rw [hasShape_assign, hfresh]
  exact ⟨decide_eq_true rfl, (assign_fresh hp hvs hes).1⟩

end Populator

end RequestSamples
