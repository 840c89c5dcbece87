import Mathlib.Data.List.Forall2
import RequestSamples.Proofs.Batch.Layout
import RequestSamples.Proofs.Populator.Demand

/-!
# Sources that never fail

A source that never fails, and whose names are texts short enough for a batch of their own, gives populators all that
they need (`Supplies`).  With such a source a populator fails only on what it does not fit (`run_of_supplies`).
-/

namespace RequestSamples

namespace Populator

open RequestSamples.Session (drawFrom)

/-- The contents of the only record in the batch of a name. -/
def nameContents (name : String) : Record.Contents := ⟨none, some (Bytes.ofText name), []⟩

/-- The length of the batch that holds the name fits into its field. -/
def FitsBatch (name : String) : Prop := 9 + (Batch.Layout.checked 0 [nameContents name]).length < 2 ^ 31

instance (name : String) : Decidable (FitsBatch name) := Nat.decLt _ _

/-- The batch of a name that is short enough. -/
theorem nameBatch_of_fitsBatch {name : String} (h : FitsBatch name) :
    nameBatch (.text name) = .ok (.bytes (Batch.Layout.batch 0 0 [nameContents name])) := by
  have hrecord : Record.contents? ⟨.null, .bytes (Bytes.ofText name), .list []⟩ = some (nameContents name) := rfl
  have hfits : Batch.Layout.Fits 0 0 [nameContents name] :=
    ⟨by simp, by decide, by decide, by simp, h⟩
  have hencode : Batch.encode (.int 0) recordTimestamp [⟨.null, .bytes (Bytes.ofText name), .list []⟩] =
      .ok (Batch.Layout.batch 0 0 [nameContents name]) := by
    rw [Batch.encode_eq_ok]
    refine ⟨0, 0, [nameContents name], rfl, rfl, ?_, hfits, rfl⟩
    rw [List.mapM_cons, hrecord]
    rfl
  have hmake : Record.make (.text name) .null .null = .ok ⟨.null, .bytes (Bytes.ofText name), .list []⟩ := rfl
  exact Except.bind_eq_ok.mpr ⟨_, hmake, Except.bind_eq_ok.mpr ⟨_, hencode, rfl⟩⟩

end Populator

open Populator

/-- What a draw is to give: a name that goes into a batch, or any id. -/
def Draw.Supplied : Draw → Value → Prop
  | .name, v => ∃ name, v = .text name ∧ FitsBatch name
  | .uuid, _ => True

namespace Populator

open RequestSamples.Session (drawFrom)

variable {σ : Type} {source : NameSource σ} {s s' : σ}

/-- No draw fails, whatever has been drawn before, and each gives what it is to give. -/
def Supplies (source : NameSource σ) (s : σ) : Prop :=
  ∀ ds d, ∃ v, ((drawFrom source d).on (drawAll source ds s).2).1 = .ok v ∧ d.Supplied v

theorem drawAll_cons {d : Draw} {v : Value} (h : (drawFrom source d).on s = (.ok v, s')) (ds : List Draw) :
    drawAll source (d :: ds) s = ((drawAll source ds s').1.map (v :: ·), (drawAll source ds s').2) := by
  rw [drawAll, h]
  dsimp only
  rcases drawAll source ds s' with ⟨e | vs, s''⟩ <;> rfl

/-- One thing and then the others have been drawn. -/
theorem exists_of_drawAll_cons {d : Draw} {ds : List Draw} {vs : List Value}
    (h : drawAll source (d :: ds) s = (.ok vs, s')) :
    ∃ v r ws, (drawFrom source d).on s = (.ok v, r) ∧ drawAll source ds r = (.ok ws, s') ∧ vs = v :: ws := by
  rcases hd : (drawFrom source d).on s with ⟨e | v, r⟩
  · rw [drawAll, hd] at h
    cases h
  · rw [drawAll_cons hd] at h
    rcases hds : drawAll source ds r with ⟨e | ws, r'⟩
    · rw [hds] at h
      cases h
    · rw [hds] at h
      cases h
      exact ⟨v, r, ws, rfl, hds, rfl⟩

/-- Further draws start where those before have ended. -/
theorem drawAll_append {ds : List Draw} {vs : List Value} (h : drawAll source ds s = (.ok vs, s')) (es : List Draw) :
    drawAll source (ds ++ es) s = ((drawAll source es s').1.map (vs ++ ·), (drawAll source es s').2) := by
  induction ds generalizing s vs with
  | nil =>
    cases h
    rw [List.nil_append]
    rcases drawAll source es s' with ⟨e | ws, s''⟩ <;> rfl
  | cons d ds ih =>
    rcases hd : (drawFrom source d).on s with ⟨e | v, r⟩
    · rw [drawAll, hd] at h
      cases h
    · rw [drawAll_cons hd] at h
      rcases hds : drawAll source ds r with ⟨e | ws, r'⟩
      · rw [hds] at h
        cases h
      · rw [hds] at h
        obtain ⟨hvs, rfl⟩ := Prod.mk.inj h
        cases hvs
        rw [List.cons_append, drawAll_cons hd, ih hds]
        rcases drawAll source es r' with ⟨e | us, s''⟩ <;> rfl

/-- A draw gives what it is to give and leaves a source that goes on so. -/
theorem Supplies.draw (h : Supplies source s) (d : Draw) :
    ∃ v s', (drawFrom source d).on s = (.ok v, s') ∧ d.Supplied v ∧ Supplies source s' := by
  obtain ⟨v, hv, hsupplied⟩ := h [] d
  rcases hd : (drawFrom source d).on s with ⟨r, s'⟩
  have hr : r = .ok v := by
    rw [← hv]
    exact congrArg Prod.fst hd.symm
  subst hr
  refine ⟨v, s', rfl, hsupplied, ?_⟩
  intro ds d'
  have hlater := h (d :: ds) d'
  rw [drawAll_cons hd] at hlater
  exact hlater

theorem Supplies.drawAll (h : Supplies source s) (ds : List Draw) :
    ∃ vs s', Populator.drawAll source ds s = (.ok vs, s') ∧ List.Forall₂ Draw.Supplied ds vs ∧ Supplies source s' := by
  induction ds generalizing s with
  | nil => exact ⟨[], s, rfl, .nil, h⟩
  | cons d ds ih =>
    obtain ⟨v, s', hd, hv, hs'⟩ := h.draw d
    obtain ⟨vs, s'', hds, hvs, hs''⟩ := ih hs'
    refine ⟨v :: vs, s'', ?_, .cons hv hvs, hs''⟩
    rw [drawAll_cons hd, hds]
    rfl

/-- The fields can be made of whatever is supplied. -/
theorem fields_of_supplied (p : Populator) {vs : List Value} (h : List.Forall₂ Draw.Supplied p.demand vs) :
    ∃ es, p.fields vs = .ok es := by
  cases p with
  | noop => exact ⟨[], by cases h; rfl⟩
  | produce =>
    obtain ⟨_, _, ⟨name, rfl, hname⟩, hnil, rfl⟩ := List.forall₂_cons_left_iff.mp h
    cases hnil
    simp only [fields, nameBatch_of_fitsBatch hname]
    exact ⟨_, rfl⟩
  | listOffsets | updateMetadata | leaveGroup =>
    obtain ⟨v, _, -, hnil, rfl⟩ := List.forall₂_cons_left_iff.mp h
    cases hnil
    exact ⟨_, rfl⟩
  | offsetFetch | metadata | describeGroups | consumerGroupDescribe =>
    obtain ⟨v, _, -, hrest, rfl⟩ := List.forall₂_cons_left_iff.mp h
    obtain ⟨w, _, -, hnil, rfl⟩ := List.forall₂_cons_left_iff.mp hrest
    cases hnil
    exact ⟨_, rfl⟩

/-- A populator that has drawn all that it demands sets the fields that are made of it. -/
theorem run_of_drawAll {p : Populator} {v : Value} {vs : List Value} {es : Entries} (hfits : p.fits v = .ok ())
    (hvs : Populator.drawAll source p.demand s = (.ok vs, s')) (hes : p.fields vs = .ok es) :
    p.run source v s = (.ok (), ⟨s', es⟩) := by
  simp only [run, hfits, run_fill, hvs, hes, List.nil_append]

/-- A populator that cannot draw all that it demands fails as the draw does. -/
theorem run_of_undrawn {p : Populator} {v : Value} {e : Failure} (hfits : p.fits v = .ok ())
    (he : Populator.drawAll source p.demand s = (.error e, s')) : p.run source v s = (.error e, ⟨s', []⟩) := by
  simp only [run, hfits, run_fill, he]

/-- A populator that cannot make its fields of what it has drawn fails as the making does. -/
theorem run_of_refused {p : Populator} {v : Value} {vs : List Value} {e : Failure} (hfits : p.fits v = .ok ())
    (hvs : Populator.drawAll source p.demand s = (.ok vs, s')) (he : p.fields vs = .error e) :
    p.run source v s = (.error e, ⟨s', []⟩) := by
  simp only [run, hfits, run_fill, hvs, he]

/-- A populator fills what it fits, and the source goes on as before. -/
theorem run_of_supplies {p : Populator} {v : Value} (h : Supplies source s) (hfits : p.fits v = .ok ()) :
    ∃ vs es s', Populator.drawAll source p.demand s = (.ok vs, s') ∧ List.Forall₂ Draw.Supplied p.demand vs ∧
      p.fields vs = .ok es ∧ p.run source v s = (.ok (), ⟨s', es⟩) ∧ Supplies source s' := by
  obtain ⟨vs, s', hvs, hsupplied, hs'⟩ := h.drawAll p.demand
  obtain ⟨es, hes⟩ := p.fields_of_supplied hsupplied
  exact ⟨vs, es, s', hvs, hsupplied, hes, run_of_drawAll hfits hvs hes, hs'⟩

end Populator

end RequestSamples
