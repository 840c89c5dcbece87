import Mathlib.Data.List.Forall2
import RequestSamples.Proofs.Populator.Draws

/-!
# Sources of texts and ids

The names that a seeded source gives are texts and its ids are ids, whatever has been drawn before.  A scripted
source is as good if what it has in store is (`Source.Textual`).  It stays so draw after draw
(`textual_of_consecutive`), so whatever a populator draws is what it has asked for (`fits_of_drawAll`).
-/

namespace RequestSamples

open RequestSamples.Populator (Consecutive History drawAll givings made)
open RequestSamples.Session (drawFrom)

/-- The value is what a draw of this kind is meant to give. -/
def Draw.Fits : Draw → Value → Prop
  | .name, v => ∃ t, v = .text t
  | .uuid, v => ∃ u, v = .uuid u

/-- A chain of draws has succeeded only if each of its links has. -/
theorem Drawing.on_bind_eq_ok {σ α β : Type} {d : Drawing σ α} {k : α → Drawing σ β} {s s' : σ} {b : β}
    (h : Drawing.on (d >>= k) s = (.ok b, s')) : ∃ a s₁, d.on s = (.ok a, s₁) ∧ (k a).on s₁ = (.ok b, s') := by
  unfold Drawing.on at h ⊢
  rw [ExceptT.run_bind, StateT.run_bind] at h
  rcases hd : (ExceptT.run d).run s with ⟨e | a, s₁⟩ <;> rw [hd] at h
  · cases h
  · exact ⟨a, s₁, rfl, h⟩

namespace Names

private theorem Seeded.fits_of_name {s s' : Seeded} {v : Value} (h : Drawing.on Seeded.name s = (.ok v, s')) :
    Draw.name.Fits v := by
  obtain ⟨adjective, _, -, h⟩ := Drawing.on_bind_eq_ok h
  obtain ⟨surname, _, -, h⟩ := Drawing.on_bind_eq_ok h
  obtain ⟨_, _, -, h⟩ := Drawing.on_bind_eq_ok h
  obtain ⟨digits, _, -, h⟩ := Drawing.on_bind_eq_ok h
  obtain ⟨suffix, _, -, h⟩ := Drawing.on_bind_eq_ok h
  cases h
  exact ⟨_, rfl⟩

private theorem Seeded.fits_of_uuid {s s' : Seeded} {v : Value} (h : Drawing.on Seeded.uuid s = (.ok v, s')) :
    Draw.uuid.Fits v := by
  obtain ⟨n, _, -, h⟩ := Drawing.on_bind_eq_ok h
  cases h
  exact ⟨_, rfl⟩

namespace Source

/-- All names that the source has in store are texts, and all ids are ids. -/
def Textual : Source → Prop
  | seeded _ => True
  | scripted names uuids =>
    (∀ v, .ok v ∈ names → Draw.name.Fits v) ∧ ∀ v, .ok v ∈ uuids → Draw.uuid.Fits v

/-- A draw gives what it is meant to give, and leaves a source that goes on so. -/
theorem Textual.draw {s : Source} (h : s.Textual) (d : Draw) :
    (∀ v, ((drawFrom draws d).on s).1 = .ok v → d.Fits v) ∧ ((drawFrom draws d).on s).2.Textual := by
  match s, d with
  | seeded s, .name =>
    refine ⟨?_, trivial⟩
    intro v hv
    exact Seeded.fits_of_name (Prod.ext hv rfl)
  | seeded s, .uuid =>
    refine ⟨?_, trivial⟩
    intro v hv
    exact Seeded.fits_of_uuid (Prod.ext hv rfl)
  | scripted [] us, .name => exact ⟨fun v hv => (nomatch hv), h⟩
  | scripted ns [], .uuid => exact ⟨fun v hv => (nomatch hv), h⟩
  | scripted (n :: ns) us, .name =>
    obtain ⟨hnames, huuids⟩ := h
    refine ⟨?_, ?_, huuids⟩
    · intro v hv
      exact hnames v (List.mem_cons.mpr (.inl hv.symm))
    · intro v hv
      exact hnames v (List.mem_cons_of_mem _ hv)
  | scripted ns (u :: us), .uuid =>
    obtain ⟨hnames, huuids⟩ := h
    refine ⟨?_, hnames, ?_⟩
    · intro v hv
      exact huuids v (List.mem_cons.mpr (.inl hv.symm))
    · intro v hv
      exact huuids v (List.mem_cons_of_mem _ hv)

theorem textual_of_consecutive {s s' : Source} {h : History} (hs : s.Textual)
    (hh : Consecutive draws s h s') : s'.Textual := by
  induction hh with
  | nil => exact hs
  | cons _ ih => exact ih (hs.draw _).2

/-- What has been drawn is what was asked for. -/
theorem fits_of_drawAll {s s' : Source} {ds : List Draw} {vs : List Value} (hs : s.Textual)
    (h : drawAll draws ds s = (.ok vs, s')) : List.Forall₂ Draw.Fits ds vs := by
  induction ds generalizing s vs with
  | nil => cases h; exact .nil
  | cons d ds ih =>
    unfold drawAll at h
    split at h
    · cases h
    · rename_i v s₁ hd
      split at h
      · cases h
      · rename_i vs' s₂ hds
        cases h
        have hdraw := hs.draw d
        rw [hd] at hdraw
        exact .cons (hdraw.1 v rfl) (ih hdraw.2 hds)

/-- If everything is drawn, the draws are those that have given it. -/
theorem made_of_drawAll {s s' : Source} {ds : List Draw} {vs : List Value} (hs : s.Textual)
    (h : drawAll draws ds s = (.ok vs, s')) : made draws ds s = givings vs := by
  induction ds generalizing s vs with
  | nil => cases h; rfl
  | cons d ds ih =>
    unfold drawAll at h
    split at h
    · cases h
    · rename_i v s₁ hd
      split at h
      · cases h
      · rename_i vs' s₂ hds
        cases h
        have hdraw := hs.draw d
        rw [hd] at hdraw
        have hfits := hdraw.1 v rfl
        have hmade : made draws (d :: ds) s = (d, .ok v) :: made draws ds s₁ := by rw [made, hd]
        rw [hmade, ih hdraw.2 hds]
        cases d with
        | name | uuid =>
          obtain ⟨x, rfl⟩ := hfits
          rfl

end Source

end Names

end RequestSamples
