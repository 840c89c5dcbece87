import RequestSamples.Proofs.Session.Parts
import RequestSamples.Proofs.Session.Shared

/-!
# Steps that handle a generator

Only the steps that open, pull or close a generator handle it: all others leave it as it is (`lookup_step_ne`).  Two
sessions that differ in one generator answer alike to all steps that do not handle it, and go on to differ in it alone
(`SameBut.step`).
-/

namespace RequestSamples.Session

/-- The generator that a step opens, pulls or closes. -/
def Step.handled? : Step → Option String
  | openGenerator id .. | next id _ | close id => some id
  | _ => none

/-- The session with other generators. -/
def withGenerators (s : Session) (gs : List (String × Suspended)) : Session := { s with generators := gs }

/-- The second session differs from the first one in nothing but the generator with an id. -/
def SameBut (id : String) (s s' : Session) : Prop :=
  ∃ gs, s' = s.withGenerators gs ∧ ∀ id', id' ≠ id → gs.lookup id' = s.generators.lookup id'

variable {t : Tables} {s s' : Session} {st : Step} {i : Nat} {id id' : String} {g : Suspended}
  {gs : List (String × Suspended)}

theorem SameBut.refl (id : String) (s : Session) : SameBut id s s := ⟨s.generators, rfl, fun _ _ => rfl⟩

/-- Whatever the generator becomes, it is the only difference. -/
theorem SameBut.setGenerator_self (h : SameBut id s s') (g : Suspended) : SameBut id s (s'.setGenerator id g) := by
  obtain ⟨gs, rfl, hgs⟩ := h
  refine ⟨((s.withGenerators gs).setGenerator id g).generators, rfl, ?_⟩
  intro id' hid
  exact (lookup_setGenerator_ne hid).trans (hgs id' hid)

theorem SameBut.setGenerator (h : SameBut id s s') (id' : String) (g : Suspended) :
    SameBut id (s.setGenerator id' g) (s'.setGenerator id' g) := by
  obtain ⟨gs, rfl, hgs⟩ := h
  refine ⟨((s.withGenerators gs).setGenerator id' g).generators, rfl, ?_⟩
  intro j hj
  by_cases hid : j = id'
  · subst hid
    rw [lookup_setGenerator, lookup_setGenerator]
  · rw [lookup_setGenerator_ne hid, lookup_setGenerator_ne hid]
    exact hgs j hj

theorem SameBut.lookup (h : SameBut id s s') (hid : id' ≠ id) :
    s'.generators.lookup id' = s.generators.lookup id' := by
  obtain ⟨gs, rfl, hgs⟩ := h
  exact hgs id' hid

private theorem SameBut.generator_eq (h : SameBut id s s') (hid : id' ≠ id) : s'.generator id' = s.generator id' := by
  rw [Session.generator, Session.generator, h.lookup hid]

/-- A step that handles no generator does the same whatever generators there are. -/
private theorem step_withGenerators (hst : st.handled? = none) (gs : List (String × Suspended)) :
    (s.withGenerators gs).step t st = ((s.step t st).1, (s.step t st).2.withGenerators gs) := by
  cases st with
  | openGenerator | next | close => cases hst
  | setEnvironment | reset | seed | sharedSeed | sharedIsSame | sharedDraw | makeSource | setSuffixDigits | draw
  | left =>
    exact step_withParts (by trivial) (fun _ => gs) (fun r => r) (fun l => l)
  | makeSkeleton | makeMessage | populate | «show» | equal | set | append | share =>
    exact step_withOthers (by trivial) (fun _ => gs) (fun l => l)
  | setUpLog =>
    simp only [step]
    rw [show (s.withGenerators gs).logger = s.logger from rfl,
      show (s.withGenerators gs).environment = s.environment from rfl]
    cases s.logger.setUp s.environment <;> rfl
  | addHandler | takeLines => rfl

private theorem generators_step (hst : st.handled? = none) : (s.step t st).2.generators = s.generators := by
  have hmoves := step_moves t s st
  generalize (s.step t st).2 = s' at hmoves
  cases hmoves with
  | aside h => exact h.generators
  | reset | makeSource => rfl
  | shared h => exact h.generators_eq
  | sharedDraw h => exact h.generators_eq
  | used _ h => exact h.generators
  | opened | closed | pulled => cases hst

theorem SameBut.turn (h : SameBut id s s') (id' : String) (g : Suspended) (i : Nat) :
    (turn t s' id' g i).1 = (turn t s id' g i).1 ∧ SameBut id (turn t s id' g i).2 (turn t s' id' g i).2 := by
  have hset (progress : Generator.Progress) := h.setGenerator id' { g with source := some i, progress := progress }
  have hsource : s'.sourceAt i = s.sourceAt i := by
    obtain ⟨gs, rfl, -⟩ := h
    rfl
  unfold Session.turn
  rw [hsource]
  rcases Generator.step t g.resolver Names.Source.draws g.progress (s.sourceAt i) with ⟨progress, _ | now⟩
  · exact ⟨rfl, hset progress⟩
  · refine ⟨rfl, ?_⟩
    obtain ⟨gs, hgs, hothers⟩ := hset progress
    dsimp only at hgs ⊢
    rw [hgs]
    exact ⟨gs, rfl, hothers⟩

theorem SameBut.pull (h : SameBut id s s') (id' : String) (g : Suspended) :
    (pull t s' id' g).1 = (pull t s id' g).1 ∧ SameBut id (pull t s id' g).2 (pull t s' id' g).2 := by
  by_cases hover : g.progress = .over
  · rw [pull_of_over hover, pull_of_over hover]
    exact ⟨rfl, h⟩
  cases hsource : g.source with
  | some i =>
    rw [pull_of_source hover hsource, pull_of_source hover hsource]
    exact h.turn id' g i
  | none =>
    obtain ⟨gs, rfl, hothers⟩ := h
    have hplace : (s.withGenerators gs).sharedPlace = s.sharedPlace.map fun p => (p.1, p.2.withGenerators gs) :=
      sharedPlace_withParts (fun _ => gs) (fun r => r) (fun l => l)
    cases hshared : s.sharedPlace with
    | error e =>
      rw [hshared] at hplace
      rw [pull_of_refused hover hsource hshared, pull_of_refused hover hsource hplace]
      exact ⟨rfl, SameBut.setGenerator ⟨gs, rfl, hothers⟩ id' _⟩
    | ok p =>
      rw [hshared] at hplace
      have hprepared := sharedPlace_eq_ok.mp hshared
      rw [pull_of_prepared hover hsource hprepared, pull_of_prepared hover hsource (sharedPlace_eq_ok.mp hplace)]
      refine SameBut.turn ⟨gs, rfl, ?_⟩ id' g p.1
      rw [hprepared.generators_eq]
      exact hothers

private theorem SameBut.opened (h : SameBut id s s') (id' : String) (selection : Given Selection)
    (resolver : Given Resolver) (source : Option String) :
    let st := Step.openGenerator id' selection resolver source
    (s'.step t st).1 = (s.step t st).1 ∧ SameBut id (s.step t st).2 (s'.step t st).2 := by
  have hplace : s'.sourcePlace = s.sourcePlace := by
    obtain ⟨gs, rfl, -⟩ := h
    rfl
  simp only [Session.step]
  rw [hplace]
  cases source.mapM s.sourcePlace with
  | error e => exact ⟨rfl, h⟩
  | ok place => cases resolver <;> cases selection <;> first | exact ⟨rfl, h⟩ | exact ⟨rfl, h.setGenerator _ _⟩

private theorem SameBut.closed (h : SameBut id s s') (hid : id' ≠ id) :
    (s'.step t (.close id')).1 = (s.step t (.close id')).1 ∧
      SameBut id (s.step t (.close id')).2 (s'.step t (.close id')).2 := by
  simp only [Session.step, h.generator_eq hid]
  cases s.generator id' with
  | error e => exact ⟨rfl, h⟩
  | ok g => exact ⟨rfl, h.setGenerator _ _⟩

private theorem SameBut.pulled (h : SameBut id s s') (hid : id' ≠ id) (into : Option String) :
    (s'.step t (.next id' into)).1 = (s.step t (.next id' into)).1 ∧
      SameBut id (s.step t (.next id' into)).2 (s'.step t (.next id' into)).2 := by
  simp only [Session.step, h.generator_eq hid]
  cases s.generator id' with
  | error e => exact ⟨rfl, h⟩
  | ok g =>
    dsimp only
    obtain ⟨hanswer, hpull⟩ := h.pull (t := t) id' g
    rcases hr : Session.pull t s id' g with ⟨e | _ | sample, r⟩ <;>
      rcases hr' : Session.pull t s' id' g with ⟨e' | _ | sample', r'⟩ <;> rw [hr, hr'] at hanswer hpull <;>
      cases hanswer
    · exact ⟨rfl, hpull⟩
    · exact ⟨rfl, hpull⟩
    · cases into with
      | none => exact ⟨rfl, hpull⟩
      | some name =>
        obtain ⟨gs, rfl, hothers⟩ := hpull
        exact ⟨rfl, gs, rfl, hothers⟩

/-- A step that does not handle the generator answers alike, and the generator stays the only difference. -/
theorem SameBut.step (h : SameBut id s s') (hst : st.handled? ≠ some id) :
    (s'.step t st).1 = (s.step t st).1 ∧ SameBut id (s.step t st).2 (s'.step t st).2 := by
  cases hhandled : st.handled? with
  | none =>
    obtain ⟨gs, rfl, hothers⟩ := h
    rw [step_withGenerators hhandled]
    refine ⟨rfl, gs, rfl, ?_⟩
    rw [generators_step hhandled]
    exact hothers
  | some id' =>
    have hid : id' ≠ id := by
      rintro rfl
      exact hst hhandled
    cases st with
    | openGenerator _ selection resolver source => exact h.opened _ selection resolver source
    | close =>
      cases hhandled
      exact h.closed hid
    | next _ into =>
      cases hhandled
      exact h.pulled hid into
    | _ => cases hhandled

private theorem lookup_turn_ne
    (hid : id' ≠ id) : (turn t s id g i).2.generators.lookup id' = s.generators.lookup id' := by
  unfold turn
  rcases Generator.step t g.resolver Names.Source.draws g.progress (s.sourceAt i) with ⟨progress, _ | now⟩ <;>
    exact lookup_setGenerator_ne hid

private theorem lookup_pull_ne
    (hid : id' ≠ id) : (pull t s id g).2.generators.lookup id' = s.generators.lookup id' := by
  by_cases hover : g.progress = .over
  · rw [pull_of_over hover]
  cases hsource : g.source with
  | some i => rw [pull_of_source hover hsource, lookup_turn_ne hid]
  | none =>
    cases hshared : s.sharedPlace with
    | error e => rw [pull_of_refused hover hsource hshared, lookup_setGenerator_ne hid]
    | ok p =>
      have hprepared := sharedPlace_eq_ok.mp hshared
      rw [pull_of_prepared hover hsource hprepared, lookup_turn_ne hid, hprepared.generators_eq]

/-- A step that does not handle a generator leaves it as it is. -/
theorem lookup_step_ne (hst : st.handled? ≠ some id) :
    (s.step t st).2.generators.lookup id = s.generators.lookup id := by
  have hmoves := step_moves t s st
  generalize (s.step t st).2 = s' at hmoves
  cases hmoves with
  | aside h => rw [h.generators]
  | reset | makeSource => rfl
  | shared h => rw [h.generators_eq]
  | sharedDraw h => exact congrArg (·.lookup id) h.generators_eq
  | used _ h => rw [h.generators]; rfl
  | opened | closed => exact lookup_setGenerator_ne fun h => hst (congrArg some h.symm)
  | pulled _ h =>
    rw [h.generators]
    exact lookup_pull_ne fun h => hst (congrArg some h.symm)

/-- Closing a generator answers nothing. -/
theorem step_close (hg : s.generators.lookup id = some g) :
    s.step t (.close id) = (.ok .nothing, s.setGenerator id { g with progress := .over }) := by
  rw [step, generator_of_lookup hg]
  rfl

end RequestSamples.Session
