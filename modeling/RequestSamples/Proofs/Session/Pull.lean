import RequestSamples.Proofs.Session.Places

/-!
# Pulls

What a pull answers and how the generator goes on depends only on how the generator stands: on its resolver, on how
far it has got and on the source from which it draws (`pulled_pull`).  A pull leaves the standing of every other
generator alone, unless that draws from the same source, and a generator stays at its place from pull to pull.
-/

namespace RequestSamples.Session

open RequestSamples.Populator (Consecutive History)

/-- All that the pulls of a generator depend on: also the source, unless it could not be made. -/
structure Standing where
  resolver : Resolver
  progress : Generator.Progress
  supply : Except Failure Names.Source

/-- What a generator with a source answers, and how it stands then. -/
def Standing.turn (t : Tables) (g : Standing) (source : Names.Source) :
    Except Failure (Option Sample) × Standing :=
  match Generator.step t g.resolver Names.Source.draws g.progress source with
  | (progress, none) => (.ok none, { g with progress := progress })
  | (progress, some now) => (now.result.map some, { g with progress := progress, supply := .ok now.source })

/-- What a generator answers to a pull, and how it stands then. -/
def Standing.pull (t : Tables) (g : Standing) : Except Failure (Option Sample) × Standing :=
  match g.progress, g.supply with
  | .over, _ => (.ok none, g)
  | _, .error e => (.error e, { g with progress := .over })
  | _, .ok source => g.turn t source

/-- How a generator of the session stands. -/
def standingOf (s : Session) (g : Suspended) : Standing := ⟨g.resolver, g.progress, s.sourceFor (s.place g)⟩

/-- How the generator with an id stands. -/
def standing (s : Session) (id : String) : Option Standing := (s.generators.lookup id).map s.standingOf

variable {t : Tables} {s s' s₁ : Session} {i j : Nat} {id id' : String} {g : Suspended}

theorem standingOf_of_source (hs : s.WellPlaced) (hg : s.generators.lookup id = some g)
    (hsource : g.source = some i) : s.standingOf g = ⟨g.resolver, g.progress, .ok (s.sourceAt i)⟩ := by
  rw [standingOf, place, hsource, Option.getD_some, sourceFor_of_lt (hs.lookup hg hsource)]

/-- Without a source of its own a generator stands as if the shared source had been made. -/
theorem standingOf_of_prepared (hs : s.WellPlaced) (hsource : g.source = none) (h : Prepared s i s₁) :
    s.standingOf g = ⟨g.resolver, g.progress, .ok (s₁.sourceAt i)⟩ := by
  rw [standingOf, place, hsource, Option.getD_none, h.sourceFor_sharedAt hs]

theorem standingOf_of_refused {e : Failure} (hsource : g.source = none) (h : s.sharedPlace = .error e) :
    s.standingOf g = ⟨g.resolver, g.progress, .error e⟩ := by
  rw [standingOf, place, hsource, Option.getD_none, sourceFor_sharedAt_of_error h]

/-- The session has only changed in what a generator does: it now stands like this, and the others draw from the
places that they have drawn from. -/
structure Moved (s : Session) (id : String) (i : Nat) (g : Standing) (s' : Session) : Prop where
  wellPlaced : s'.WellPlaced
  environment : s'.environment = s.environment
  sourceIds : s'.sourceIds = s.sourceIds
  length : s.sources.length ≤ s'.sources.length
  sharedAt : s'.sharedAt = s.sharedAt
  generator : ∃ g', s'.generators.lookup id = some g' ∧ s'.place g' = i ∧ s'.standingOf g' = g
  others : ∀ id', id' ≠ id → s'.generators.lookup id' = s.generators.lookup id'
  elsewhere : ∀ j, j ≠ i → s'.sourceFor j = s.sourceFor j

private theorem Moved.stay (hs : s.WellPlaced) (hg : s.generators.lookup id = some g) :
    Moved s id (s.place g) (s.standingOf g) s where
  wellPlaced := hs
  environment := rfl
  sourceIds := rfl
  length := Nat.le_refl _
  sharedAt := rfl
  generator := ⟨g, hg, rfl, rfl⟩
  others := fun _ _ => rfl
  elsewhere := fun _ _ => rfl

theorem Moved.setGenerator (hs : s.WellPlaced) (hg : s.generators.lookup id = some g)
    (progress : Generator.Progress) :
    Moved s id (s.place g) { s.standingOf g with progress := progress }
      (s.setGenerator id { g with progress := progress }) where
  wellPlaced := hs.setGenerator fun _ hi => hs.lookup hg hi
  environment := rfl
  sourceIds := rfl
  length := Nat.le_refl _
  sharedAt := rfl
  generator := ⟨_, lookup_setGenerator, rfl, rfl⟩
  others := fun _ h => lookup_setGenerator_ne h
  elsewhere := fun _ _ => rfl

/-- A turn takes the generator to the place where it draws. -/
theorem lookup_turn :
    (turn t s id g i).2.generators.lookup id =
      some { g with
        source := some i
        progress := (Generator.step t g.resolver Names.Source.draws g.progress (s.sourceAt i)).1 } := by
  unfold turn
  rcases Generator.step t g.resolver Names.Source.draws g.progress (s.sourceAt i) with ⟨progress, _ | now⟩ <;>
    exact lookup_setGenerator

private theorem moved_turn (t : Tables) (id : String) (g : Suspended) (hs : s.WellPlaced)
    (hi : i < s.sources.length) :
    (turn t s id g i).1 = (Standing.turn t ⟨g.resolver, g.progress, .ok (s.sourceAt i)⟩ (s.sourceAt i)).1 ∧
      Moved s id i (Standing.turn t ⟨g.resolver, g.progress, .ok (s.sourceAt i)⟩ (s.sourceAt i)).2
        (turn t s id g i).2 := by
  unfold turn Standing.turn
  have hplaced (g' : Suspended) (hg' : g'.source = some i) : (s.setGenerator id g').WellPlaced :=
    hs.setGenerator fun j hj => by rw [hg'] at hj; cases hj; exact hi
  rcases Generator.step t g.resolver Names.Source.draws g.progress (s.sourceAt i) with ⟨progress, _ | now⟩
  · refine ⟨rfl, hplaced _ rfl, rfl, rfl, Nat.le_refl _, rfl, ⟨_, lookup_setGenerator, rfl, ?_⟩,
      fun _ h => lookup_setGenerator_ne h, fun _ _ => rfl⟩
    rw [standingOf]
    simp only [Standing.mk.injEq, true_and]
    exact sourceFor_of_lt hi
  · have hset := (hplaced { g with source := some i, progress := progress } rfl).setSource i now.source
    refine ⟨rfl, ⟨hset.shared, hset.ids, hset.generators⟩, rfl, rfl, Nat.le_of_eq List.length_set.symm, ?_,
      ⟨_, lookup_setGenerator, rfl, ?_⟩,
      fun _ h => lookup_setGenerator_ne h, fun j h => sourceFor_setSource_ne h⟩
    · show s.shared.getD (s.sources.set i now.source).length = _
      rw [List.length_set]
      rfl
    · rw [standingOf]
      simp only [Standing.mk.injEq, true_and]
      exact sourceFor_setSource (s := s.setGenerator id _) hi

private theorem Prepared.moved {g' : Standing} (h : Prepared s i s₁) (hm : Moved s₁ id i g' s') :
    Moved s id i g' s' where
  wellPlaced := hm.wellPlaced
  environment := hm.environment.trans h.environment_eq
  sourceIds := hm.sourceIds.trans h.sourceIds_eq
  length := Nat.le_trans h.length_le hm.length
  sharedAt := by
    rw [hm.sharedAt, h.sharedAt_eq, Session.sharedAt, h.shared_eq]
    rfl
  generator := hm.generator
  others := fun id' hid => (hm.others id' hid).trans (by rw [h.generators_eq])
  elsewhere := fun j hj => (hm.elsewhere j hj).trans (h.sourceFor j)

theorem pull_of_over (h : g.progress = .over) : pull t s id g = (.ok none, s) := by
  simp only [pull, h]

theorem pull_of_source (h : g.progress ≠ .over) (hsource : g.source = some i) :
    pull t s id g = turn t s id g i := by
  cases hp : g.progress with
  | «over» => exact absurd hp h
  | fresh | ready => simp only [pull, hp, hsource]

theorem pull_of_prepared (h : g.progress ≠ .over) (hsource : g.source = none) (hs : Prepared s i s₁) :
    pull t s id g = turn t s₁ id g i := by
  cases hp : g.progress with
  | «over» => exact absurd hp h
  | fresh | ready => simp only [pull, hp, hsource, sharedPlace_eq_ok.mpr hs]

theorem pull_of_refused {e : Failure} (h : g.progress ≠ .over) (hsource : g.source = none)
    (hs : s.sharedPlace = .error e) :
    pull t s id g = (.error e, s.setGenerator id { g with progress := .over }) := by
  cases hp : g.progress with
  | «over» => exact absurd hp h
  | fresh | ready => simp only [pull, hp, hsource, hs]

namespace Standing

variable {st : Standing}

theorem pull_of_over (h : st.progress = .over) : st.pull t = (.ok none, st) := by
  simp only [Standing.pull, h]

theorem pull_of_ok {source : Names.Source} (h : st.progress ≠ .over) (hsupply : st.supply = .ok source) :
    st.pull t = st.turn t source := by
  cases hp : st.progress with
  | «over» => exact absurd hp h
  | fresh | ready => simp only [Standing.pull, hp, hsupply]

private theorem pull_of_error {e : Failure} (h : st.progress ≠ .over) (hsupply : st.supply = .error e) :
    st.pull t = (.error e, { st with progress := .over }) := by
  cases hp : st.progress with
  | «over» => exact absurd hp h
  | fresh | ready => simp only [Standing.pull, hp, hsupply]

end Standing

namespace Standing

variable {st : Standing} {source : Names.Source}

theorem supply_of_error {e : Failure} (h : st.supply = .error e) : (st.pull t).2.supply = .error e := by
  by_cases hover : st.progress = .over
  · rw [pull_of_over hover]
    exact h
  · rw [pull_of_error hover h]
    exact h

theorem consecutive_pull (t : Tables) (h : st.supply = .ok source) :
    ∃ source', (st.pull t).2.supply = .ok source' ∧
      Consecutive Names.Source.draws source
        (Generator.drawnInStep t Names.Source.draws st.progress source) source' := by
  by_cases hover : st.progress = .over
  · rw [pull_of_over hover]
    refine ⟨source, h, ?_⟩
    rw [hover]
    exact .nil source
  · have hdrawn := Generator.consecutive_step t st.resolver Names.Source.draws st.progress source
    rw [pull_of_ok hover h, Standing.turn]
    rcases hstep : Generator.step t st.resolver Names.Source.draws st.progress source with ⟨progress, _ | now⟩ <;>
      rw [hstep] at hdrawn
    · exact ⟨source, h, hdrawn⟩
    · exact ⟨now.source, rfl, hdrawn⟩

theorem drawn_of_stop (h : st.supply = .ok source) (hstop : (st.pull t).1 = .ok none) :
    Generator.drawnInStep t Names.Source.draws st.progress source = [] := by
  by_cases hover : st.progress = .over
  · rw [hover]
    rfl
  · have ends := Generator.step_ends t st.resolver Names.Source.draws st.progress
    rw [pull_of_ok hover h, Standing.turn] at hstop
    generalize Generator.step t st.resolver Names.Source.draws st.progress = f at ends hstop
    unfold Generator.drawnInStep
    cases ends with
    | ended hk | refused hk => rw [hk]
    | @turned k =>
      dsimp only at hstop
      cases hresult : (Generator.turn t st.resolver Names.Source.draws k source).result <;>
        rw [hresult] at hstop <;> cases hstop

theorem drawn_of_sample {sample : Sample} (hs : source.Textual) (h : st.supply = .ok source)
    (hsample : (st.pull t).1 = .ok (some sample)) :
    Generator.drawnInStep t Names.Source.draws st.progress source = t.history sample := by
  have hover : st.progress ≠ .over := by
    intro hover
    rw [pull_of_over hover] at hsample
    cases hsample
  rw [pull_of_ok hover h, Standing.turn] at hsample
  rcases hstep : Generator.step t st.resolver Names.Source.draws st.progress source with ⟨progress, _ | now⟩ <;>
    rw [hstep] at hsample
  · cases hsample
  · refine Generator.drawnInStep_of_ok hs hstep ?_
    dsimp only at hsample
    cases hresult : now.result with
    | error e => rw [hresult] at hsample; cases hsample
    | ok sample' => rw [hresult] at hsample; cases hsample; rfl

end Standing

theorem moved_pull (hs : s.WellPlaced) (hg : s.generators.lookup id = some g) :
    (pull t s id g).1 = ((s.standingOf g).pull t).1 ∧
      Moved s id (s.place g) ((s.standingOf g).pull t).2 (pull t s id g).2 := by
  by_cases hover : g.progress = .over
  · rw [pull_of_over hover, Standing.pull_of_over hover]
    exact ⟨rfl, .stay hs hg⟩
  cases hsource : g.source with
  | some i =>
    have hi := hs.lookup hg hsource
    have hplace : s.place g = i := by rw [place, hsource]; rfl
    rw [pull_of_source hover hsource, standingOf_of_source hs hg hsource, Standing.pull_of_ok hover rfl, hplace]
    exact moved_turn t id g hs hi
  | none =>
    have hplace : s.place g = s.sharedAt := by rw [place, hsource]; rfl
    cases hshared : s.sharedPlace with
    | error e =>
      have hsupply := congrArg Standing.supply (standingOf_of_refused hsource hshared)
      rw [pull_of_refused hover hsource hshared, Standing.pull_of_error hover hsupply]
      exact ⟨rfl, .setGenerator hs hg .over⟩
    | ok p =>
      obtain ⟨i, s₁⟩ := p
      have hprepared := sharedPlace_eq_ok.mp hshared
      obtain ⟨hs₁, hi⟩ := hprepared.wellPlaced hs
      rw [hprepared.sharedAt_eq] at hplace
      have hmoved := moved_turn t id g hs₁ hi
      rw [pull_of_prepared hover hsource hprepared, standingOf_of_prepared hs hsource hprepared,
        Standing.pull_of_ok hover rfl, hplace]
      exact ⟨hmoved.1, hprepared.moved hmoved.2⟩

end RequestSamples.Session
