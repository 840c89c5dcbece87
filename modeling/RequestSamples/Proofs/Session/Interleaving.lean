import RequestSamples.Proofs.Session.Steps

/-!
# Interleaved generators

Generators that are open at the same time may be pulled and closed in any order.
* A generator whose source no other one uses answers as if it were the only one (`filter_run`).
* Generators that share a source put its draws into their samples one after the other, in the order of the pulls
  (`consecutive_samples`), and but for what is drawn each gives the samples that it would give alone
  (`outlined_run`).
-/

namespace RequestSamples.Session

open RequestSamples.Populator (Consecutive History)

/-- The generator that a step pulls or closes. -/
def Step.generator? : Step → Option String
  | next id _ | close id => some id
  | _ => none

/-- A generator still draws from the place, and there is something to draw from. -/
def Uses (s : Session) (id : String) (i : Nat) : Prop :=
  ∃ g source, s.generators.lookup id = some g ∧ g.progress ≠ .over ∧ s.place g = i ∧ s.sourceFor i = .ok source

/-- What a generator answers to a step that pulls or closes it, and how it stands then. -/
def Standing.answer (t : Tables) (g : Standing) : Step → Except Failure Reply × Standing
  | .next .. =>
    match g.pull t with
    | (.error e, g) => (.error e, g)
    | (.ok none, g) => (.ok .stop, g)
    | (.ok (some sample), g) => (.ok (.sample sample), g)
  | .close _ => (.ok .nothing, { g with progress := .over })
  | _ => (.ok .nothing, g)

variable {t : Tables} {s s' a : Session} {st : Step} {sts : List Step} {i j : Nat} {id id' : String}
  {g : Suspended} {source : Names.Source}

/-! ### What a move leaves alone -/

private theorem Moved.keepStore {g : Standing} (h : Moved s id i g s') (store : Store) :
    Moved s id i g { s' with store := store } :=
  ⟨⟨h.wellPlaced.shared, h.wellPlaced.ids, h.wellPlaced.generators⟩, h.environment, h.sourceIds, h.length,
    h.sharedAt, h.generator, h.others, h.elsewhere⟩

theorem Moved.placeOf {g' : Standing} (hg : s.generators.lookup id = some g)
    (h : Moved s id (s.place g) g' s') : s'.placeOf = s.placeOf := by
  funext id'
  by_cases hid : id' = id
  · subst hid
    obtain ⟨g₁, hg₁, hplace, -⟩ := h.generator
    rw [Session.placeOf, Session.placeOf, hg₁, hg, Option.map_some, Option.map_some, hplace]
  · have hplace : s'.place = s.place := by
      funext g
      rw [place, place, h.sharedAt]
    rw [Session.placeOf, Session.placeOf, h.others id' hid, hplace]

/-- The others stand as before, but for the source at the place of the move. -/
private theorem Moved.standing_other {g' : Standing} (h : Moved s id i g' s') (hid : id' ≠ id)
    (hsame : s'.sourceFor i = s.sourceFor i ∨ s.placeOf id' ≠ some i) : s'.standing id' = s.standing id' := by
  rw [standing, standing, h.others id' hid]
  cases hg : s.generators.lookup id' with
  | none => rfl
  | some g =>
    have hplace : s'.place g = s.place g := by rw [place, place, h.sharedAt]
    have hfor : s'.sourceFor (s.place g) = s.sourceFor (s.place g) := by
      by_cases hi : s.place g = i
      · rw [hi]
        rcases hsame with hsame | hne
        · exact hsame
        · rw [Session.placeOf, hg, Option.map_some, hi] at hne
          exact absurd rfl hne
      · exact h.elsewhere _ hi
    rw [Option.map_some, Option.map_some, standingOf, standingOf, hplace, hfor]

/-! ### Steps of one generator -/

private theorem step_unknown (hst : st.generator? = some id) (hg : s.generators.lookup id = none) :
    s.step t st = (.error (.unknownId id), s) := by
  have hgenerator : s.generator id = .error (.unknownId id) := by rw [generator, hg]
  cases st with
  | next | close =>
    cases hst
    simp only [step, hgenerator, changed, Except.map]
  | _ => cases hst

private theorem moved_step (hs : s.WellPlaced) (hst : st.generator? = some id)
    (hg : s.generators.lookup id = some g) :
    (s.step t st).1 = ((s.standingOf g).answer t st).1 ∧
      Moved s id (s.place g) ((s.standingOf g).answer t st).2 (s.step t st).2 := by
  have hgenerator := generator_of_lookup hg
  cases st with
  | next _ into =>
    cases hst
    obtain ⟨hanswer, hmoved⟩ := moved_pull (t := t) hs hg
    simp only [step, hgenerator, Standing.answer]
    rcases hpull : pull t s id g with ⟨e | _ | sample, s'⟩ <;>
      rcases hstanding : (s.standingOf g).pull t with ⟨r, g'⟩ <;>
      rw [hpull, hstanding] at hanswer hmoved <;> cases hanswer
    · exact ⟨rfl, hmoved⟩
    · exact ⟨rfl, hmoved⟩
    · cases into with
      | none => exact ⟨rfl, hmoved⟩
      | some name => exact ⟨rfl, hmoved.keepStore _⟩
  | close =>
    cases hst
    rw [step, hgenerator]
    exact ⟨rfl, .setGenerator hs hg .over⟩
  | _ => cases hst

private theorem wellPlaced_step_generator (hs : s.WellPlaced) (hst : st.generator? = some id) :
    (s.step t st).2.WellPlaced := by
  cases hg : s.generators.lookup id with
  | none => rw [step_unknown hst hg]; exact hs
  | some g => exact (moved_step hs hst hg).2.wellPlaced

private theorem placeOf_step (hs : s.WellPlaced) (hst : st.generator? = some id) :
    (s.step t st).2.placeOf = s.placeOf := by
  cases hg : s.generators.lookup id with
  | none => rw [step_unknown hst hg]
  | some g => exact (moved_step hs hst hg).2.placeOf hg

namespace Standing

variable {g : Standing}

/-- Nothing is drawn by a generator that is over or has nothing to draw from. -/
private theorem supply_answer (h : g.progress = .over ∨ ∃ e, g.supply = .error e) :
    (g.answer t st).2.supply = g.supply := by
  have hpull : (g.pull t).2.supply = g.supply := by
    rcases h with hover | ⟨e, he⟩
    · rw [pull_of_over hover]
    · rw [supply_of_error he, he]
  unfold answer
  split
  · split <;> rename_i heq <;> rw [heq] at hpull <;> exact hpull
  · rfl
  · rfl

private theorem over_of_over (h : g.progress = .over) : (g.answer t st).2.progress = .over := by
  unfold answer
  rw [pull_of_over h]
  split
  · exact h
  · rfl
  · exact h

end Standing

/-- A step of a generator that does not use the place leaves the source there as it is. -/
private theorem sourceFor_step (hs : s.WellPlaced) (hst : st.generator? = some id) (h : ¬ s.Uses id i) :
    (s.step t st).2.sourceFor i = s.sourceFor i := by
  cases hg : s.generators.lookup id with
  | none => rw [step_unknown hst hg]
  | some g =>
    obtain ⟨-, hmoved⟩ := moved_step (t := t) hs hst hg
    by_cases hi : i = s.place g
    · -- The generator is at the place, but it is over or there is nothing to draw from.
      subst hi
      obtain ⟨g', -, hplace, hstanding⟩ := hmoved.generator
      have hsupply := congrArg Standing.supply hstanding
      rw [Standing.supply_answer] at hsupply
      · rw [← hplace]
        exact hsupply.trans (by rw [hplace]; rfl)
      · by_cases hover : g.progress = .over
        · exact .inl hover
        · cases hfor : s.sourceFor (s.place g) with
          | error e => exact .inr ⟨e, hfor⟩
          | ok source => exact absurd ⟨g, source, hg, hover, rfl, hfor⟩ h
    · exact hmoved.elsewhere i hi

private theorem standing_step_other (hs : s.WellPlaced) (hst : st.generator? = some id) (hid : id' ≠ id)
    (hi : s.placeOf id' = some i) (h : ¬ s.Uses id i) : (s.step t st).2.standing id' = s.standing id' := by
  cases hg : s.generators.lookup id with
  | none => rw [step_unknown hst hg]
  | some g =>
    refine (moved_step hs hst hg).2.standing_other hid ?_
    by_cases hplace : s.place g = i
    · rw [hplace]
      exact .inl (sourceFor_step hs hst h)
    · rw [hi]
      exact .inr fun heq => hplace (Option.some.inj heq).symm

/-- No step of a generator makes another one use a place that it has not used before. -/
private theorem uses_of_step (hs : s.WellPlaced) (hst : st.generator? = some id) (h : (s.step t st).2.Uses id' i) :
    s.Uses id' i := by
  cases hg : s.generators.lookup id with
  | none =>
    rw [step_unknown hst hg] at h
    exact h
  | some g =>
    obtain ⟨-, hmoved⟩ := moved_step (t := t) hs hst hg
    obtain ⟨g', source, hg', hprogress, hplace, hfor⟩ := h
    have hplaces := congrFun (hmoved.placeOf hg) id'
    -- There has been something to draw from before.
    have hbefore : ∃ source, s.sourceFor i = .ok source := by
      by_cases huses : s.Uses id i
      · obtain ⟨-, source, -, -, -, hsource⟩ := huses
        exact ⟨source, hsource⟩
      · exact ⟨source, (sourceFor_step hs hst huses).symm.trans hfor⟩
    obtain ⟨source', hsource'⟩ := hbefore
    rw [Session.placeOf, Session.placeOf, hg', Option.map_some, hplace] at hplaces
    by_cases hid : id' = id
    · subst hid
      obtain ⟨g₁, hg₁, -, hstanding⟩ := hmoved.generator
      cases hg'.symm.trans hg₁
      rw [hg, Option.map_some] at hplaces
      refine ⟨g, source', hg, ?_, (Option.some.inj hplaces).symm, hsource'⟩
      intro hover
      refine hprogress ?_
      exact (congrArg Standing.progress hstanding).trans (Standing.over_of_over hover)
    · rw [hmoved.others id' hid] at hg'
      rw [hg', Option.map_some] at hplaces
      exact ⟨g', source', hg', hprogress, (Option.some.inj hplaces).symm, hsource'⟩

/-! ### A generator with a source of its own -/

theorem standing_step (hs : s.WellPlaced) (hst : st.generator? = some id) {g : Standing}
    (hg : s.standing id = some g) :
    (s.step t st).1 = (g.answer t st).1 ∧ (s.step t st).2.standing id = some (g.answer t st).2 := by
  obtain ⟨g', hg', rfl⟩ := Option.map_eq_some_iff.mp hg
  obtain ⟨hanswer, hmoved⟩ := moved_step (t := t) hs hst hg'
  obtain ⟨g₁, hg₁, -, hstanding⟩ := hmoved.generator
  refine ⟨hanswer, ?_⟩
  rw [standing, hg₁, Option.map_some, hstanding]

theorem filter_run (hs : s.WellPlaced) (ha : a.WellPlaced) (hsts : ∀ st ∈ sts, st.generator?.isSome)
    (hstanding : s.standing id = a.standing id) (hplace : s.placeOf id = some i)
    (huses : ∀ id', s.Uses id' i → id' = id) :
    (s.run t sts).1.filter (fun e => e.1.generator? = some id) =
      (a.run t (sts.filter fun st => st.generator? = some id)).1 := by
  induction sts generalizing s a with
  | nil => rfl
  | cons st sts ih =>
    obtain ⟨id', hst⟩ := Option.isSome_iff_exists.mp (hsts st List.mem_cons_self)
    have hrest : ∀ st ∈ sts, st.generator?.isSome := fun st h => hsts st (List.mem_cons_of_mem _ h)
    have hs' : (s.step t st).2.WellPlaced := wellPlaced_step_generator hs hst
    have hplace' : (s.step t st).2.placeOf id = some i := by rw [placeOf_step hs hst, hplace]
    have huses' : ∀ id', (s.step t st).2.Uses id' i → id' = id := fun id' h => huses id' (uses_of_step hs hst h)
    rw [run, List.filter_cons, List.filter_cons, hst]
    by_cases hid : id' = id
    · -- The generator stands the same in both runs, so it answers the same and stands the same afterwards.
      subst hid
      obtain ⟨g, hg⟩ : ∃ g, s.standing id' = some g := by
        obtain ⟨g, hg, -⟩ := Option.map_eq_some_iff.mp hplace
        exact ⟨_, by rw [standing, hg]; rfl⟩
      obtain ⟨hanswer, hnext⟩ := standing_step (t := t) hs hst hg
      obtain ⟨hanswer', hnext'⟩ := standing_step (t := t) ha hst (hstanding.symm.trans hg)
      simp only [decide_true, if_true, run]
      rw [hanswer, hanswer', ih hs' (wellPlaced_step_generator ha hst) hrest (hnext.trans hnext'.symm) hplace' huses']
    · -- The run alone leaves the step out, and here it does not reach the source of the generator.
      have hne : ¬ some id' = some id := fun h => hid (Option.some.inj h)
      have hothers : ¬ s.Uses id' i := fun h => hid (huses id' h)
      simp only [hne, decide_false, Bool.false_eq_true, if_false]
      refine ih hs' ha hrest ?_ hplace' huses'
      rw [standing_step_other hs hst (fun h => hid h.symm) hplace hothers, hstanding]

/-! ### Generators that share a source -/

private theorem Standing.consecutive_answer {g : Standing} {r : Reply} (hsource : source.Textual)
    (h : g.supply = .ok source) (hr : (g.answer t st).1 = .ok r) :
    ∃ source', (g.answer t st).2.supply = .ok source' ∧
      Consecutive Names.Source.draws source ((samples [(st, .ok r)]).flatMap t.history) source' := by
  obtain ⟨source', hsource', hdrawn⟩ := consecutive_pull t h
  cases st with
  | next =>
    unfold answer at hr ⊢
    rcases hpull : g.pull t with ⟨e | _ | sample, g'⟩ <;> simp only [hpull] at hr hsource' ⊢ <;> cases hr
    · rw [drawn_of_stop h (by rw [hpull])] at hdrawn
      exact ⟨source', hsource', hdrawn⟩
    · rw [drawn_of_sample hsource h (by rw [hpull])] at hdrawn
      refine ⟨source', hsource', ?_⟩
      show Consecutive _ _ (t.history sample ++ []) _
      rw [List.append_nil]
      exact hdrawn
  | _ =>
    cases hr
    exact ⟨source, h, .nil source⟩

/-- The step belongs to a generator at the place. -/
abbrev At (s : Session) (i : Nat) (st : Step) : Prop := st.generator?.bind s.placeOf = some i

private theorem consecutive_step_at (hs : s.WellPlaced) (hst : st.generator? = some id)
    (hsource : s.sourceFor i = .ok source) (htextual : source.Textual)
    (hok : s.At i st → ∃ r, (s.step t st).1 = .ok r) :
    ∃ source', (s.step t st).2.sourceFor i = .ok source' ∧
      Consecutive Names.Source.draws source
        ((samples ([(st, (s.step t st).1)].filter fun e => s.At i e.1)).flatMap t.history) source' := by
  cases hg : s.generators.lookup id with
  | none =>
    have hnot : ¬ s.At i st := by
      rw [At, hst, Option.bind_some, Session.placeOf, hg]
      intro h
      cases h
    simp only [List.filter_cons, hnot, decide_false]
    rw [step_unknown hst hg]
    exact ⟨source, hsource, .nil source⟩
  | some g =>
    obtain ⟨hanswer, hmoved⟩ := moved_step (t := t) hs hst hg
    have hat : s.At i st ↔ s.place g = i := by
      rw [At, hst, Option.bind_some, Session.placeOf, hg, Option.map_some, Option.some.injEq]
    by_cases hi : s.place g = i
    · subst hi
      obtain ⟨r, hr⟩ := hok (hat.mpr rfl)
      obtain ⟨g', -, hplace, hstanding⟩ := hmoved.generator
      obtain ⟨source', hsource', hdrawn⟩ :=
        Standing.consecutive_answer htextual (g := s.standingOf g) hsource (hanswer.symm.trans hr)
      refine ⟨source', ?_, ?_⟩
      · rw [← hplace]
        exact (congrArg Standing.supply hstanding).trans hsource'
      · simp only [List.filter_cons, hat, decide_true, hr]
        exact hdrawn
    · simp only [List.filter_cons, hat, hi, decide_false]
      exact ⟨source, (hmoved.elsewhere i (Ne.symm hi)).trans hsource, .nil source⟩

theorem samples_append (told told' : Transcript) : samples (told ++ told') = samples told ++ samples told' :=
  List.filterMap_append

theorem consecutive_samples (hs : s.WellPlaced) (hsts : ∀ st ∈ sts, st.generator?.isSome)
    (hsource : s.sourceFor i = .ok source) (htextual : source.Textual)
    (hok : ∀ e ∈ (s.run t sts).1, s.At i e.1 → ∃ r, e.2 = .ok r) :
    ∃ source', (s.run t sts).2.sourceFor i = .ok source' ∧
      Consecutive Names.Source.draws source
        ((samples ((s.run t sts).1.filter fun e => s.At i e.1)).flatMap t.history) source' := by
  induction sts generalizing s source with
  | nil => exact ⟨source, hsource, .nil source⟩
  | cons st sts ih =>
    obtain ⟨id, hst⟩ := Option.isSome_iff_exists.mp (hsts st List.mem_cons_self)
    have hrest : ∀ st ∈ sts, st.generator?.isSome := fun st h => hsts st (List.mem_cons_of_mem _ h)
    have hplace : (s.step t st).2.placeOf = s.placeOf := placeOf_step hs hst
    obtain ⟨source₁, hsource₁, hfirst⟩ :=
      consecutive_step_at (t := t) hs hst hsource htextual fun h => hok _ List.mem_cons_self h
    obtain ⟨source₂, hsource₂, hlater⟩ := ih (wellPlaced_step_generator (t := t) hs hst) hrest hsource₁
      (Names.Source.textual_of_consecutive htextual hfirst)
      (fun e he hi => hok e (List.mem_cons_of_mem _ he) (by rw [At, hplace] at hi; exact hi))
    refine ⟨source₂, hsource₂, ?_⟩
    have hsplit : (s.run t (st :: sts)).1 = [(st, (s.step t st).1)] ++ ((s.step t st).2.run t sts).1 := rfl
    simp only [At, hplace] at hlater
    rw [hsplit, List.filter_append, samples_append, List.flatMap_append]
    exact hfirst.append hlater

/-! ### What a generator would do alone -/

namespace Standing

variable {g h : Standing} {source' : Names.Source}

private theorem resolver_pull (t : Tables) (g : Standing) : (g.pull t).2.resolver = g.resolver := by
  unfold Standing.pull
  split
  · rfl
  · rfl
  · unfold Standing.turn
    split <;> rfl

private theorem resolver_answer (t : Tables) (g : Standing) (st : Step) : (g.answer t st).2.resolver = g.resolver := by
  have hpull := resolver_pull t g
  unfold answer
  split
  · split <;> rename_i heq <;> rw [heq] at hpull <;> exact hpull
  · rfl
  · rfl

/-- Where one generator goes on, one that stands the same with another source goes on in the same way, unless it
fails. -/
private theorem outline_pull {now : Option Sample} (hresolver : h.resolver = g.resolver)
    (hprogress : h.progress = g.progress) (hg : g.supply = .ok source) (hh : h.supply = .ok source')
    (htextual : source.Textual) (htextual' : source'.Textual) (hnow : (g.pull t).1 = .ok now) :
    ((∃ e, (h.pull t).1 = .error e) ∧ (h.pull t).2.progress = .over) ∨
      ∃ now', (h.pull t).1 = .ok now' ∧ now'.map Sample.outline = now.map Sample.outline ∧
        (h.pull t).2.progress = (g.pull t).2.progress := by
  by_cases hover : g.progress = .over
  · rw [pull_of_over hover] at hnow ⊢
    rw [pull_of_over (hprogress.trans hover)]
    cases hnow
    exact .inr ⟨none, rfl, rfl, hprogress⟩
  · rw [pull_of_ok hover hg, Standing.turn] at hnow ⊢
    rw [pull_of_ok (by rw [hprogress]; exact hover) hh, Standing.turn, hresolver, hprogress]
    have ends := Generator.step_ends t g.resolver Names.Source.draws g.progress
    generalize Generator.step t g.resolver Names.Source.draws g.progress = f at ends hnow ⊢
    cases ends with
    | ended =>
      cases hnow
      exact .inr ⟨none, rfl, rfl, rfl⟩
    | refused => cases hnow
    | @turned k =>
      dsimp only at hnow ⊢
      cases ha : (Generator.turn t g.resolver Names.Source.draws k source).result with
      | error e => rw [ha] at hnow; cases hnow
      | ok x =>
        rw [ha] at hnow
        cases hnow
        cases hb : (Generator.turn t g.resolver Names.Source.draws k source').result with
        | error e => exact .inl ⟨⟨e, rfl⟩, rfl⟩
        | ok y =>
          refine .inr ⟨some y, rfl, ?_, rfl⟩
          rw [Option.map_some, Option.map_some, Generator.outline_eq_of_turns htextual' htextual hb ha]

end Standing

/-- All about the samples in answers that does not depend on draws. -/
def outlines (told : Transcript) : List (Except Failure Value × Family × Value × List Nat) :=
  (samples told).map Sample.outline

private theorem outlines_cons (st : Step) (r : Except Failure Reply) (told : Transcript) :
    outlines ((st, r) :: told) = outlines [(st, r)] ++ outlines told := by
  rw [← List.singleton_append, outlines, samples_append, List.map_append]
  rfl

private theorem Standing.outline_answer {g h : Standing} {source' : Names.Source} {r : Reply}
    (hresolver : h.resolver = g.resolver) (hprogress : h.progress = g.progress) (hg : g.supply = .ok source)
    (hh : h.supply = .ok source') (htextual : source.Textual) (htextual' : source'.Textual)
    (hr : (g.answer t st).1 = .ok r) :
    ((∃ e, (h.answer t st).1 = .error e) ∧ (h.answer t st).2.progress = .over) ∨
      ∃ r', (h.answer t st).1 = .ok r' ∧ outlines [(st, .ok r')] = outlines [(st, .ok r)] ∧
        (h.answer t st).2.progress = (g.answer t st).2.progress := by
  cases st with
  | next =>
    unfold answer at hr ⊢
    rcases hpull : g.pull t with ⟨e | now, g'⟩
    · simp only [hpull] at hr
      cases hr
    · have hnow : (g.pull t).1 = .ok now := by rw [hpull]
      rcases outline_pull hresolver hprogress hg hh htextual htextual' hnow with
        ⟨⟨e, he⟩, hover⟩ | ⟨now', hnow', hsame, hnext⟩
      · left
        rcases hpull' : h.pull t with ⟨r', h'⟩
        rw [hpull'] at he hover
        cases he
        exact ⟨⟨e, rfl⟩, hover⟩
      · right
        rcases hpull' : h.pull t with ⟨r', h'⟩
        rw [hpull'] at hnow' hnext
        rw [hpull] at hnext
        cases hnow'
        cases now with
        | none =>
          cases now' with
          | some _ => cases hsame
          | none =>
            simp only [hpull] at hr ⊢
            cases hr
            exact ⟨.stop, rfl, rfl, hnext⟩
        | some x =>
          cases now' with
          | none => cases hsame
          | some y =>
            simp only [hpull] at hr ⊢
            cases hr
            exact ⟨.sample y, rfl, congrArg Option.toList hsame, hnext⟩
  | close => exact .inr ⟨r, hr, rfl, rfl⟩
  | _ => exact .inr ⟨r, hr, rfl, hprogress⟩

private theorem supply_of_standing {g : Standing} (hg : s.standing id = some g) (hplace : s.placeOf id = some i) :
    g.supply = s.sourceFor i := by
  obtain ⟨g', hg', rfl⟩ := Option.map_eq_some_iff.mp hg
  rw [Session.placeOf, hg', Option.map_some] at hplace
  rw [standingOf, Option.some.inj hplace]

private theorem samples_of_over (hs : s.WellPlaced) (hsts : ∀ st ∈ sts, st.generator? = some id) {g : Standing}
    (hg : s.standing id = some g) (hover : g.progress = .over) : samples (s.run t sts).1 = [] := by
  induction sts generalizing s g with
  | nil => rfl
  | cons st sts ih =>
    have hst := hsts st List.mem_cons_self
    obtain ⟨hanswer, hnext⟩ := standing_step (t := t) hs hst hg
    have hnone : samples [(st, (s.step t st).1)] = [] := by
      rw [hanswer]
      cases st with
      | next => rw [Standing.answer, Standing.pull_of_over hover]; rfl
      | _ => rfl
    have hsplit : (s.run t (st :: sts)).1 = [(st, (s.step t st).1)] ++ ((s.step t st).2.run t sts).1 := rfl
    rw [hsplit, samples_append, hnone, List.nil_append]
    exact ih (wellPlaced_step_generator hs hst) (fun st h => hsts st (List.mem_cons_of_mem _ h)) hnext
      (Standing.over_of_over hover)

/-- With a pull that fails the samples of a generator end. -/
private theorem outlines_of_failed (hs : s.WellPlaced) (hsts : ∀ st' ∈ st :: sts, st'.generator? = some id)
    {g : Standing} (hg : s.standing id = some g) {e : Failure} (he : (g.answer t st).1 = .error e)
    (hover : (g.answer t st).2.progress = .over) : outlines (s.run t (st :: sts)).1 = [] := by
  have hst := hsts st List.mem_cons_self
  obtain ⟨hanswer, hnext⟩ := standing_step (t := t) hs hst hg
  have hlater := samples_of_over (t := t) (wellPlaced_step_generator hs hst)
    (fun st h => hsts st (List.mem_cons_of_mem _ h)) hnext hover
  rw [run, hanswer, he, outlines]
  exact congrArg _ hlater

private theorem standing_step_ne (hs : s.WellPlaced) (hst : st.generator? = some id') (hid : id' ≠ id) {g : Standing}
    (hg : s.standing id = some g) :
    ∃ g', (s.step t st).2.standing id = some g' ∧ g'.resolver = g.resolver ∧ g'.progress = g.progress := by
  cases hg' : s.generators.lookup id' with
  | none =>
    rw [step_unknown hst hg']
    exact ⟨g, hg, rfl, rfl⟩
  | some g' =>
    obtain ⟨-, hmoved⟩ := moved_step (t := t) hs hst hg'
    obtain ⟨g₁, hg₁, rfl⟩ := Option.map_eq_some_iff.mp hg
    refine ⟨(s.step t st).2.standingOf g₁, ?_, rfl, rfl⟩
    rw [standing, hmoved.others id (Ne.symm hid), hg₁]
    rfl

/-- The generator stands so, at a place where there is a source of texts. -/
structure Supplied (s : Session) (id : String) (i : Nat) (g : Standing) : Prop where
  wellPlaced : s.WellPlaced
  place : s.placeOf id = some i
  standing : s.standing id = some g
  source : ∃ source, s.sourceFor i = .ok source ∧ source.Textual

namespace Supplied

variable {g : Standing}

private theorem supply (h : s.Supplied id i g) : ∃ source, g.supply = .ok source ∧ source.Textual := by
  obtain ⟨source, hsource, htextual⟩ := h.source
  exact ⟨source, (supply_of_standing h.standing h.place).trans hsource, htextual⟩

private theorem source_step (h : s.Supplied id i g) (hst : st.generator? = some id')
    (hok : s.At i st → ∃ r, (s.step t st).1 = .ok r) :
    ∃ source, (s.step t st).2.sourceFor i = .ok source ∧ source.Textual := by
  obtain ⟨source, hsource, htextual⟩ := h.source
  obtain ⟨source', hsource', hdrawn⟩ := consecutive_step_at (t := t) h.wellPlaced hst hsource htextual hok
  exact ⟨source', hsource', Names.Source.textual_of_consecutive htextual hdrawn⟩

private theorem step_own (h : s.Supplied id i g) (hst : st.generator? = some id) {r : Reply}
    (hr : (g.answer t st).1 = .ok r) :
    (s.step t st).1 = .ok r ∧ (s.step t st).2.Supplied id i (g.answer t st).2 := by
  obtain ⟨hanswer, hnext⟩ := standing_step (t := t) h.wellPlaced hst h.standing
  have hok := hanswer.trans hr
  refine ⟨hok, wellPlaced_step_generator h.wellPlaced hst, ?_, hnext, h.source_step hst fun _ => ⟨r, hok⟩⟩
  rw [placeOf_step h.wellPlaced hst]
  exact h.place

private theorem step_other (h : s.Supplied id i g) (hst : st.generator? = some id') (hid : id' ≠ id)
    (hok : s.At i st → ∃ r, (s.step t st).1 = .ok r) :
    ∃ g', (s.step t st).2.Supplied id i g' ∧ g'.resolver = g.resolver ∧ g'.progress = g.progress := by
  obtain ⟨g', hg', hsame⟩ := standing_step_ne (t := t) h.wellPlaced hst hid h.standing
  refine ⟨g', ⟨wellPlaced_step_generator h.wellPlaced hst, ?_, hg', h.source_step hst hok⟩, hsame⟩
  rw [placeOf_step h.wellPlaced hst]
  exact h.place

end Supplied

/-- Alone a generator gives the samples that it gives among others, but for what is drawn, up to a failure. -/
private def Outlined (own alone : Transcript) : Prop :=
  outlines alone <+: outlines own ∧ ((∀ e ∈ alone, ∃ r, e.2 = .ok r) → outlines own = outlines alone)

private theorem Outlined.cons {own alone : Transcript} {r r' : Reply} (h : Outlined own alone)
    (hsame : outlines [(st, .ok r')] = outlines [(st, .ok r)]) :
    Outlined ((st, .ok r) :: own) ((st, .ok r') :: alone) := by
  rw [Outlined, outlines_cons _ _ own, outlines_cons _ _ alone, hsame]
  refine ⟨(List.prefix_append_right_inj _).mpr h.1, fun hok => ?_⟩
  rw [h.2 fun e he => hok e (List.mem_cons_of_mem _ he)]

/-- Alone the generator has failed and gives no more samples. -/
private theorem outlined_of_failed {h : Standing} (ha : a.WellPlaced)
    (hsts : ∀ st' ∈ st :: sts, st'.generator? = some id) (hh : a.standing id = some h) {e : Failure}
    (he : (h.answer t st).1 = .error e) (hover : (h.answer t st).2.progress = .over) (own : Transcript) :
    Outlined own (a.run t (st :: sts)).1 := by
  obtain ⟨hanswer, -⟩ := standing_step (t := t) ha (hsts st List.mem_cons_self) hh
  rw [Outlined, outlines_of_failed ha hsts hh he hover]
  refine ⟨List.nil_prefix, fun hok => ?_⟩
  obtain ⟨r, hr⟩ := hok _ List.mem_cons_self
  rw [hanswer, he] at hr
  cases hr

/-- As long as no pull at its place fails, a generator gives what one gives that stands the same and goes on alone,
but for what is drawn; the latter may fail sooner. -/
private theorem outlined_run {g h : Standing} (hs : s.Supplied id i g) (ha : a.Supplied id i h)
    (hresolver : h.resolver = g.resolver) (hprogress : h.progress = g.progress)
    (hsts : ∀ st ∈ sts, st.generator?.isSome) (hok : ∀ e ∈ (s.run t sts).1, s.At i e.1 → ∃ r, e.2 = .ok r) :
    Outlined ((s.run t sts).1.filter fun e => e.1.generator? = some id)
      (a.run t (sts.filter fun st => st.generator? = some id)).1 := by
  induction sts generalizing s a g h with
  | nil => exact ⟨List.prefix_refl _, fun _ => rfl⟩
  | cons st sts ih =>
    obtain ⟨id', hst⟩ := Option.isSome_iff_exists.mp (hsts st List.mem_cons_self)
    have hrest : ∀ st ∈ sts, st.generator?.isSome := fun st h => hsts st (List.mem_cons_of_mem _ h)
    have hplaces : (s.step t st).2.placeOf = s.placeOf := placeOf_step hs.wellPlaced hst
    have hfirst : s.At i st → ∃ r, (s.step t st).1 = .ok r := hok _ List.mem_cons_self
    have hlater : ∀ e ∈ ((s.step t st).2.run t sts).1, (s.step t st).2.At i e.1 → ∃ r, e.2 = .ok r :=
      fun e he hi => hok e (List.mem_cons_of_mem _ he) (by rw [At, hplaces] at hi; exact hi)
    rw [run, List.filter_cons, List.filter_cons, hst]
    -- The generator keeps its resolver and its progress in both runs; what differs are the states of the sources.
    by_cases hid : id' = id
    · subst hid
      obtain ⟨source, hsource, htextual⟩ := hs.supply
      obtain ⟨source', hsource', htextual'⟩ := ha.supply
      obtain ⟨r, hr⟩ := hfirst (by rw [At, hst, Option.bind_some, hs.place])
      have hanswer := (standing_step (t := t) hs.wellPlaced hst hs.standing).1.symm.trans hr
      simp only [decide_true, if_true]
      rcases Standing.outline_answer hresolver hprogress hsource hsource' htextual htextual' hanswer with
        ⟨⟨e, he⟩, hover⟩ | ⟨r', hr', hsame, hsameProgress⟩
      · refine outlined_of_failed ha.wellPlaced ?_ ha.standing he hover _
        refine List.forall_mem_cons.mpr ⟨hst, fun st' h => ?_⟩
        exact of_decide_eq_true (List.mem_filter.mp h).2
      · obtain ⟨hstep, hs'⟩ := hs.step_own hst hanswer
        obtain ⟨hstep', ha'⟩ := ha.step_own hst hr'
        have hresolver' : (h.answer t st).2.resolver = (g.answer t st).2.resolver := by
          rw [Standing.resolver_answer, Standing.resolver_answer, hresolver]
        rw [run, hstep, hstep']
        exact (ih hs' ha' hresolver' hsameProgress hrest hlater).cons hsame
    · have hne : ¬ some id' = some id := fun h => hid (Option.some.inj h)
      obtain ⟨g', hs', hresolver', hprogress'⟩ := hs.step_other hst hid hfirst
      simp only [hne, decide_false, Bool.false_eq_true, if_false]
      exact ih hs' ha (hresolver.trans hresolver'.symm) (hprogress.trans hprogress'.symm) hrest hlater

/-! ### The main fact -/

/-- However generators that are open at the same time are pulled and closed:
* a generator whose source no other one uses answers to each step as if it were the only one;
* if no pull from a shared source fails, the samples that have come from it carry, in the order of the pulls, what its
  draws give one after the other, up to the state in which the source is at the end, and each of the generators
  gives the samples that it would give alone, but for what is drawn.  Alone a pull might fail that has not failed
  here, but the samples before it are the same. -/
theorem generators_interleave (t : Tables) (before : List Step) {after : List Step}
    (hafter : ∀ st ∈ after, st.generator?.isSome) :
    let s := (initial.run t before).2
    let told := (s.run t after).1
    let own := fun id : String => told.filter fun e => e.1.generator? = some id
    let alone := fun id : String => (s.run t (after.filter fun st => st.generator? = some id)).1
    (∀ id i, s.placeOf id = some i → (∀ id', s.Uses id' i → id' = id) → own id = alone id) ∧
    ∀ i source, s.sourceFor i = .ok source → source.Textual →
      (∀ e ∈ told, s.At i e.1 → ∃ r, e.2 = .ok r) →
      (∃ source', (s.run t after).2.sourceFor i = .ok source' ∧
        Consecutive Names.Source.draws source
          ((samples (told.filter fun e => s.At i e.1)).flatMap t.history) source') ∧
      ∀ id, s.placeOf id = some i →
        outlines (alone id) <+: outlines (own id) ∧
          ((∀ e ∈ alone id, ∃ r, e.2 = .ok r) → outlines (own id) = outlines (alone id)) := by
  intro s told own alone
  have hs : s.WellPlaced := wellPlaced_run t before
  refine ⟨?_, ?_⟩
  · intro id i hplace huses
    exact filter_run hs hs hafter rfl hplace huses
  · intro i source hsource htextual hok
    refine ⟨consecutive_samples hs hafter hsource htextual hok, ?_⟩
    intro id hplace
    obtain ⟨g, hg, -⟩ := Option.map_eq_some_iff.mp hplace
    have hstanding : s.standing id = some (s.standingOf g) := by rw [standing, hg, Option.map_some]
    have hsupplied : s.Supplied id i (s.standingOf g) := ⟨hs, hplace, hstanding, source, hsource, htextual⟩
    exact outlined_run hsupplied hsupplied rfl rfl hafter hok

/-- Three generators are open, two of them over one script. -/
def threeOpened : List Step := [
  .makeSource "shared" (.scripted [.ok (.text "a"), .ok (.text "b"), .ok (.text "c"), .ok (.text "d")]
    [.ok (.uuid .zero)]),
  .makeSource "short" (.scripted [.ok (.text "e")] []),
  .openGenerator "first" (.ok (.listed [.key .leaveGroup, .key .metadata])) (.ok (.constant (.int 1)))
    (some "shared"),
  .openGenerator "second" (.ok (.listed [.key .describeGroups])) (.ok (.constant (.int 2))) (some "shared"),
  .openGenerator "third" (.ok (.listed [.key .metadata, .key .leaveGroup])) (.ok (.constant (.int 3)))
    (some "short")]

/-- They take turns. -/
def threePulled : List Step := [
  .next "first" none, .next "third" none, .next "second" none, .next "first" (some "kept"), .next "third" none,
  .close "second", .next "second" none]

/-- Two of the generators take turns at the one script, with kinds that draw once and twice; the third one runs out
of names at its first pull and stops. -/
theorem generators_interleave_two_of_three :
    let s := (initial.run .standard threeOpened).2
    let told := (s.run .standard threePulled).1
    (∀ st ∈ threePulled, st.generator?.isSome) ∧
      (∀ id', s.Uses id' 1 → id' = "third") ∧ (∀ e ∈ told, s.At 0 e.1 → ∃ r, e.2 = .ok r) ∧
      (told.filter fun e => e.1.generator? = some "third") =
        (s.run .standard [.next "third" none, .next "third" none]).1 ∧
      (samples (told.filter fun e => s.At 0 e.1)).flatMap Tables.standard.history =
        [(.name, .ok (.text "a")), (.name, .ok (.text "b")), (.name, .ok (.text "c")), (.name, .ok (.text "d")),
          (.uuid, .ok (.uuid .zero))] ∧
      ∃ source', (s.run .standard threePulled).2.sourceFor 0 = .ok source' ∧
        Consecutive Names.Source.draws
          (.scripted [.ok (.text "a"), .ok (.text "b"), .ok (.text "c"), .ok (.text "d")] [.ok (.uuid .zero)])
          ((samples (told.filter fun e => s.At 0 e.1)).flatMap Tables.standard.history) source' := by
  have hafter : ∀ st ∈ threePulled, st.generator?.isSome := by decide
  have huses : ∀ id', (initial.run .standard threeOpened).2.Uses id' 1 → id' = "third" := by
    rintro id' ⟨g, -, hg, -, hplace, -⟩
    rcases List.mem_cons.mp (mem_of_lookup hg) with heq | hmem
    · cases heq; rfl
    · rcases List.mem_cons.mp hmem with heq | hmem
      · cases heq; cases hplace
      · rcases List.mem_cons.mp hmem with heq | hmem
        · cases heq; cases hplace
        · cases hmem
  have hok : ∀ e ∈ ((initial.run .standard threeOpened).2.run .standard threePulled).1,
      (initial.run .standard threeOpened).2.At 0 e.1 → ∃ r, e.2 = .ok r := by
    have hall : (((initial.run .standard threeOpened).2.run .standard threePulled).1.all fun e =>
        !decide ((initial.run .standard threeOpened).2.At 0 e.1) || e.2.isOk) = true := rfl
    intro e he hat
    have hok := List.all_eq_true.mp hall e he
    rw [decide_eq_true hat] at hok
    obtain ⟨st, r | r⟩ := e
    · cases hok
    · exact ⟨r, rfl⟩
  have htextual : Names.Source.Textual (.scripted [.ok (.text "a"), .ok (.text "b"), .ok (.text "c"), .ok (.text "d")]
      [.ok (.uuid .zero)]) := by
    refine ⟨?_, ?_⟩
    · intro v hv
      simp only [List.mem_cons, List.not_mem_nil, or_false, Except.ok.injEq] at hv
      rcases hv with rfl | rfl | rfl | rfl <;> exact ⟨_, rfl⟩
    · intro v hv
      cases List.mem_singleton.mp hv
      exact ⟨_, rfl⟩
  obtain ⟨halone, hshared⟩ := generators_interleave .standard threeOpened hafter
  obtain ⟨hdrawn, -⟩ := hshared 0 _ rfl htextual hok
  exact ⟨hafter, huses, hok, halone "third" 1 rfl huses, rfl, hdrawn⟩

end RequestSamples.Session
