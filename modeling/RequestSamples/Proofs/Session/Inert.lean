import RequestSamples.Proofs.Session.Handling

/-!
# Generators that do nothing

A generator does nothing before its first pull and after its end.

* (end) a pull that gives no sample ends the generator, and so does closing it; once ended it stays so, whatever other
  steps are taken (`ended_run`), and further pulls change nothing at all (`next_of_ended`);
* (idle) opening or closing a generator changes nothing else, nor does pulling it when it is over (`SameBut.idle`), so
  the steps that handle an idle generator may be left out of a run (`inert_run`).
-/

namespace RequestSamples.Session

/-- The step does not handle the generator with this id. -/
def Step.ignores (id : String) (st : Step) : Bool := st.handled? ≠ some id

/-- The generator with the id is over. -/
def Ended (s : Session) (id : String) : Prop := ∃ g, s.generators.lookup id = some g ∧ g.progress = .over

/-- Whenever the steps pull the generator, it is over. -/
def Idle (t : Tables) (id : String) : Session → List Step → Prop
  | _, [] => True
  | s, st :: sts =>
    (st.pulled? = some id → ∀ g, s.generators.lookup id = some g → g.progress = .over) ∧
      Idle t id (s.step t st).2 sts

variable {t : Tables} {s s' : Session} {st : Step} {sts : List Step} {i : Nat} {id : String} {g : Suspended}

/-- A turn that gives no sample is the last one. -/
private theorem over_of_turn (h : ∀ sample, (turn t s id g i).1 ≠ .ok (some sample)) :
    Ended (turn t s id g i).2 id := by
  refine ⟨_, lookup_turn, ?_⟩
  have ends := Generator.step_ends t g.resolver Names.Source.draws g.progress
  unfold turn at h
  generalize Generator.step t g.resolver Names.Source.draws g.progress = f at ends h
  cases ends with
  | ended | refused => rfl
  | @turned k =>
    dsimp only at h ⊢
    cases hresult : (Generator.turn t g.resolver Names.Source.draws k (s.sourceAt i)).result with
    | error e => rfl
    | ok sample =>
      rw [hresult] at h
      exact absurd rfl (h sample)

private theorem ended_pull (hg : s.generators.lookup id = some g)
    (h : ∀ sample, (pull t s id g).1 ≠ .ok (some sample)) : Ended (pull t s id g).2 id := by
  by_cases hover : g.progress = .over
  · rw [pull_of_over hover]
    exact ⟨g, hg, hover⟩
  cases hsource : g.source with
  | some i =>
    rw [pull_of_source hover hsource] at h ⊢
    exact over_of_turn h
  | none =>
    cases hshared : s.sharedPlace with
    | error e =>
      rw [pull_of_refused hover hsource hshared]
      exact ⟨_, lookup_setGenerator, rfl⟩
    | ok p =>
      have hprepared := sharedPlace_eq_ok.mp hshared
      rw [pull_of_prepared hover hsource hprepared] at h ⊢
      exact over_of_turn h

/-- A pull that is answered with anything but a sample ends the generator. -/
private theorem ended_next {into : Option String} (hg : s.generators.lookup id = some g)
    (h : ∀ sample, (s.step t (.next id into)).1 ≠ .ok (.sample sample)) :
    Ended (s.step t (.next id into)).2 id := by
  have hpull : Ended (pull t s id g).2 id := by
    refine ended_pull hg ?_
    intro sample hsample
    refine h sample ?_
    rcases hr : pull t s id g with ⟨r, s'⟩
    rw [hr] at hsample
    cases hsample
    simp only [step, generator_of_lookup hg, hr]
  obtain ⟨g', hg', hover⟩ := hpull
  exact ⟨g', by rw [(alike_next into hg).generators, hg'], hover⟩

private theorem ended_close (hg : s.generators.lookup id = some g) : Ended (s.step t (.close id)).2 id := by
  rw [step_close hg]
  exact ⟨_, lookup_setGenerator, rfl⟩

theorem next_of_ended (h : Ended s id) (into : Option String) : s.step t (.next id into) = (.ok .stop, s) := by
  obtain ⟨g, hg, hover⟩ := h
  simp only [step, generator_of_lookup hg, pull_of_over hover]

/-- No step but opening another generator under its id takes a generator back from its end. -/
theorem Ended.step (h : Ended s id) (hst : st.opened? ≠ some id) : Ended (s.step t st).2 id := by
  by_cases hhandled : st.handled? = some id
  · have ⟨g, hg, _⟩ := h
    cases st with
    | openGenerator => exact absurd hhandled hst
    | next _ into =>
      cases hhandled
      rw [next_of_ended h]
      exact h
    | close =>
      cases hhandled
      exact ended_close hg
    | _ => cases hhandled
  · obtain ⟨g, hg, hover⟩ := h
    exact ⟨g, by rw [lookup_step_ne hhandled, hg], hover⟩

theorem ended_run (h : Ended s id) (hsts : ∀ st ∈ sts, st.opened? ≠ some id) : Ended (s.run t sts).2 id := by
  induction sts generalizing s with
  | nil => exact h
  | cons st sts ih =>
    exact ih (h.step (hsts st List.mem_cons_self)) fun st hst => hsts st (List.mem_cons_of_mem _ hst)

private theorem idle_of_unpulled (hsts : ∀ st ∈ sts, st.pulled? ≠ some id) : Idle t id s sts := by
  induction sts generalizing s with
  | nil => trivial
  | cons st sts ih =>
    exact ⟨fun h => absurd h (hsts st List.mem_cons_self), ih fun st hst => hsts st (List.mem_cons_of_mem _ hst)⟩

private theorem idle_of_ended (h : Ended s id) (hsts : ∀ st ∈ sts, st.opened? ≠ some id) : Idle t id s sts := by
  induction sts generalizing s with
  | nil => trivial
  | cons st sts ih =>
    refine ⟨?_, ih (h.step (hsts st List.mem_cons_self)) fun st hst => hsts st (List.mem_cons_of_mem _ hst)⟩
    intro _ g hg
    obtain ⟨g', hg', hover⟩ := h
    cases hg.symm.trans hg'
    exact hover

/-- A step that handles a generator changes nothing else, unless it pulls it while it is not over. -/
theorem SameBut.idle (h : SameBut id s s') (hst : st.handled? = some id)
    (hover : st.pulled? = some id → ∀ g, s'.generators.lookup id = some g → g.progress = .over) :
    SameBut id s (s'.step t st).2 := by
  cases st with
  | openGenerator _ selection resolver source =>
    cases hst
    simp only [Session.step]
    cases source.mapM s'.sourcePlace with
    | error e => exact h
    | ok place => cases resolver <;> cases selection <;> first | exact h | exact h.setGenerator_self _
  | next _ into =>
    cases hst
    cases hg : s'.generators.lookup id with
    | none =>
      simp only [Session.step, generator, hg]
      exact h
    | some g =>
      rw [next_of_ended ⟨g, hg, hover rfl g hg⟩]
      exact h
  | close =>
    cases hst
    cases hg : s'.generators.lookup id with
    | none =>
      simp only [Session.step, generator, hg]
      exact h
    | some g =>
      rw [step_close hg]
      exact h.setGenerator_self _
  | _ => cases hst

/-- While a generator is idle, all other steps are answered as if the steps that handle it were left out. -/
theorem inert_run (h : SameBut id s s') (hidle : Idle t id s' sts) :
    (s'.run t sts).1.filter (fun e => e.1.ignores id) = (s.run t (sts.filter (Step.ignores id))).1 ∧
      SameBut id (s.run t (sts.filter (Step.ignores id))).2 (s'.run t sts).2 := by
  induction sts generalizing s s' with
  | nil => exact ⟨rfl, h⟩
  | cons st sts ih =>
    obtain ⟨hover, hlater⟩ := hidle
    by_cases hst : st.handled? = some id
    · have hignores : st.ignores id = false := by simp [Step.ignores, hst]
      simp only [run, List.filter_cons, hignores, Bool.false_eq_true, if_false]
      exact ih (h.idle hst hover) hlater
    · have hignores : st.ignores id = true := by simp [Step.ignores, hst]
      obtain ⟨hanswer, hnext⟩ := h.step (t := t) hst
      obtain ⟨htold, hsame⟩ := ih hnext hlater
      simp only [run, List.filter_cons, hignores, if_true, hanswer, htold]
      exact ⟨trivial, hsame⟩

/-- Whatever keys, resolver and source a generator is opened with, opening it answers nothing and changes nothing
else: no draw is made, no shared source, no record and no message.
* A pull that gives no sample ends the generator, and so does closing it, which changes nothing else either.
* After its end, whatever other steps are taken, unless one of them opens another generator under the id: it stays
  ended, a pull is answered with a stop and leaves the session as it is, and closing it changes nothing else.
* As long as the generator is pulled only when it is over, all other steps are answered, and leave all else, as if the
  steps that open, pull or close it were left out. -/
theorem generators_are_inert (t : Tables) (s : Session) (id : String) :
    (∀ selection resolver source place, source.mapM s.sourcePlace = .ok place →
      let opened := s.step t (.openGenerator id (.ok selection) (.ok resolver) source)
      opened.1 = .ok .nothing ∧ SameBut id s opened.2 ∧
        opened.2.generators.lookup id = some ⟨resolver, place, .fresh selection⟩) ∧
      (∀ g, s.generators.lookup id = some g →
        (∀ into, (∀ sample, (s.step t (.next id into)).1 ≠ .ok (.sample sample)) →
          Ended (s.step t (.next id into)).2 id) ∧
        (s.step t (.close id)).1 = .ok .nothing ∧ SameBut id s (s.step t (.close id)).2 ∧
          Ended (s.step t (.close id)).2 id) ∧
      (Ended s id → ∀ sts, (∀ st ∈ sts, st.opened? ≠ some id) →
        let s' := (s.run t sts).2
        Ended s' id ∧ (∀ into, s'.step t (.next id into) = (.ok .stop, s')) ∧
          (s'.step t (.close id)).1 = .ok .nothing ∧ SameBut id s' (s'.step t (.close id)).2 ∧ Idle t id s sts) ∧
      ((∀ sts, (∀ st ∈ sts, st.pulled? ≠ some id) → Idle t id s sts) ∧
        ∀ sts, Idle t id s sts →
          (s.run t sts).1.filter (fun e => e.1.ignores id) = (s.run t (sts.filter (Step.ignores id))).1 ∧
            SameBut id (s.run t (sts.filter (Step.ignores id))).2 (s.run t sts).2) := by
  have hclose (s : Session) (g : Suspended) (hg : s.generators.lookup id = some g) :
      (s.step t (.close id)).1 = .ok .nothing ∧ SameBut id s (s.step t (.close id)).2 := by
    rw [step_close hg]
    exact ⟨rfl, (SameBut.refl id s).setGenerator_self _⟩
  refine ⟨?_, ?_, ?_, fun sts => idle_of_unpulled, fun sts => inert_run (.refl id s)⟩
  · intro selection resolver source place hplace
    have hopened : s.step t (.openGenerator id (.ok selection) (.ok resolver) source) =
        (.ok .nothing, s.setGenerator id ⟨resolver, place, .fresh selection⟩) := by
      simp only [step, hplace]
      rfl
    rw [hopened]
    exact ⟨rfl, (SameBut.refl id s).setGenerator_self _, lookup_setGenerator⟩
  · intro g hg
    exact ⟨fun into => ended_next hg, (hclose s g hg).1, (hclose s g hg).2, ended_close hg⟩
  · intro hended sts hsts
    obtain ⟨g, hg, hover⟩ := ended_run (t := t) hended hsts
    have hended' : Ended (s.run t sts).2 id := ⟨g, hg, hover⟩
    exact ⟨hended', next_of_ended hended', (hclose _ g hg).1, (hclose _ g hg).2, idle_of_ended hended hsts⟩

/-- A generator for keys that cannot be run through is opened without complaint.  Its first pull fails, and whatever
happens afterwards it only stops; closed before that pull, it leaves no trace in what the other steps answer. -/
theorem generators_are_inert_no_keys :
    let prepared := (initial.run .standard [.makeSource "src" (.scripted [] [])]).2
    let s := (prepared.step .standard
      (.openGenerator "g" (.ok (.ofKeys (.int 5))) (.ok (.constant (.int 1))) (some "src"))).2
    let failed := s.step .standard (.next "g" none)
    SameBut "g" prepared s ∧ failed.1 = .error (.notIterable "int") ∧
      (∀ sts, (∀ st ∈ sts, st.opened? ≠ some "g") →
        ((failed.2.run .standard sts).2.step .standard (.next "g" none)).1 = .ok .stop) ∧
      ∀ into, (s.run .standard [.close "g", .seed, .next "g" into]).1.filter (fun e => e.1.ignores "g") =
        (s.run .standard [.seed]).1 := by
  intro prepared s failed
  obtain ⟨hopen, -⟩ := generators_are_inert .standard prepared "g"
  obtain ⟨-, hsame, hg⟩ := hopen (.ofKeys (.int 5)) (.constant (.int 1)) (some "src") (some 0) rfl
  have hfailed : failed.1 = .error (.notIterable "int") := rfl
  obtain ⟨-, hends, -, -, hleft⟩ := generators_are_inert .standard s "g"
  have hended : Ended failed.2 "g" := by
    refine (hends _ hg).1 none ?_
    intro sample h
    cases hfailed.symm.trans h
  refine ⟨hsame, hfailed, ?_, ?_⟩
  · intro sts hsts
    obtain ⟨-, -, hafter, -⟩ := generators_are_inert .standard failed.2 "g"
    rw [(hafter hended sts hsts).2.1 none]
  · intro into
    refine (hleft [.close "g", .seed, .next "g" into] ⟨?_, ?_, ?_, trivial⟩).1
    · intro h
      cases h
    · intro h
      cases h
    · intro _ g hg'
      obtain ⟨-, -, -, hclosed⟩ := hends _ hg
      have hlater : Ended ((s.step .standard (.close "g")).2.run .standard [.seed]).2 "g" :=
        ended_run hclosed (by simp [Step.opened?])
      obtain ⟨g', hg'', hover⟩ := hlater
      cases hg'.symm.trans hg''
      exact hover

end RequestSamples.Session
