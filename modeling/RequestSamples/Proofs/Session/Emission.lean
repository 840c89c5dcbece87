import RequestSamples.Proofs.Generator.Logged
import RequestSamples.Proofs.Generator.Pulls
import RequestSamples.Proofs.Session.Interleaving
import RequestSamples.Proofs.Session.Parts

/-!
# What sessions log

Only pulls give records to the logger.  A session with another logger answers the same to every step that does not
concern the logger itself, and the loggers differ afterwards only as they have passed on what both were given
(`step_withLogger`, `run_withLogger`).  A generator that is pulled on its own gives to the logger what its run has
logged (`tracks_pulls`), which accounts for every key of the run (`log_accounts`).
-/

namespace RequestSamples.Session

/-- The events of a step of a generator. -/
def eventsOf {σ : Type} (now? : Option (Generator.Turn σ)) : List Log.Event := (now?.map (·.events)).getD []

/-- What a pull of a generator that stands like this gives to the logger. -/
def Standing.events (t : Tables) (g : Standing) : List Log.Event :=
  match g.supply with
  | .ok source => eventsOf (Generator.step t g.resolver Names.Source.draws g.progress source).2
  | .error _ => []

/-- What a step gives to the logger. -/
def emitted (t : Tables) (s : Session) : Step → List Log.Event
  | .next id _ => ((s.standing id).map (·.events t)).getD []
  | _ => []

/-- The session with another logger. -/
def withLogger (s : Session) (l : Logger) : Session := { s with logger := l }

/-- What steps give to the logger, one after the other. -/
def emittedAlong (t : Tables) : Session → List Step → List Log.Event
  | _, [] => []
  | s, st :: sts => s.emitted t st ++ emittedAlong t (s.step t st).2 sts

/-- The step sets the log up, attaches a handler or takes lines. -/
def Step.ConcernsLogger : Step → Prop
  | .setUpLog | .addHandler | .takeLines => True
  | _ => False

private theorem Logger.emit_nil (l : Logger) : l.emit [] = l := by
  show Logger.mk l.level l.handlers (l.lines ++ []) = l
  rw [List.append_nil]

private theorem Logger.emit_append (events later : List Log.Event) (l : Logger) :
    l.emit (events ++ later) = (l.emit events).emit later := by
  rw [emit, emit, emit, Log.passed, List.filter_append, List.flatMap_append, ← List.append_assoc]
  rfl

variable {t : Tables} {s : Session} {st : Step} {sts : List Step} {l : Logger} {id : String} {g : Suspended} {i : Nat}

private theorem Standing.events_of_over {g : Standing} (h : g.progress = .over) : g.events t = [] := by
  unfold Standing.events
  rw [h]
  cases g.supply <;> rfl

theorem Prepared.withLogger {s₁ : Session} (h : Prepared s i s₁) (l : Logger) :
    Prepared (s.withLogger l) i (s₁.withLogger l) := by
  cases h with
  | found h => exact .found h
  | made h hseed => exact .made h hseed

private theorem sharedPlace_withLogger :
    (s.withLogger l).sharedPlace = s.sharedPlace.map fun p => (p.1, p.2.withLogger l) :=
  sharedPlace_withParts (fun gs => gs) (fun r => r) (fun _ => l)

private theorem turn_withLogger :
    turn t (s.withLogger l) id g i =
      ((turn t s id g i).1,
        (turn t s id g i).2.withLogger
          (l.emit (eventsOf (Generator.step t g.resolver Names.Source.draws g.progress (s.sourceAt i)).2))) := by
  unfold turn
  rw [show (s.withLogger l).sourceAt i = s.sourceAt i from rfl]
  rcases Generator.step t g.resolver Names.Source.draws g.progress (s.sourceAt i) with ⟨progress, _ | now⟩
  · show _ = (_, (s.setGenerator id _).withLogger (l.emit []))
    rw [l.emit_nil]
    rfl
  · rfl

private theorem pull_withLogger (hs : s.WellPlaced) (hg : s.generators.lookup id = some g) :
    pull t (s.withLogger l) id g =
      ((pull t s id g).1, (pull t s id g).2.withLogger (l.emit ((s.standingOf g).events t))) := by
  by_cases hover : g.progress = .over
  · have hstanding : (s.standingOf g).progress = .over := hover
    rw [pull_of_over hover, pull_of_over hover, Standing.events_of_over hstanding, l.emit_nil]
  cases hsource : g.source with
  | some i =>
    rw [pull_of_source hover hsource, pull_of_source hover hsource, standingOf_of_source hs hg hsource,
      turn_withLogger]
    rfl
  | none =>
    cases hshared : s.sharedPlace with
    | error e =>
      have hshared' : (s.withLogger l).sharedPlace = .error e := by rw [sharedPlace_withLogger, hshared]; rfl
      rw [pull_of_refused hover hsource hshared, pull_of_refused hover hsource hshared',
        standingOf_of_refused hsource hshared]
      show _ = (_, (s.setGenerator id _).withLogger (l.emit []))
      rw [l.emit_nil]
      rfl
    | ok p =>
      have hprepared := sharedPlace_eq_ok.mp hshared
      rw [pull_of_prepared hover hsource hprepared, pull_of_prepared hover hsource (hprepared.withLogger l),
        standingOf_of_prepared hs hsource hprepared, turn_withLogger]
      rfl

private theorem next_withLogger (hs : s.WellPlaced) (id : String) (into : Option String) (l : Logger) :
    (s.withLogger l).step t (.next id into) =
      ((s.step t (.next id into)).1,
        (s.step t (.next id into)).2.withLogger (l.emit (s.emitted t (.next id into)))) := by
  simp only [step, emitted, standing, show (s.withLogger l).generator id = s.generator id from rfl]
  cases hg : s.generators.lookup id with
  | none =>
    simp only [generator, hg]
    show _ = (_, s.withLogger (l.emit []))
    rw [l.emit_nil]
  | some g =>
    simp only [generator_of_lookup hg, pull_withLogger hs hg]
    rcases pull t s id g with ⟨e | _ | sample, s'⟩
    · rfl
    · rfl
    · cases into <;> rfl

/-- A step that does not concern the logger answers the same whatever the logger is. -/
theorem step_withLogger (hs : s.WellPlaced) (hst : ¬ st.ConcernsLogger) (l : Logger) :
    (s.withLogger l).step t st = ((s.step t st).1, (s.step t st).2.withLogger (l.emit (s.emitted t st))) := by
  cases st with
  | next id into => exact next_withLogger hs id into l
  | setUpLog | addHandler | takeLines => exact absurd trivial hst
  | setEnvironment | reset | seed | sharedSeed | sharedIsSame | sharedDraw | makeSource | setSuffixDigits | draw
  | left =>
    rw [emitted, l.emit_nil]
    · exact step_withParts (by trivial) (fun gs => gs) (fun r => r) (fun _ => l)
    · rintro _ _ ⟨⟩
  | makeSkeleton | makeMessage | populate | «show» | equal | set | append | share =>
    rw [emitted, l.emit_nil]
    · exact step_withOthers (by trivial) (fun gs => gs) (fun _ => l)
    · rintro _ _ ⟨⟩
  | openGenerator id selection resolver source =>
    simp only [step, emitted, l.emit_nil]
    rw [show (s.withLogger l).sourcePlace = s.sourcePlace from rfl]
    cases source.mapM s.sourcePlace with
    | error e => rfl
    | ok place => cases resolver <;> cases selection <;> rfl
  | close id =>
    simp only [step, emitted, l.emit_nil]
    rw [show (s.withLogger l).generator id = s.generator id from rfl]
    cases s.generator id <;> rfl

theorem logger_step (hs : s.WellPlaced) (hst : ¬ st.ConcernsLogger) :
    (s.step t st).2.logger = s.logger.emit (s.emitted t st) :=
  congrArg (·.2.logger) (step_withLogger (t := t) hs hst s.logger)

/-- Steps that do not concern the logger answer the same whatever the logger is, and it is given the same records. -/
theorem run_withLogger (hs : s.WellPlaced) (hsts : ∀ st ∈ sts, ¬ st.ConcernsLogger) (l : Logger) :
    (s.withLogger l).run t sts =
      ((s.run t sts).1, (s.run t sts).2.withLogger (l.emit (s.emittedAlong t sts))) := by
  induction sts generalizing s l with
  | nil => rw [emittedAlong, l.emit_nil]; rfl
  | cons st sts ih =>
    have hfirst := step_withLogger (t := t) hs (hsts st List.mem_cons_self) l
    have hlater := ih ((step_moves t s st).wellPlaced hs) (fun st h => hsts st (List.mem_cons_of_mem _ h))
      (l.emit (s.emitted t st))
    rw [run, hfirst, hlater, emittedAlong, Logger.emit_append]
    rfl

/-- The failures among the answers. -/
def failures (told : Transcript) : List Failure :=
  told.filterMap fun e =>
    match e.2 with
    | .error e => some e
    | .ok _ => none

private theorem failures_append (told told' : Transcript) : failures
    (told ++ told') = failures told ++ failures told' :=
  List.filterMap_append

/-- The generator with the id stands as one that is being pulled, with nothing in between. -/
structure Tracks (s : Session) (id : String) (resolve : Resolver) (p : Generator.Pulled Names.Source) : Prop where
  standing : s.standing id = some ⟨resolve, p.progress, .ok p.done.source⟩
  unfailed : p.progress ≠ .over → p.done.failure = none

/-- What has been done from one to the other has been told and emitted. -/
structure Accounts (p p' : Generator.Pulled Names.Source) (told : Transcript) (events : List Log.Event) : Prop where
  samples : p'.done.samples = p.done.samples ++ samples told
  failures : p'.done.failure.toList = p.done.failure.toList ++ failures told
  events : p'.done.events = p.done.events ++ events

variable {resolve : Resolver} {p p' p'' : Generator.Pulled Names.Source}

theorem Accounts.trans {told told' : Transcript} {events events' : List Log.Event} (h : Accounts p p' told events)
    (h' : Accounts p' p'' told' events') : Accounts p p'' (told ++ told') (events ++ events') where
  samples := by rw [h'.samples, h.samples, samples_append, List.append_assoc]
  failures := by rw [h'.failures, h.failures, failures_append, List.append_assoc]
  events := by rw [h'.events, h.events, List.append_assoc]

/-- A generator goes on only after a sample. -/
private theorem sampled_of_step {progress progress' : Generator.Progress} {source : Names.Source}
    {now? : Option (Generator.Turn Names.Source)}
    (h : Generator.step t resolve Names.Source.draws progress source = (progress', now?))
    (hgoes : progress' ≠ .over) :
    ∃ now sample, now? = some now ∧ now.result = .ok sample := by
  have ends := Generator.step_ends t resolve Names.Source.draws progress
  generalize Generator.step t resolve Names.Source.draws progress = f at ends h
  cases ends with
  | ended | refused =>
    cases h
    exact absurd rfl hgoes
  | @turned k =>
    cases h
    cases hresult : (Generator.turn t resolve Names.Source.draws k source).result with
    | error e =>
      rw [hresult] at hgoes
      exact absurd rfl hgoes
    | ok sample => exact ⟨_, sample, rfl, hresult⟩

private theorem Standing.pull_of_supply (t : Tables) (resolve : Resolver) (progress : Generator.Progress)
    (source : Names.Source) :
    Standing.pull t ⟨resolve, progress, .ok source⟩ = Standing.turn t ⟨resolve, progress, .ok source⟩ source := by
  cases progress <;> rfl

private theorem tracks_next (hs : s.WellPlaced) (h : s.Tracks id resolve p) :
    (s.step t (.next id none)).2.Tracks id resolve (Generator.pull t resolve Names.Source.draws p) ∧
      Accounts p (Generator.pull t resolve Names.Source.draws p) [(.next id none, (s.step t (.next id none)).1)]
        (s.emitted t (.next id none)) := by
  have hst : Step.generator? (.next id none) = some id := rfl
  obtain ⟨hanswer, hnext⟩ := standing_step (t := t) hs hst h.standing
  rw [hanswer]
  simp only [emitted, h.standing, Option.map_some, Option.getD_some, Standing.events]
  simp only [Standing.answer, Standing.pull_of_supply, Standing.turn] at hnext ⊢
  unfold Generator.pull
  rcases hstep : Generator.step t resolve Names.Source.draws p.progress p.done.source with ⟨progress, _ | now⟩ <;>
    rw [hstep] at hnext <;> dsimp only at hnext ⊢
  · refine ⟨⟨hnext, ?_⟩, (List.append_nil _).symm, (List.append_nil _).symm, (List.append_nil _).symm⟩
    intro hgoes
    obtain ⟨now, -, hnow, -⟩ := sampled_of_step hstep hgoes
    cases hnow
  · have hfailure : p.done.failure = none := by
      refine h.unfailed ?_
      intro hover
      rw [hover] at hstep
      cases hstep
    cases hresult : now.result with
    | error e =>
      rw [hresult] at hnext
      simp only [Generator.Run.extend, hresult]
      refine ⟨⟨hnext, ?_⟩, (List.append_nil _).symm, by rw [hfailure]; rfl, rfl⟩
      intro hgoes
      obtain ⟨_, sample, hnow, hsample⟩ := sampled_of_step hstep hgoes
      cases hnow
      rw [hresult] at hsample
      cases hsample
    | ok sample =>
      rw [hresult] at hnext
      simp only [Generator.Run.extend, hresult]
      exact ⟨⟨hnext, fun _ => rfl⟩, rfl, by rw [hfailure]; rfl, rfl⟩

theorem tracks_pulls (hs : s.WellPlaced) (h : s.Tracks id resolve p) (n : Nat) :
    (s.run t (.replicate n (.next id none))).2.Tracks id resolve (Generator.pulls t resolve Names.Source.draws n p) ∧
      Accounts p (Generator.pulls t resolve Names.Source.draws n p) (s.run t (.replicate n (.next id none))).1
        (s.emittedAlong t (.replicate n (.next id none))) := by
  induction n generalizing s p with
  | zero => exact ⟨h, (List.append_nil _).symm, (List.append_nil _).symm, (List.append_nil _).symm⟩
  | succ n ih =>
    obtain ⟨hnext, hfirst⟩ := tracks_next (t := t) hs h
    obtain ⟨hend, hlater⟩ := ih ((step_moves t s (.next id none)).wellPlaced hs) hnext
    rw [Generator.pulls_pull] at hend hlater
    exact ⟨hend, hfirst.trans hlater⟩

/-- The log accounts for a run, and its level has no part in what the run does:
* at level ten the log reports, one after the other, the keys with samples, each with its version and announced before
  if its kind is left out of the default run, and announces in the same way the key at which the run has failed, if
  that has been found;
* at any other level it is the part of this at or above the level, or above that of the parent if the level is zero;
* a generator that is pulled in a session gives these records to the logger, whatever the level of the logger is and
  whatever else it does, and the samples, the failure and what is left of the source are the same;
* no logger has a part in the answers to steps that do not concern it, nor in anything but itself. -/
theorem log_accounts (t : Tables) (resolve : Resolver) :
    (∀ {σ : Type} (draws : NameSource σ) (ks : List Value) (source : σ),
      let r := Generator.run t resolve draws ks source
      (∃ kinds, List.Forall₂ (fun key k => t.lookup key = .ok k) (ks.take r.samples.length) kinds ∧
        Log.passed 10 r.events =
          Generator.reported t kinds r.samples ++ (r.failedAt ks).elim [] (Generator.announced t)) ∧
      (r.failure = none → r.samples.length = ks.length) ∧ (r.failure ≠ none → r.samples.length < ks.length) ∧
      (∀ level, level ≠ 0 →
        Log.passed level r.events = (Log.passed 10 r.events).filter fun e => level ≤ e.level) ∧
      Log.passed 0 r.events = (Log.passed 10 r.events).filter fun e => 30 ≤ e.level) ∧
    ∀ before : List Step,
      let s := (initial.run t before).2
      (∀ (id : String) (selection : Selection) (ks : List Value) (source : Names.Source),
        s.standing id = some ⟨resolve, .fresh selection, .ok source⟩ → selection.keys t = .ok ks →
          ∀ (n : Nat) (l : Logger),
            let r := Generator.run t resolve Names.Source.draws (ks.take n) source
            let pulled := (s.withLogger l).run t (.replicate n (.next id none))
            samples pulled.1 = r.samples ∧ failures pulled.1 = r.failure.toList ∧ pulled.2.logger = l.emit r.events ∧
              ∃ progress, pulled.2.standing id = some ⟨resolve, progress, .ok r.source⟩) ∧
      ∀ after : List Step, (∀ st ∈ after, ¬ st.ConcernsLogger) → ∀ l : Logger,
        (s.withLogger l).run t after =
          ((s.run t after).1, (s.run t after).2.withLogger (l.emit (s.emittedAlong t after))) := by
  refine ⟨?_, ?_⟩
  · intro σ draws ks source r
    obtain ⟨kinds, hkinds, hevents⟩ := Generator.events_run t resolve draws ks source
    obtain ⟨hall, hsome⟩ := Generator.length_samples t resolve draws ks source
    rw [Log.passed_ten]
    refine ⟨⟨kinds, hkinds, hevents⟩, hall, hsome, ?_, rfl⟩
    intro level hlevel
    rw [Log.passed, Log.effective, if_neg hlevel]
  · intro before s
    have hs : s.WellPlaced := wellPlaced_run t before
    refine ⟨?_, fun after hafter l => run_withLogger hs hafter l⟩
    intro id selection ks source hstanding hks n l r pulled
    have hafter : ∀ st ∈ List.replicate n (Step.next id none), ¬ st.ConcernsLogger := by
      intro st hst
      rw [List.eq_of_mem_replicate hst]
      exact not_false
    have hstart : s.Tracks id resolve (.start selection source) := ⟨hstanding, fun _ => rfl⟩
    obtain ⟨htracks, haccounts⟩ := tracks_pulls (t := t) hs hstart n
    have hdone : (Generator.pulls t resolve Names.Source.draws n (.start selection source)).done = r :=
      (Generator.reached_pulls hks n).done
    have hpulled : pulled = _ := run_withLogger (t := t) hs hafter l
    rw [hpulled]
    have hsamples := haccounts.samples
    have hfailures := haccounts.failures
    have hevents := haccounts.events
    have hstands := htracks.standing
    rw [hdone] at hsamples hfailures hevents hstands
    exact ⟨hsamples.symm, hfailures.symm, congrArg l.emit hevents.symm, _, hstands⟩

/-- Two kinds that the default run leaves out are asked for; the resolver has no version for the second of them. -/
def accountedOpened : List Step := [
  .makeSource "script" (.scripted [.ok (.text "a"), .ok (.text "b")] [.ok (.uuid .zero)]),
  .openGenerator "accounted" (.ok (.listed [.key .deleteGroups, .int 3, .key .describeTransactions, .key .produce]))
    (.ok (Resolver.fixed .standard (.int 2))) (some "script")]

/-- At level twenty the log of the four pulls keeps both announcements and none of the two reports. -/
theorem log_accounts_left_out :
    let s := (initial.run .standard accountedOpened).2
    let pulled := (s.withLogger ⟨20, [.foreign, .writer], []⟩).run .standard (.replicate 4 (.next "accounted" none))
    s.standing "accounted" =
        some ⟨Resolver.fixed .standard (.int 2),
          .fresh (.listed [.key .deleteGroups, .int 3, .key .describeTransactions, .key .produce]),
          .ok (.scripted [.ok (.text "a"), .ok (.text "b")] [.ok (.uuid .zero)])⟩ ∧
      (samples pulled.1).length = 2 ∧
      failures pulled.1 = [.versionUnresolved (.key .describeTransactions) (.outside (.int 2) 0 0)] ∧
      pulled.2.logger.lines = [
        "INFO ksample.factory: DeleteGroups is excluded from default generation, generating on request",
        "INFO ksample.factory: DescribeTransactions is excluded from default generation, generating on request"] := by
  intro s pulled
  have hstanding : s.standing "accounted" =
      some ⟨Resolver.fixed .standard (.int 2),
        .fresh (.listed [.key .deleteGroups, .int 3, .key .describeTransactions, .key .produce]),
        .ok (.scripted [.ok (.text "a"), .ok (.text "b")] [.ok (.uuid .zero)])⟩ := rfl
  obtain ⟨-, hsessions⟩ := log_accounts .standard (Resolver.fixed .standard (.int 2))
  obtain ⟨hpulled, -⟩ := hsessions accountedOpened
  obtain ⟨hsamples, hfailures, hlogger, -⟩ :=
    hpulled "accounted" _ _ _ hstanding rfl 4 (Logger.mk 20 [.foreign, .writer] [])
  refine ⟨hstanding, ?_, ?_, ?_⟩
  · rw [hsamples]; rfl
  · rw [hfailures]; rfl
  · rw [hlogger]; rfl

end RequestSamples.Session
