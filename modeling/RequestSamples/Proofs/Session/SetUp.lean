import Mathlib.Data.List.Basic
import RequestSamples.Proofs.Session.Emission

/-!
# Setting the log up again and again

However often the log is set up, and whatever handlers others attach, there is one handler that writes lines once the
level has been read, and none before (`handlers_step`).  So each record that is passed on becomes one line
(`lines_step`), and all that has been written can be told from the levels that have been read (`set_up_once`).
-/

namespace RequestSamples.Session

/-- The level that a step reads and sets. -/
def read? (s : Session) : Step → Option Int
  | .setUpLog => (Settings.logLevel s.environment).toOption
  | _ => none

/-- The level that has been read last. -/
def readAlong (t : Tables) : Session → Option Int → List Step → Option Int
  | _, last, [] => last
  | s, last, st :: sts => readAlong t (s.step t st).2 ((s.read? st).or last) sts

/-- The lines that are due for events since a level has been read last: none before the first time. -/
def due (last : Option Int) (events : List Log.Event) : List String :=
  match last with
  | some level => (Log.passed level events).filterMap Log.Event.line?
  | none => []

/-- The lines that are due for what steps give to the logger, each at the level that has been read last before. -/
def dueAlong (t : Tables) : Session → Option Int → List Step → List String
  | _, _, [] => []
  | s, last, st :: sts => due last (s.emitted t st) ++ dueAlong t (s.step t st).2 ((s.read? st).or last) sts

/-- The lines that have been taken. -/
def taken (told : Transcript) : List String :=
  told.flatMap fun e =>
    match e with
    | (.takeLines, .ok (.lines ls)) => ls
    | _ => []

/-- The step attaches a handler. -/
def Step.attaches : Step → Bool
  | .addHandler => true
  | _ => false

/-- The logger after a level has been read, for the first time or again. -/
def Logger.afterReading (level : Int) (last : Option Int) (l : Logger) : Logger :=
  ⟨level, if last.isSome then l.handlers else l.handlers ++ [.writer], l.lines⟩

/-- A logger whose level has been read last as this, and to which others have attached so many handlers. -/
structure Logger.Keeps (l : Logger) (last : Option Int) (others : Nat) : Prop where
  level : l.level = last.getD 0
  writers : l.handlers.count .writer = if last.isSome then 1 else 0
  foreign : l.handlers.count .foreign = others

variable {t : Tables} {s : Session} {l : Logger} {last : Option Int} {others : Nat}

/-- An event is written once by each handler that writes lines. -/
private theorem write_handlers (e : Log.Event) (handlers : List Handler) :
    handlers.flatMap (·.write e) = (List.replicate (handlers.count .writer) e.line?.toList).flatten := by
  induction handlers with
  | nil => rfl
  | cons h handlers ih =>
    rw [List.flatMap_cons, ih]
    cases h with
    | writer =>
      rw [List.count_cons_self, List.replicate_succ, List.flatten_cons]
      rfl
    | foreign =>
      rw [List.count_cons_of_ne (by decide)]
      rfl

namespace Logger.Keeps

theorem initial : Logger.initial.Keeps none 0 := ⟨rfl, rfl, rfl⟩

theorem attach (h : l.Keeps last others) : (l.attach .foreign).Keeps last (others + 1) where
  level := h.level
  writers := by rw [Logger.attach, List.count_append, h.writers]; rfl
  foreign := by rw [Logger.attach, List.count_append, h.foreign]; rfl

theorem emit (h : l.Keeps last others) (events : List Log.Event) : (l.emit events).Keeps last others :=
  ⟨h.level, h.writers, h.foreign⟩

/-- The handler that writes lines is there exactly if a level has been read. -/
private theorem writer_mem (h : l.Keeps last others) : .writer ∈ l.handlers ↔ last.isSome := by
  rw [← List.count_pos_iff, h.writers]
  cases last <;> simp

theorem setUp {env : Environment} {level : Int} (h : l.Keeps last others)
    (hread : Settings.logLevel env = .ok level) :
    l.setUp env = .ok (l.afterReading level last) := by
  rw [setUp_of_ok hread, afterReading]
  simp only [h.writer_mem]

private theorem afterReading (h : l.Keeps last others) (level : Int) :
    (l.afterReading level last).Keeps (some level) others := by
  cases last with
  | some => exact ⟨rfl, h.writers, h.foreign⟩
  | none =>
    refine ⟨rfl, ?_, ?_⟩
    · show (l.handlers ++ [Handler.writer]).count .writer = 1
      rw [List.count_append, h.writers]
      rfl
    · show (l.handlers ++ [Handler.writer]).count .foreign = others
      rw [List.count_append, h.foreign]
      rfl

private theorem lines_emit (h : l.Keeps last others) (events : List Log.Event) :
    (l.emit events).lines = l.lines ++ due last events := by
  rw [Logger.emit]
  simp only [write_handlers, h.writers, h.level]
  cases last with
  | none => simp [due]
  | some level => simp [due, List.filterMap_eq_flatMap_toList]

end Logger.Keeps

private theorem taken_append (told told' : Transcript) : taken (told ++ told') = taken told ++ taken told' :=
  List.flatMap_append

private theorem due_nil (last : Option Int) : due last [] = [] := by
  cases last <;> rfl

private theorem step_setUpLog_of_error {e : Failure} (h : Settings.logLevel s.environment = .error e) :
    s.step t .setUpLog = (.error e, s) := by
  simp only [step, Logger.setUp_of_error h]

private theorem step_setUpLog_of_ok {level : Int} (hl : s.logger.Keeps last others)
    (h : Settings.logLevel s.environment = .ok level) :
    s.step t .setUpLog =
      (.ok (.logger level (s.logger.afterReading level last).handlers.length),
        s.withLogger (s.logger.afterReading level last)) := by
  simp only [step, hl.setUp h]
  rfl

/-- A step leaves one handler that writes lines if a level has been read before or in it, and none otherwise. -/
theorem handlers_step (t : Tables) (st : Step) (hs : s.WellPlaced) (hl : s.logger.Keeps last others) :
    (s.step t st).2.logger.Keeps ((s.read? st).or last) (others + if st.attaches then 1 else 0) := by
  by_cases hst : st.ConcernsLogger
  · cases st with
    | setUpLog =>
      cases h : Settings.logLevel s.environment with
      | error e =>
        rw [step_setUpLog_of_error h, read?, h]
        exact hl
      | ok level =>
        rw [step_setUpLog_of_ok hl h, read?, h]
        exact hl.afterReading level
    | addHandler => exact hl.attach
    | takeLines => exact ⟨hl.level, hl.writers, hl.foreign⟩
    | _ => exact hst.elim
  · have hquiet : s.read? st = none ∧ st.attaches = false := by
      cases st with
      | setUpLog | addHandler | takeLines => exact absurd trivial hst
      | _ => exact ⟨rfl, rfl⟩
    rw [logger_step hs hst, hquiet.1, hquiet.2]
    exact hl.emit _

/-- The lines that are due for what a step gives to the logger are written, and no others. -/
theorem lines_step (t : Tables) (st : Step) (hs : s.WellPlaced) (hl : s.logger.Keeps last others) :
    taken [(st, (s.step t st).1)] ++ (s.step t st).2.logger.lines = s.logger.lines ++ due last (s.emitted t st) := by
  by_cases hst : st.ConcernsLogger
  · have hnone : s.emitted t st = [] := by
      cases st with
      | setUpLog | addHandler | takeLines => rfl
      | _ => exact hst.elim
    rw [hnone, due_nil, List.append_nil]
    cases st with
    | setUpLog =>
      cases h : Settings.logLevel s.environment with
      | error e => rw [step_setUpLog_of_error h]; rfl
      | ok level => rw [step_setUpLog_of_ok hl h]; rfl
    | addHandler => rfl
    | takeLines =>
      show (s.logger.lines ++ []) ++ [] = s.logger.lines
      rw [List.append_nil, List.append_nil]
    | _ => exact hst.elim
  · have hquiet : taken [(st, (s.step t st).1)] = [] := by
      cases st with
      | setUpLog | addHandler | takeLines => exact absurd trivial hst
      | _ => rfl
    rw [hquiet, List.nil_append, logger_step hs hst, hl.lines_emit]

private theorem handlers_run (hs : s.WellPlaced) (hl : s.logger.Keeps last others) (sts : List Step) :
    (s.run t sts).2.logger.Keeps (s.readAlong t last sts) (others + sts.countP Step.attaches) := by
  induction sts generalizing s last others with
  | nil => exact hl
  | cons st sts ih =>
    have hlater := ih ((step_moves t s st).wellPlaced hs) (handlers_step t st hs hl)
    rw [List.countP_cons, Nat.add_comm (sts.countP _), ← Nat.add_assoc]
    exact hlater

private theorem lines_run (hs : s.WellPlaced) (hl : s.logger.Keeps last others) (sts : List Step) :
    taken (s.run t sts).1 ++ (s.run t sts).2.logger.lines = s.logger.lines ++ s.dueAlong t last sts := by
  induction sts generalizing s last others with
  | nil => exact (List.append_nil _).symm
  | cons st sts ih =>
    have hfirst := lines_step t st hs hl
    have hlater := ih ((step_moves t s st).wellPlaced hs) (handlers_step t st hs hl)
    calc taken (s.run t (st :: sts)).1 ++ (s.run t (st :: sts)).2.logger.lines
        = taken [(st, (s.step t st).1)] ++
            (taken ((s.step t st).2.run t sts).1 ++ ((s.step t st).2.run t sts).2.logger.lines) := by
          rw [← List.append_assoc, ← taken_append]
          rfl
      _ = taken [(st, (s.step t st).1)] ++
            ((s.step t st).2.logger.lines ++ (s.step t st).2.dueAlong t ((s.read? st).or last) sts) := by
          rw [hlater]
      _ = s.logger.lines ++ s.dueAlong t last (st :: sts) := by
          rw [← List.append_assoc, hfirst, List.append_assoc]
          rfl

/-- However often the log is set up, with whatever level in the environment, and whatever else happens in between:
* there is no handler that writes lines before a level has been read for the first time, and one afterwards;
* the handlers of others are those that they have attached;
* the level is the one that has been read last;
* all lines ever written are, in order, those of the records at or above the level in force when they were given to
  the logger, once each, from when a level had been read for the first time;
* with a malformed level setting up fails and changes nothing, and otherwise it changes nothing but the level and, the
  first time, the handlers, by one that writes lines behind the others. -/
theorem set_up_once (t : Tables) (before : List Step) :
    let s := (initial.run t before).2
    let last := initial.readAlong t none before
    s.logger.handlers.count .writer = (if last.isSome then 1 else 0) ∧
    s.logger.handlers.count .foreign = before.countP Step.attaches ∧
    s.logger.level = last.getD 0 ∧
    taken (initial.run t before).1 ++ s.logger.lines = initial.dueAlong t none before ∧
    (∀ e, Settings.logLevel s.environment = .error e → s.step t .setUpLog = (.error e, s)) ∧
    ∀ level, Settings.logLevel s.environment = .ok level →
      let handlers := if last.isSome then s.logger.handlers else s.logger.handlers ++ [.writer]
      s.step t .setUpLog =
        (.ok (.logger level handlers.length), { s with logger := ⟨level, handlers, s.logger.lines⟩ }) := by
  intro s last
  have hkeeps : s.logger.Keeps last (0 + before.countP Step.attaches) :=
    handlers_run wellPlaced_initial .initial before
  have hlines := lines_run (t := t) wellPlaced_initial .initial before
  rw [Nat.zero_add] at hkeeps
  refine ⟨hkeeps.writers, hkeeps.foreign, hkeeps.level, hlines, ?_, ?_⟩
  · intro e h
    exact step_setUpLog_of_error h
  · intro level h
    exact step_setUpLog_of_ok hkeeps h

/-- The log is set up at the default level and again at level ten; others attach handlers before and in between. -/
def setUpTwice : List Step := [
  .addHandler, .setUpLog,
  .makeSource "script" (.scripted [] []),
  .openGenerator "logged" (.ok (.listed [.key .electLeaders, .key .deleteGroups]))
    (.ok (.constant (.int 1))) (some "script"),
  .next "logged" none, .addHandler,
  .setEnvironment Settings.levelVariable (.text " debug "),
  .setUpLog, .next "logged" none, .takeLines]

/-- The records of the first pull are below the default level, those of the second are written once each.  A malformed
level changes nothing. -/
theorem set_up_once_twice :
    let malformed := (initial.run .standard [.addHandler, .setEnvironment Settings.levelVariable (.text "loud")]).2
    let s := (initial.run .standard setUpTwice).2
    Settings.logLevel malformed.environment = .error (.malformedLevel "LOUD") ∧
      malformed.step .standard .setUpLog = (.error (.malformedLevel "LOUD"), malformed) ∧
      s.logger.handlers.count .writer = 1 ∧ s.logger.handlers.count .foreign = 2 ∧ s.logger.level = 10 ∧
      taken (initial.run .standard setUpTwice).1 ++ s.logger.lines = [
        "INFO ksample.factory: DeleteGroups is excluded from default generation, generating on request",
        "DEBUG ksample.factory: generated DeleteGroups v1"] ∧
      Settings.logLevel s.environment = .ok 10 ∧
      s.step .standard .setUpLog =
        (.ok (.logger 10 s.logger.handlers.length),
          { s with logger := ⟨10, s.logger.handlers, s.logger.lines⟩ }) := by
  intro malformed s
  have hcheck : ∀ text ∈ ["loud", " debug "], Environment.check Settings.levelVariable text = .ok () := by
    simp [Environment.check, Settings.levelVariable]
  have hmalformed : Settings.logLevel malformed.environment = .error (.malformedLevel "LOUD") := by
    show Settings.logLevel (run _ _ _).2.environment = _
    rw [run, run, step_setEnvironment (hcheck "loud" (by simp))]
    rfl
  have hlevel : Settings.logLevel s.environment = .ok 10 := by
    show Settings.logLevel (run _ _ setUpTwice).2.environment = _
    rw [setUpTwice, run, run, run, run, run, run, run, step_setEnvironment (hcheck " debug " (by simp))]
    rfl
  have hlast : initial.readAlong .standard none setUpTwice = some 10 := by
    rw [setUpTwice, readAlong, readAlong, readAlong, readAlong, readAlong, readAlong, readAlong,
      step_setEnvironment (hcheck " debug " (by simp))]
    rfl
  have hdue : initial.dueAlong .standard none setUpTwice = [
      "INFO ksample.factory: DeleteGroups is excluded from default generation, generating on request",
      "DEBUG ksample.factory: generated DeleteGroups v1"] := by
    rw [setUpTwice, dueAlong, dueAlong, dueAlong, dueAlong, dueAlong, dueAlong, dueAlong,
      step_setEnvironment (hcheck " debug " (by simp))]
    rfl
  obtain ⟨-, -, -, -, hrefused, -⟩ :=
    set_up_once .standard [.addHandler, .setEnvironment Settings.levelVariable (.text "loud")]
  obtain ⟨hwriters, hothers, hsame, hlines, -, hagain⟩ := set_up_once .standard setUpTwice
  rw [hlast] at hwriters hsame hagain
  exact ⟨hmalformed, hrefused _ hmalformed, hwriters, hothers, hsame, hlines.trans hdue, hlevel, hagain 10 hlevel⟩

end RequestSamples.Session
