import RequestSamples.Session.Comparison
import RequestSamples.Session.Display
import RequestSamples.Session.Edit
import RequestSamples.Session.Logger

/-!
# Sessions

A session holds an environment, name sources, suspended generators, kept messages and a logger, and goes on
step by step.  One name source is shared: it is made from the seed of the environment when it is first
needed, and after a reset when it is next needed.  A generator takes its source at its first turn and keeps
it.  A step that fails answers with its failure, and the session goes on.
-/

namespace RequestSamples

namespace Session

/-- A suspended generator.  It draws from the source at the place `source`; without one it takes the shared
source at its first turn. -/
structure Suspended where
  resolver : Resolver
  source : Option Nat
  progress : Generator.Progress

/-- What a source has left: the sizes of a script, or the next name and the next id. -/
inductive Remainder
  | script (names uuids : Nat)
  | drawn (name uuid : Value)

/-- What a step answers. -/
inductive Reply
  | nothing
  | value (v : Value)
  | sample (s : Sample)
  | stop
  | message (shown : View Item)
  | remainder (r : Remainder)
  | logger (level : Int) (handlers : Nat)
  | lines (ls : List String)

/-- A step of a session.  What it was given is only looked at when the step needs it. -/
inductive Step
  | setEnvironment (name : String) (text : Value)
  | reset
  | seed
  | sharedSeed
  | sharedIsSame
  | sharedDraw (draw : Draw)
  | makeSource (id : String) (source : Names.Source)
  | setSuffixDigits (id : String) (digits : Value)
  | draw (id : String) (draw : Draw)
  | left (id : String)
  | openGenerator (id : String) (selection : Given Selection) (resolver : Given Resolver)
    (source : Option String)
  | next (id : String) (into : Option String)
  | close (id : String)
  | makeSkeleton (id : String) (key : Given Value)
  | makeMessage (id : String) (v : Given Value)
  | populate (id : String) (key : Given Value) (source : String)
  | show (id : String)
  | equal (a b : String)
  | set (id : String) (path : Path) (v : Given Value)
  | append (id : String) (path : Path) (v : Given Value)
  | share (id source : String) (path : Path)
  | setUpLog
  | addHandler
  | takeLines

end Session

/-- The state of a session.  Sources have places, to which ids, generators and the shared source refer. -/
structure Session where
  environment : Environment
  sources : List Names.Source
  sourceIds : List (String × Nat)
  shared : Option Nat
  generators : List (String × Session.Suspended)
  store : Session.Store
  logger : Session.Logger

namespace Session

/-- The session in which nothing has happened. -/
def initial : Session := ⟨[], [], [], none, [], Store.empty, Logger.initial⟩

/-- A draw of either kind. -/
def drawFrom {σ : Type} (draws : NameSource σ) : Draw → Drawing σ Value
  | .name => draws.name
  | .uuid => draws.uuid

/-- What a source has left.  Of a seeded source the next name and the next id are drawn. -/
def remainder : Names.Source → Except Failure Remainder × Names.Source
  | .scripted ns us => (.ok (.script ns.length us.length), .scripted ns us)
  | s => Drawing.on (do return .drawn (← Names.Source.name) (← Names.Source.uuid)) s

/-- The source at a place. -/
def sourceAt (s : Session) (i : Nat) : Names.Source := s.sources.getD i (.scripted [] [])

/-- The session with another state of the source at a place. -/
def setSource (s : Session) (i : Nat) (source : Names.Source) : Session :=
  { s with sources := s.sources.set i source }

/-- The place of the source with an id. -/
def sourcePlace (s : Session) (id : String) : Except Failure Nat :=
  match s.sourceIds.lookup id with
  | some i => .ok i
  | none => .error (.unknownId id)

/-- The place of the shared source, which is made if there is none. -/
def sharedPlace (s : Session) : Except Failure (Nat × Session) :=
  match s.shared with
  | some i => .ok (i, s)
  | none => do
    let seed ← Settings.seed s.environment
    let i := s.sources.length
    return (i, { s with sources := s.sources ++ [Names.Source.ofSeed seed], shared := some i })

/-- Draws from the source at a place. -/
def drawAt (s : Session) (i : Nat) (d : Draw) : Except Failure Value × Session :=
  let (v, source) := (drawFrom Names.Source.draws d).on (s.sourceAt i)
  (v, s.setSource i source)

/-- The generator with an id. -/
def generator (s : Session) (id : String) : Except Failure Suspended :=
  match s.generators.lookup id with
  | some g => .ok g
  | none => .error (.unknownId id)

/-- The session with a generator under an id. -/
def setGenerator (s : Session) (id : String) (g : Suspended) : Session :=
  { s with generators := (id, g) :: s.generators.filter fun e => e.1 ≠ id }

/-- One turn of a generator that draws from the source at a place. -/
def turn (t : Tables) (s : Session) (id : String) (g : Suspended) (i : Nat) :
    Except Failure (Option Sample) × Session :=
  let (progress, now?) := Generator.step t g.resolver Names.Source.draws g.progress (s.sourceAt i)
  let s := s.setGenerator id { g with source := some i, progress := progress }
  match now? with
  | none => (.ok none, s)
  | some now =>
    (now.result.map some, { s.setSource i now.source with logger := s.logger.emit now.events })

/-- The next sample of a generator, if there is one.  A generator that is over stays as it is; a fresh one
takes the shared source if it has none of its own. -/
def pull (t : Tables) (s : Session) (id : String) (g : Suspended) :
    Except Failure (Option Sample) × Session :=
  match g.progress, g.source with
  | .over, _ => (.ok none, s)
  | _, some i => turn t s id g i
  | _, none =>
    match s.sharedPlace with
    | .ok (i, s) => turn t s id g i
    | .error e => (.error e, s.setGenerator id { g with progress := .over })

/-- An answer that leaves the session as it is. -/
def answer (s : Session) (r : Except Failure Reply) : Except Failure Reply × Session := (r, s)

/-- A change of the session that answers nothing. -/
def changed (s : Session) (r : Except Failure Session) : Except Failure Reply × Session :=
  match r with
  | .ok s => (.ok .nothing, s)
  | .error e => (.error e, s)

/-- A change of the kept messages that answers nothing. -/
def stored (s : Session) (r : Except Failure Store) : Except Failure Reply × Session :=
  s.changed (r.map fun store => { s with store := store })

/-- One step of a session. -/
def step (t : Tables) (s : Session) : Step → Except Failure Reply × Session
  | .setEnvironment name text =>
    s.changed ((s.environment.set name text).map fun env => { s with environment := env })
  | .reset => (.ok .nothing, { s with shared := none })
  | .seed => s.answer ((Settings.seed s.environment).map fun n => .value (n.elim .null .int))
  | .sharedSeed =>
    match s.sharedPlace with
    | .error e => (.error e, s)
    | .ok (i, s) =>
      match s.sourceAt i with
      | .seeded source => (.ok (.value (source.seed.elim .null .int)), s)
      | .scripted .. => (.ok (.value .null), s)
  | .sharedIsSame =>
    match s.sharedPlace with
    | .error e => (.error e, s)
    | .ok (_, s) => (.ok (.value (.bool true)), s)
  | .sharedDraw d =>
    match s.sharedPlace with
    | .error e => (.error e, s)
    | .ok (i, s) => let (v, s) := s.drawAt i d; (v.map .value, s)
  | .makeSource id source =>
    (.ok .nothing,
      { s with
        sources := s.sources ++ [source]
        sourceIds := (id, s.sources.length) :: s.sourceIds })
  | .setSuffixDigits id digits =>
    s.changed ((s.sourcePlace id).map fun i => s.setSource i ((s.sourceAt i).withSuffixDigits digits))
  | .draw id d =>
    match s.sourcePlace id with
    | .error e => (.error e, s)
    | .ok i => let (v, s) := s.drawAt i d; (v.map .value, s)
  | .left id =>
    match s.sourcePlace id with
    | .error e => (.error e, s)
    | .ok i =>
      let (r, source) := remainder (s.sourceAt i)
      (r.map .remainder, s.setSource i source)
  | .openGenerator id selection resolver source =>
    s.changed do
      let place ← source.mapM s.sourcePlace
      return s.setGenerator id ⟨← resolver, place, .fresh (← selection)⟩
  | .next id into =>
    match s.generator id with
    | .error e => (.error e, s)
    | .ok g =>
      match pull t s id g with
      | (.error e, s) => (.error e, s)
      | (.ok none, s) => (.ok .stop, s)
      | (.ok (some sample), s) =>
        (.ok (.sample sample),
          match into with
          | some name => { s with store := s.store.put name sample.message }
          | none => s)
  | .close id =>
    s.changed ((s.generator id).map fun g => s.setGenerator id { g with progress := .over })
  | .makeSkeleton id key => s.stored do return s.store.put id (← t.skeleton (← key))
  | .makeMessage id v => s.stored (v.map (s.store.put id))
  | .populate id key source =>
    let found : Except Failure (Populator × Nat) := do
      let p ← t.populator (← key)
      let _ ← s.store.item id
      return (p, ← s.sourcePlace source)
    match found with
    | .error e => (.error e, s)
    | .ok (p, i) =>
      let (r, store, source) := s.store.populate id p Names.Source.draws (s.sourceAt i)
      (r.map fun () => .nothing, { s.setSource i source with store := store })
  | .show id =>
    match s.store.view id with
    | .error e => (.error e, s)
    | .ok (shown, store) => (.ok (.message shown), { s with store := store })
  | .equal a b => s.answer do return .value (.bool (← s.store.equal a b))
  | .set id path v => s.stored (s.store.setAt id path v)
  | .append id path v => s.stored (s.store.appendAt id path v)
  | .share id source path => s.stored (s.store.share id source path)
  | .setUpLog =>
    match s.logger.setUp s.environment with
    | .error e => (.error e, s)
    | .ok logger => (.ok (.logger logger.level logger.handlers.length), { s with logger := logger })
  | .addHandler => (.ok .nothing, { s with logger := s.logger.attach .foreign })
  | .takeLines => (.ok (.lines s.logger.lines), { s with logger := { s.logger with lines := [] } })

/-- What a message has shown, as it stands at the end of a session: what it has handed out is shown as it has
become since. -/
def settle (s : Session) (shown : View Item) : View Value := shown.map fun x => (s.store.read x).getD .null

end Session

end RequestSamples
