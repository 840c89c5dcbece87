import RequestSamples.Log
import RequestSamples.Settings

/-!
# The logger of a session

The logger hands the records that it passes on to its handlers, in the order in which these were attached.  Setting
the log up reads the level from the settings and attaches a handler that writes lines, unless there is one already,
wherever it stands among the others; a malformed level changes nothing.
-/

namespace RequestSamples.Session

/-- What a logger hands records to. -/
inductive Handler
  /-- It writes lines.  Setting up attaches such a handler. -/
  | writer
  /-- It was attached by someone else and writes no lines. -/
  | foreign
deriving DecidableEq, Repr

/-- The lines that a handler writes for an event. -/
def Handler.write (e : Log.Event) : Handler → List String
  | writer => e.line?.toList
  | foreign => []

/-- The level of the logger, its handlers in the order in which they were attached, and the lines that nobody has
taken yet. -/
structure Logger where
  level : Int
  handlers : List Handler
  lines : List String

namespace Logger

/-- The name of the logger. -/
def name : String := "ksample"

/-- The logger before it is set up. -/
def initial : Logger := ⟨0, [], []⟩

/-- The logger with one more handler. -/
def attach (h : Handler) (l : Logger) : Logger := { l with handlers := l.handlers ++ [h] }

/-- The logger set up for an environment. -/
def setUp (env : Environment) (l : Logger) : Except Failure Logger := do
  let l := { l with level := ← Settings.logLevel env }
  if l.handlers.contains .writer then return l
  return l.attach .writer

/-- The logger after some events. -/
def emit (events : List Log.Event) (l : Logger) : Logger :=
  { l with lines := l.lines ++ (Log.passed l.level events).flatMap fun e => l.handlers.flatMap (·.write e) }

/-- A malformed level sets nothing up. -/
theorem setUp_of_error {env : Environment} {e : Failure} (h : Settings.logLevel env = .error e) (l : Logger) :
    l.setUp env = .error e := by
  rw [setUp, h]
  rfl

/-- Setting up sets the level, and attaches a handler only if no handler writes lines yet. -/
theorem setUp_of_ok {env : Environment} {level : Int} (h : Settings.logLevel env = .ok level) (l : Logger) :
    l.setUp env = .ok
      ⟨level, if .writer ∈ l.handlers then l.handlers else l.handlers ++ [.writer], l.lines⟩ := by
  rw [setUp, h]
  by_cases hw : Handler.writer ∈ l.handlers
  · show (if l.handlers.contains .writer = true then _ else _) = _
    rw [if_pos hw, if_pos (List.contains_iff_mem.mpr hw)]
    rfl
  · show (if l.handlers.contains .writer = true then _ else _) = _
    rw [if_neg hw, if_neg (mt List.contains_iff_mem.mp hw)]
    rfl

end Logger

end RequestSamples.Session
