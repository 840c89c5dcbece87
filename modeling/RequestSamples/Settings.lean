import RequestSamples.Failure
import RequestSamples.Text.Blank
import RequestSamples.Text.Upper

/-!
# Settings

Two settings are read from the environment whenever they are asked for: the seed of the shared name source and
the level of the log.  The seed is an integer in any of its spellings; the level is a number or a name.
-/

namespace RequestSamples

/-- The variables that are set. -/
abbrev Environment := List (String × String)

namespace Environment

/-- The environment without a variable. -/
def unset (env : Environment) (name : String) : Environment := env.filter fun e => e.1 ≠ name

/-- A variable can have this name and this text. -/
def check (name text : String) : Except Failure Unit :=
  if name.contains '\x00' || text.contains '\x00' then .error .nullCharacter
  else if name.contains '=' then .error .illegalVariable
  else if name = "" then .error .namelessVariable
  else .ok ()

/-- The environment with a variable set to a text, or unset by null. -/
def set (env : Environment) (name : String) (v : Value) : Except Failure Environment :=
  match v with
  | .null => .ok (env.unset name)
  | .text t => do
    check name t
    return (name, t) :: env.unset name
  | v => .error (.notText v.typeName)

end Environment

namespace Settings

/-- The variable that holds the seed. -/
def seedVariable : String := "KSAMPLE_SEED"

/-- The variable that holds the log level. -/
def levelVariable : String := "KSAMPLE_LOG_LEVEL"

/-- The seed of a text; a blank text gives none. -/
def readSeed (cs : List Char) : Except Failure (Option Int) :=
  let cs := Text.trim cs
  if cs.isEmpty then .ok none
  else match Numeral.read? cs with
    | some n => .ok (some n)
    | none => .error (.malformedSeed (String.ofList cs))

/-- The seed of the shared name source. -/
def seed (env : Environment) : Except Failure (Option Int) :=
  match env.lookup seedVariable with
  | some t => readSeed t.toList
  | none => .ok none

/-- The levels that have names. -/
def levels : List (String × Int) := [
  ("CRITICAL", 50), ("FATAL", 50), ("ERROR", 40), ("WARN", 30), ("WARNING", 30), ("INFO", 20), ("DEBUG", 10),
  ("NOTSET", 0)]

/-- The number of a text of digits. -/
def readNumber (cs : List Char) : Except Failure Int :=
  let ds := (cs.takeWhile fun c => (Text.decimalDigit? c).isSome).filterMap Text.decimalDigit?
  if Numeral.maxDigits < ds.length then .error (.longNumber ds.length)
  else if ds.length < cs.length then .error (.malformedNumber (String.ofList cs))
  else .ok (Numeral.ofDigits 10 ds)

/-- The level of a text: the number of its digits, or that of its name in any case. -/
def readLevel (cs : List Char) : Except Failure Int :=
  let cs := Text.upper (Text.trim cs)
  if Text.isDigits cs then readNumber cs
  else match levels.lookup (String.ofList cs) with
    | some n => .ok n
    | none => .error (.malformedLevel (String.ofList cs))

/-- The level of the log; warnings if it is not set. -/
def logLevel (env : Environment) : Except Failure Int :=
  readLevel ((env.lookup levelVariable).getD "WARNING").toList

end Settings

end RequestSamples
