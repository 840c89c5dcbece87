import RequestSamples.Value.Text

/-!
# Log records

A run logs two kinds of events: a request kind was asked for that the default run leaves out, and a sample was
made.  A logger passes on the records at or above its level; the level zero stands for that of its parent.
-/

namespace RequestSamples

/-- The integer that a version is shown as: the integer part of a number. -/
def Value.integerPart? : Value → Option Int
  | .float x => x.truncate?
  | v => v.integer?

namespace Log

/-- Something worth logging. -/
inductive Event
  /-- A kind was asked for that the default run leaves out. -/
  | onRequest (k : ApiKey)
  /-- A sample of a kind was made for a version. -/
  | generated (k : ApiKey) (version : Value)

/-- The name of the logger. -/
def loggerName : String := "ksample.factory"

namespace Event

/-- The level of an event. -/
def level : Event → Int
  | onRequest _ => 20
  | generated .. => 10

/-- The name of the level. -/
def levelName : Event → String
  | onRequest _ => "INFO"
  | generated .. => "DEBUG"

/-- The text of an event; a version that is no number has none, and neither has one with too many digits. -/
def text? : Event → Option String
  | onRequest k => some (k.title ++ " is excluded from default generation, generating on request")
  | generated k version =>
    (version.integerPart?.filter fun n => !Numeral.isLong n).map fun n =>
      "generated " ++ k.title ++ " v" ++ String.ofList (Numeral.write n)

/-- The line of an event in a log. -/
def line? (e : Event) : Option String :=
  e.text?.map fun t => e.levelName ++ " " ++ loggerName ++ ": " ++ t

end Event

/-- The level that is in force: that of the parent if the logger has none. -/
def effective (level : Int) : Int := if level = 0 then 30 else level

/-- The events that a logger passes on. -/
def passed (level : Int) (events : List Event) : List Event :=
  events.filter fun e => effective level ≤ e.level

end Log

end RequestSamples
