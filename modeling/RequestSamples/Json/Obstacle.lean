import RequestSamples.Failure
import RequestSamples.Value.Attribute

/-!
# What can be written

Not every value has a JSON text: bare requests, degrees of safety and inner values have none, and no value has
one that is nested too deep.  What stands in the way is the first such part in the order of writing.  An
object is written with those attributes of its own that its shape names, whatever else it has been given.
-/

namespace RequestSamples

/-- The entries that an object of a shape is written with, of all its attributes. -/
def Shape.written {α : Type} (s : Shape) (all : List (String × α)) : List (String × α) :=
  Entries.pick s.writtenNames all

namespace Json

/-- What stands in the way one level down, if there is room. -/
def below (room : Nat) (parts : Nat → List (Option Failure)) : Option Failure :=
  match room with
  | 0 => some (.tooDeep .writing)
  | room + 1 => (parts room).findSome? id

mutual

/-- What keeps a value from being written in at most `room` levels. -/
def obstacleWithin (room : Nat) : Value → Option Failure
  | .list vs | .tuple vs => below room fun room => obstacles room vs
  | .dict es => below room fun room => (entryObstacles room es).map (·.2)
  | .object s es xs =>
    if s = .request then some (.unwritable s.name)
    else below room fun room =>
      (s.written (entryObstacles room es ++ entryObstacles room xs)).map (·.2)
  | .inner f => some (.unwritable f.name)
  | .safety _ => some (.unwritable Family.safeties.name)
  | .null | .bool _ | .int _ | .float _ | .text _ | .bytes _ | .uuid _ | .key _ => none
termination_by structural v => v

/-- What stands in the way in each item. -/
def obstacles (room : Nat) : List Value → List (Option Failure)
  | [] => []
  | v :: vs => obstacleWithin room v :: obstacles room vs
termination_by structural vs => vs

/-- What stands in the way in each entry. -/
def entryObstacles (room : Nat) : List (String × Value) → List (String × Option Failure)
  | [] => []
  | (n, v) :: es => (n, obstacleWithin room v) :: entryObstacles room es
termination_by structural es => es

end

/-- What keeps a value from being written. -/
def obstacle? (v : Value) : Option Failure := obstacleWithin Value.maxNesting v

/-- The value can be written. -/
def writable (v : Value) : Except Failure Unit :=
  match obstacle? v with
  | some e => .error e
  | none => .ok ()

end Json

end RequestSamples
