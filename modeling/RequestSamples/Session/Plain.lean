import RequestSamples.Json.Plain
import RequestSamples.Session.Attribute

/-!
# Plain data of kept messages

The plain data of an item, made part by part in the order of writing, so that the first part that cannot be
written is the one that is told.  An item that contains itself is nested too deep.
-/

namespace RequestSamples.Session.Store

/-- The plain data of an item, if it can be written in at most `room` levels. -/
def reduceWithin (s : Store) (room : Nat) (x : Item) : Except Failure Value :=
  match s.form x with
  | .whole v =>
    match Json.obstacleWithin room v with
    | some e => .error e
    | none => .ok (Json.plain v)
  | .list xs =>
    match room with
    | 0 => .error (.tooDeep .writing)
    | room + 1 => do return .list (← xs.mapM (s.reduceWithin room))
  | .table es =>
    match room with
    | 0 => .error (.tooDeep .writing)
    | room + 1 => do return .dict (← Entries.traverse (s.reduceWithin room) es)
  | .object shape es =>
    if shape = .request then .error (.unwritable shape.name)
    else match room with
      | 0 => .error (.tooDeep .writing)
      | room + 1 => do return .dict (← Entries.traverse (s.reduceWithin room) (shape.written es))
termination_by structural room

/-- The plain data of an item. -/
def reduce (s : Store) (x : Item) : Except Failure Value := s.reduceWithin Value.maxNesting x

end RequestSamples.Session.Store
