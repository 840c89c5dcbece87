import RequestSamples.Session.Attribute

/-!
# Paths into kept messages

A path leads from a message to a part of it.  Its steps are values themselves: in a list a step is an index,
in all else the name of an attribute.
-/

namespace RequestSamples.Session

/-- A path: its steps, in order. -/
abbrev Path := List Value

/-- The name that a step is. -/
def nameOf (step : Value) : Except Failure String :=
  match step with
  | .text name => .ok name
  | step => .error (.attributeName step.typeName)

namespace Store

/-- The item that a step leads to; the store has gone into the item where the step begins. -/
def follow (s : Store) (x : Item) (step : Value) : Except Failure (Item × Store) := do
  let s := s.enterItem x
  match s.form x with
  | .list xs => return (← Value.item xs step, s)
  | .whole (.inner .list) => do
    let _ ← step.index
    throw .noItem
  | _ => s.attributeOf x (← nameOf step)

/-- The item that a path leads to. -/
def walk (s : Store) (x : Item) (path : Path) : Except Failure (Item × Store) :=
  path.foldlM (fun (x, s) step => s.follow x step) (x, s)

end Store

end RequestSamples.Session
