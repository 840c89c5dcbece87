import RequestSamples.Populator
import RequestSamples.Session.Assignment
import RequestSamples.Session.Path

/-!
# Editing kept messages

An edit follows a path from a kept message and then sets an attribute or an item, or adds an item to a list.
A message can also be filled by a populator, or be given an attribute of another message; then both refer to
the same node.  Whatever else an edit puts in has nodes of its own.
-/

namespace RequestSamples.Session.Store

/-- Sets what the last step of a path leads to; the empty path has no last step. -/
def setAt (s : Store) (id : String) (path : Path) (w : Given Value) : Except Failure Store := do
  let x ← s.item id
  match path.getLast? with
  | none => throw .noItem
  | some last => do
    let (x, s) ← s.walk x path.dropLast
    let (y, s) := s.allocate (← w)
    let s := s.enterItem x
    match x, s.form x with
    | .ref a, .list xs => return s.setNode a (.list (← Value.setItem xs last y))
    | _, .whole (.inner .list) => do
      let _ ← last.index
      throw (.unfollowed Family.list.name "__setitem__")
    | x, _ => s.setAttribute x (← nameOf last) y

/-- Calls what an item has for adding an item.  Lists have it, and only they: whatever else answers to that
name cannot be called.  The lists of a family stay as they are. -/
def callAppend (s : Store) (called : Item) (w : Value) : Except Failure Store :=
  match called with
  | .bound .builtin _ owner =>
    let (y, s) := s.allocate w
    let s := s.enterItem owner
    match owner, s.form owner with
    | .ref a, .list xs => .ok (s.setNode a (.list (xs ++ [y])))
    | _, _ => .error (.unfollowed Family.list.name "append")
  | x => .error (.notCallable (s.family x).name)

/-- Adds an item to the list at the end of a path, which is not the kept message itself. -/
def appendAt (s : Store) (id : String) (path : Path) (w : Given Value) : Except Failure Store := do
  let x ← s.item id
  if path.isEmpty then throw .noItem
  let (x, s) ← s.walk x path
  let (called, s) ← s.attributeOf x "append"
  s.callAppend called (← w)

/-- What sharing is about: the item that a path leads to but for its last step, the name that the last step is,
and what another message has under this name. -/
def lent (s : Store) (id source : String) (path : Path) : Except Failure (Item × String × Item × Store) := do
  let x ← s.item id
  match path.getLast? with
  | none => throw .noItem
  | some last => do
    let (x, s) ← s.walk x path.dropLast
    let y ← s.item source
    let name ← nameOf last
    let (y, s) ← s.attributeOf y name
    return (x, name, y, s)

/-- Lets the attribute at the end of a path be what another message has under the same name. -/
def share (s : Store) (id source : String) (path : Path) : Except Failure Store := do
  let (x, name, y, s) ← s.lent id source path
  s.setAttribute x name y

/-- Sets attributes of an item, one after the other. -/
def assign (s : Store) (x : Item) (writes : Entries) : Store :=
  writes.foldl
    (fun s (n, v) =>
      let (y, s) := s.allocate v
      match s.setAttribute x n y with
      | .ok s => s
      | .error _ => s)
    s

/-- Fills a kept message from a source.  What has been set before a failure stays set. -/
def populate {σ : Type} (s : Store) (id : String) (p : Populator) (draws : NameSource σ) (source : σ) :
    Except Failure Unit × Store × σ :=
  match s.item id with
  | .error e => (.error e, s, source)
  | .ok x =>
    let (r, done) := p.run draws (s.outline x) source
    (r, s.assign x done.writes, done.source)

end RequestSamples.Session.Store
