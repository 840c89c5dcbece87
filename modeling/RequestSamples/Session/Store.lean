import RequestSamples.Value.Access
import RequestSamples.Value.Nesting

/-!
# Kept messages

Messages are kept under ids.  Whatever can change has a node of its own, and the messages refer to nodes, so
that two of them can hold the same list: a change of its node shows in both, while an attribute that is set
refers to another node from then on.  An object refers to the node of its attributes, which objects can share
as well.  A node holds a whole value until someone goes into it; then its parts get nodes too.  Members of
enumerations and families are the same for all messages; their attributes have nodes once they are asked for.
-/

namespace RequestSamples.Session

/-- What a message, or a part of one, is. -/
inductive Item
  /-- A value that never changes. -/
  | value (v : Value)
  /-- What the node at an address holds. -/
  | ref (a : Nat)
  /-- A family. -/
  | family (f : Family)
  /-- Something of a family that was taken from an owner by name: it can be called, or tells about a part. -/
  | bound (f : Family) (name : String) (owner : Item)

/-- The item is the undefined number. -/
def Item.isUndefined : Item → Bool
  | value v => v.isUndefined
  | _ => false

/-- Named items. -/
abbrev Attributes := List (String × Item)

/-- What has been kept at an address. -/
inductive Node
  /-- A value into which nobody has gone yet. -/
  | whole (v : Value)
  | list (items : List Item)
  | table (entries : Attributes)
  /-- An object of a shape, with the address of the table of its attributes. -/
  | object (shape : Shape) (attributes : Nat)

/-- What is the same for all messages and can be given attributes. -/
inductive Holder
  | member (m : Member)
  | family (f : Family)
deriving DecidableEq, Repr

/-- The nodes by their addresses, what is kept under ids, and where members and families have their
attributes. -/
structure Store where
  nodes : Array Node
  ids : List (String × Item)
  given : List (Holder × Nat)

/-- What an item is, one level deep. -/
inductive Form
  | whole (v : Value)
  | list (items : List Item)
  | table (entries : Attributes)
  | object (shape : Shape) (attributes : Attributes)

/-- The family of what has a form. -/
def Form.family : Form → Family
  | whole v => v.family
  | list _ => .list
  | table _ => .dict
  | object shape _ => .shape shape

/-- The form of a value. -/
def Form.ofValue : Value → Form
  | .list vs => list (vs.map .value)
  | .dict es => table (es.map fun (n, v) => (n, .value v))
  | .object shape fields extras => object shape ((fields ++ extras).map fun (n, v) => (n, .value v))
  | v => whole v

namespace Store

/-- The store that keeps nothing. -/
def empty : Store := ⟨#[], [], []⟩

/-- The node at an address. -/
def node (s : Store) (a : Nat) : Node := s.nodes.getD a (.whole .null)

/-- The store with another node at an address. -/
def setNode (s : Store) (a : Nat) (n : Node) : Store := { s with nodes := s.nodes.setIfInBounds a n }

/-- Puts a value into the store.  It gets a node if it can change. -/
def allocate (s : Store) (v : Value) : Item × Store :=
  match v with
  | .list _ | .dict _ | .object .. => (.ref s.nodes.size, { s with nodes := s.nodes.push (.whole v) })
  | v => (.value v, s)

/-- Puts values into the store, one after the other. -/
def allocateAll (s : Store) : List Value → List Item × Store
  | [] => ([], s)
  | v :: vs =>
    let (x, s) := s.allocate v
    let (xs, s) := s.allocateAll vs
    (x :: xs, s)

/-- Puts named values into the store, one after the other. -/
def allocateEntries (s : Store) (es : Entries) : Attributes × Store :=
  let (xs, s) := s.allocateAll (es.map (·.2))
  ((es.map (·.1)).zip xs, s)

/-- Goes into a node: if it holds a whole value, the parts of the value get places of their own. -/
def enter (s : Store) (a : Nat) : Store :=
  match s.node a with
  | .whole (.list vs) => let (xs, s) := s.allocateAll vs; s.setNode a (.list xs)
  | .whole (.dict es) => let (xs, s) := s.allocateEntries es; s.setNode a (.table xs)
  | .whole (.object shape fields extras) =>
    let (xs, s) := s.allocateEntries (fields ++ extras)
    { s with nodes := s.nodes.push (.table xs) }.setNode a (.object shape s.nodes.size)
  | _ => s

/-- The store with a table for a member or a family, if there is none yet. -/
def enterHolder (s : Store) (h : Holder) (es : Attributes) : Store :=
  match s.given.lookup h with
  | some _ => s
  | none => { s with nodes := s.nodes.push (.table es), given := (h, s.nodes.size) :: s.given }

/-- Goes into an item: into what it refers to, or into the table of a member. -/
def enterItem (s : Store) : Item → Store
  | .ref a => s.enter a
  | .value v =>
    match v.member? with
    | some m =>
      s.enterHolder (.member m)
        (("__objclass__", .family v.family) :: v.memberTable.map fun (n, w) => (n, .value w))
    | none => s
  | _ => s

/-- The entries of the table at an address. -/
def table (s : Store) (a : Nat) : Attributes :=
  match s.node a with
  | .table es => es
  | _ => []

/-- The form of an item. -/
def form (s : Store) : Item → Form
  | .value v => .whole v
  | .family f => .whole (.inner f.ofFamily)
  | .bound f .. => .whole (.inner f)
  | .ref a =>
    match s.node a with
    | .whole v => .whole v
    | .list xs => .list xs
    | .table es => .table es
    | .object shape t => .object shape (s.table t)

/-- The family of an item. -/
def family (s : Store) (x : Item) : Family := (s.form x).family

/-- An object of a shape with these attributes, those of the shape as its fields. -/
def assemble (shape : Shape) (es : Entries) : Value :=
  .object shape (Entries.pick shape.fieldNames es) (es.filter fun e => !shape.fieldNames.contains e.1)

/-- The value of an item, unless it has been gone into for more than so many levels.  Of an object that has
been gone into, it has the attributes that are compared or written. -/
def readWithin (s : Store) : Nat → Item → Option Value
  | 0, x =>
    match s.form x with
    | .whole v => some v
    | _ => none
  | room + 1, x =>
    match s.form x with
    | .whole v => some v
    | .list xs => (xs.mapM (s.readWithin room)).map .list
    | .table es => (Entries.traverse (s.readWithin room) es).map .dict
    | .object shape es =>
      (Entries.traverse (s.readWithin room) (Entries.pick shape.writtenNames es)).map (assemble shape)

/-- The value of an item.  There is none for an item that contains itself. -/
def read (s : Store) (x : Item) : Option Value := s.readWithin Value.maxNesting x

/-- The value of an item as far as its own kind goes; what has been gone into is there without its parts. -/
def outline (s : Store) (x : Item) : Value :=
  match s.form x with
  | .whole v => v
  | .list _ => .list []
  | .table _ => .dict []
  | .object shape _ => .object shape [] []

/-- What is kept under an id. -/
def item (s : Store) (id : String) : Except Failure Item :=
  match s.ids.lookup id with
  | some x => .ok x
  | none => .error (.unknownId id)

/-- Keeps an item under an id. -/
def keep (s : Store) (id : String) (x : Item) : Store :=
  { s with ids := (id, x) :: s.ids.filter fun e => e.1 ≠ id }

/-- Keeps a value under an id. -/
def put (s : Store) (id : String) (v : Value) : Store :=
  let (x, s) := s.allocate v
  s.keep id x

/-- The message that is kept under an id. -/
def message (s : Store) (id : String) : Except Failure (Option Value) := (s.item id).map s.read

/-- The attribute that a member or a family has in its table. -/
def given? (s : Store) (h : Holder) (name : String) : Option Item :=
  (s.given.lookup h).bind fun t => (s.table t).lookup name

/-- Sets an attribute in the table at an address. -/
def setEntry (s : Store) (t : Nat) (name : String) (x : Item) : Store :=
  s.setNode t (.table (Entries.put name x (s.table t)))

/-- Gives an attribute to a member or a family. -/
def give (s : Store) (h : Holder) (name : String) (x : Item) : Store :=
  let s := s.enterHolder h []
  match s.given.lookup h with
  | some t => s.setEntry t name x
  | none => s

/-- What is there as a whole reads as it is, however deep it is. -/
theorem readWithin_whole {s : Store} {x : Item} {v : Value} (h : s.form x = .whole v) (room : Nat) :
    s.readWithin room x = some v := by
  cases room <;> simp [readWithin, h]

/-- An item is the value from which it was made. -/
theorem form_allocate (s : Store) (v : Value) : (s.allocate v).2.form (s.allocate v).1 = .whole v := by
  cases v <;> simp [allocate, form, node]

/-- What is kept under an id is found there. -/
theorem item_keep_self (s : Store) (id : String) (x : Item) : (s.keep id x).item id = .ok x := by
  simp [keep, item]

end Store

end RequestSamples.Session
