import RequestSamples.Family.Origin
import RequestSamples.Session.Store
import RequestSamples.Value.Attribute

/-!
# Attributes of kept messages

What an attribute of an item is.  An object answers for its own attributes, then for what its family has been
given, then for what its family gives to all its values; members of enumerations and families do the same.
Whatever can be called, or tells about a part, comes bound to what it was taken from, and goes on to answer
for that and to tell where it comes from.
-/

namespace RequestSamples.Session

namespace Item

/-- The answer of an item to a name under which its family has something of family `f`.  What can be called,
or tells about a part, stays bound to the item. -/
def answer (x : Item) (name : String) (f : Family) : Item :=
  if f = .null then value .null
  else if f.isCallable || f.isTelling then bound f name x
  else value (.inner f)

end Item

namespace Store

/-- What a family holds under a name: what it has been given, or what it has for all its values, or what the
family that it extends has been given. -/
def held? (s : Store) (f : Family) (name : String) : Option Item :=
  s.given? (.family f) name <|> (f.value? name).map .value <|>
    f.base?.bind fun base => s.given? (.family base) name

/-- The family of the numbers of its members, which an enumeration tells. -/
def memberFamily? (f : Family) (name : String) : Option Item :=
  if name = "_member_type_" then f.memberFamily?.map .family else none

/-- What a family gives to one of its values under a name. -/
def common? (s : Store) (x : Item) (f : Family) (name : String) : Option Item :=
  s.held? f name <|> memberFamily? f name <|> (f.attribute? name).map (x.answer name)

/-- The family that a family extends.  That of enumerations is one itself; nothing comes before everything. -/
def baseOf (f : Family) : Item :=
  match f.base? with
  | some g => .family g
  | none => .value (if f = .object then .null else .inner f.ofFamily)

/-- The attribute of a family itself. -/
def trait? (s : Store) (f : Family) (name : String) : Option Item :=
  if name = "__base__" then some (baseOf f)
  else s.held? f name <|> memberFamily? f name <|> (f.trait? name).map ((Item.family f).answer name)

/-- The attribute of the object at an address, where one has gone into it. -/
def objectAttribute? (s : Store) (a : Nat) (shape : Shape) (t : Nat) (name : String) : Option Item :=
  if name = "__dict__" then some (.ref t)
  else if name = "__weakref__" then some (.value .null)
  else (s.table t).lookup name <|> s.common? (.ref a) (.shape shape) name

/-- What a member of an enumeration has in its table under a name, or what the table is.  The name and the
number of a member are also told by names of their own. -/
def memberAttribute? (s : Store) (m : Member) (name : String) : Option Item :=
  if name = "__dict__" then (s.given.lookup (.member m)).map .ref
  else s.given? (.member m) (if name = "name" then "_name_" else if name = "value" then "_value_" else name)

/-- The attribute of a value that never changes. -/
def valueAttribute? (s : Store) (v : Value) (name : String) : Option Item :=
  let parts := (v.parts.get? name).map Item.value
  match v.member? with
  | some m => s.memberAttribute? m name <|> parts <|> s.common? (.value v) v.family name
  | none => parts <|> s.common? (.value v) v.family name

/-- The family that gives an item what it answers to a name. -/
def giver (s : Store) (x : Item) (name : String) : Family :=
  match x with
  | .family f => f.giver name
  | x => s.family x

/-- What something of family `f` answers for, if an owner that has it from family `g` answers to a name by it.
Whatever belongs to a family and not to its values answers for a family. -/
def subject (f g : Family) (taken : String) (owner : Item) : Item :=
  if f = .operation || !Family.shared.contains taken || f = .method && taken = "__new__" then owner
  else if taken = "maketrans" then .value .null
  else if taken = "_new_member_" then .family (g.memberFamily?.getD .object)
  else if taken = "__new__" then .family (g.declarer taken)
  else .family g

/-- What something of family `f` tells about where it comes from, if family `g` gives it under a name, and if
it does not tell what all of family `f` do. -/
def origin? (f g : Family) (taken name : String) : Option Item :=
  if (f.attribute? name).isNone then none
  else if name = "__objclass__" then some (.family (g.declarer taken))
  else if name = "__doc__" && g.isUndocumented taken then some (.value .null)
  else if name = "__text_signature__" && g.isUnsigned taken then some (.value .null)
  else none

/-- The attribute of something that was taken from an owner by name.  A method consists of a function and of
what it answers for, and answers for the function as well. -/
def boundAttribute? (s : Store) (f : Family) (taken : String) (owner : Item) (name : String) : Option Item :=
  let x : Item := .bound f taken owner
  let g := s.giver owner taken
  if name = "__self__" && f.isCallable && f ≠ .function then some (subject f g taken owner)
  else if name = "__func__" && f = .method then some (.bound .function taken (.family g))
  else origin? f g taken name <|> s.common? x f name <|>
    if f = .method then s.common? x .function name else none

/-- The attribute of an item, where one has gone into it. -/
def attributeOf? (s : Store) (x : Item) (name : String) : Option Item :=
  if name = "__class__" then some (.family (s.family x))
  else match x with
  | .value v => s.valueAttribute? v name
  | .family f => s.trait? f name
  | .bound f taken owner => s.boundAttribute? f taken owner name
  | .ref a => match s.node a with
    | .object shape t => s.objectAttribute? a shape t name
    | _ => s.common? x (s.family x) name

/-- Why an item does not answer to a name. -/
def lacking (s : Store) (x : Item) (name : String) : Failure :=
  match x with
  | .family f =>
    if f.ofFamily = .enumeration || name = "__abstractmethods__" then .noMember name
    else .noTrait f.name name
  | .value (.inner .enumeration) => .noMember name
  | .bound .method .. => .noAttribute Family.function.name name
  | .value (.key k) =>
    if name = "__weakref__" then .noReferences else .noAttribute (Value.key k).typeName name
  | x => .noAttribute (s.family x).name name

/-- The attribute of an item; the store has gone into the item. -/
def attributeOf (s : Store) (x : Item) (name : String) : Except Failure (Item × Store) :=
  let s := s.enterItem x
  match s.attributeOf? x name with
  | some y => .ok (y, s)
  | none => .error (s.lacking x name)

/-- The elements of an item; the store has gone into the item. -/
def elements (s : Store) (x : Item) : Except Failure (List Item × Store) := do
  let s := s.enterItem x
  match s.form x with
  | .list xs => return (xs, s)
  | .table es => return (es.map fun e => .value (.text e.1), s)
  | .whole v => return ((← v.elements).map .value, s)
  | .object shape _ => throw (.notIterable shape.name)

/-- The item is neither zero nor empty. -/
def isTruthy (s : Store) (x : Item) : Bool :=
  match s.form x with
  | .whole v => v.isTruthy
  | .list xs => !xs.isEmpty
  | .table es => !es.isEmpty
  | .object .. => true

end Store

end RequestSamples.Session
