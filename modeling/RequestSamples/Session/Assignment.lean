import RequestSamples.Session.Attribute

/-!
# Setting attributes of kept messages

An object takes any attribute.  It can also change its shape, and then keeps its attributes, or take another
table of attributes, which it may share with others from then on.  Members of enumerations and the families of
shapes take some, and keep them for all messages.  Others could be set as well, but on these more depends than
is modelled here, down to how objects are made and compared; then the failure is `unfollowed`.  Whatever else
there is stays as it is, and the failure says why.
-/

namespace RequestSamples.Session.Store

/-- Why a value of family `f` does not come into the family that `y` is. -/
def otherFamily (s : Store) (f : Family) (y : Item) : Failure :=
  match y with
  | .family g => if f.isDeclared && g.isDeclared then .otherLayout g.name f.name else .closedFamily
  | .value (.inner .family) => .closedFamily
  | y => .notFamily (s.family y).name

/-- A value of the family would take something else under a name, on which nothing modelled here depends. -/
def isLoose : Family → String → Bool
  | .declaration, name => ["init", "repr", "eq", "order", "unsafe_hash", "frozen"].contains name
  | .property, name => name = "__doc__"
  | _, _ => false

/-- Why a value of family `f` does not take `y` under a name. -/
def refusal (s : Store) (f : Family) (name : String) (y : Item) : Failure :=
  if name = "__class__" then s.otherFamily f y
  else if isLoose f name then .unfollowed f.name name
  else match f.parts.lookup name with
    | some .namedSlot => .fixedOrigin
    | some _ => .fixedPart (match f with | .bool | .kinds => Family.int.name | f => f.name) name
    | none => match f.attribute? name with
      | some g =>
        if f.isTelling && !g.isCallable then .fixedPart f.name name else .sharedAttribute f.name name
      | none => .noAttribute f.name name

/-- Lets the object at an address have another shape. -/
def reshape (s : Store) (a : Nat) (shape : Shape) (t : Nat) (y : Item) : Except Failure Store :=
  match y with
  | .family (.shape u) => .ok (s.setNode a (.object u t))
  | y => .error (s.otherFamily (.shape shape) y)

/-- The address of a table of attributes that something is to have from now on. -/
def tableAt (s : Store) (y : Item) : Except Failure (Nat × Store) :=
  let s := s.enterItem y
  match y, s.form y with
  | .ref t, .table _ => .ok (t, s)
  | y, _ => .error (.notTable (s.family y).name)

/-- Sets an attribute of the object at an address.  The table of a member does not become that of an object as
well. -/
def setObjectAttribute (s : Store) (a : Nat) (shape : Shape) (t : Nat) (name : String) (y : Item) :
    Except Failure Store :=
  if name = "__class__" then s.reshape a shape t y
  else if name = "__dict__" then do
    let (u, s) ← s.tableAt y
    if s.given.any (·.2 = u) then throw (.unfollowed shape.name name)
    return s.setNode a (.object shape u)
  else if name = "__weakref__" then
    .error (.fixedPart (if shape.isRequest then Shape.request.name else shape.name) name)
  else .ok (s.setEntry t name y)

/-- The name is one that families and members may have a use for themselves. -/
def isReserved (name : String) : Bool := name.toList.head? = some '_'

/-- A family keeps what it is given under a name, and no more depends on it than what its values answer. -/
def keeps : Family → String → Bool
  | .shape _, name => !isReserved name && name ≠ "api_key"
  | _, _ => false

/-- Sets an attribute of a member of an enumeration. -/
def setMemberAttribute (s : Store) (m : Member) (name : String) (y : Item) : Except Failure Store :=
  let f := m.value.family
  if name = "name" || name = "value" then .error (.fixedMember "Enum" name)
  else if name = "__weakref__" then .error (.fixedPart "Enum" name)
  else if name = "__class__" then
    match y with
    | .family g => if g = f then .ok s else .error (s.otherFamily f y)
    | y => .error (s.otherFamily f y)
  else if name = "__dict__" then do
    let _ ← s.tableAt y
    throw (.unfollowed f.name name)
  else if f = .kinds && name = "title" then .error .fixedTitle
  else if f = .safeties && (f.value? name).isSome then .error (.fixedMember f.name name)
  else if (f.parts.lookup name).isSome then .error (s.refusal f name y)
  else if isReserved name then .error (.unfollowed f.name name)
  else .ok (s.give (.member m) name y)

/-- Sets an attribute of a family. -/
def setTrait (s : Store) (f : Family) (name : String) (y : Item) : Except Failure Store :=
  if !f.isDeclared then .error (.fixedFamily name f.name)
  else if name = "__class__" then .error (s.otherFamily f.ofFamily y)
  else if f.ofFamily = .enumeration && (f.value? name).isSome then .error (.fixedFellow name)
  else if (name = "__name__" || name = "__qualname__") && s.family y ≠ .text then
    .error (.familyName f.name name (s.family y).name)
  else if name = "__bases__" && s.family y ≠ .tuple then .error (.familyBases f.name (s.family y).name)
  else if name = "__dict__" then .error (.fixedPart Family.family.name name)
  else if (Family.fixedTraits.lookup name).isSome then .error .fixedOrigin
  else if keeps f name then .ok (s.give (.family f) name y)
  else .error (.unfollowed f.name name)

/-- Why a function does not take something of family `g` under a name.  What it would take is not followed. -/
def functionRefusal (g : Family) (name : String) : Failure :=
  if Family.fixedFunctionParts.contains name then .fixedOrigin
  else if name = "__dict__" && g ≠ .dict then .notTable g.name
  else match Family.functionParts.lookup name with
    | some (f, optional) =>
      if g = f || optional && g = .null then .unfollowed Family.function.name name
      else .otherKind name (if f = .text then "string" else f.name)
    | none => .unfollowed Family.function.name name

/-- Sets an attribute of something that can be called.  Hardly any can be set, and that of a built-in method is
gone with the method itself, which is made anew whenever it is asked for. -/
def setBoundAttribute (s : Store) (f : Family) (name : String) (y : Item) : Except Failure Store :=
  if f = .function then
    .error (if name = "__class__" then s.otherFamily .function y else functionRefusal (s.family y) name)
  else if f = .builtin && name = "__module__" then .ok s
  else if f = .builtin && name = "__self__" then .error (.fixedPart f.name name)
  else if f.isCallable && name = "__self__" || f = .method && name = "__func__" then .error .fixedOrigin
  else .error (s.refusal f name y)

/-- Sets an attribute of an item. -/
def setAttribute (s : Store) (x : Item) (name : String) (y : Item) : Except Failure Store :=
  let s := s.enterItem x
  match x with
  | .ref a => match s.node a with
    | .object shape t => s.setObjectAttribute a shape t name y
    | _ => .error (s.refusal (s.family x) name y)
  | .value (.uuid _) => .error .fixedId
  | .value v => match v.member? with
    | some m => s.setMemberAttribute m name y
    | none => .error (s.refusal v.family name y)
  | .family f => s.setTrait f name y
  | .bound f .. => s.setBoundAttribute f name y

end RequestSamples.Session.Store
