import RequestSamples.Session.Attribute

/-!
# Comparing kept messages

A comparison goes through two items in order, stops at the first difference, and fails when it has to go down
too far.  Parts that refer to one node are equal without being looked at, so that even messages that contain
themselves can be compared.  Objects are compared by the fields of their shape; one that has lost a field
falls back on what its shape gives it.
-/

namespace RequestSamples.Session

/-- The items are one and the same.  There is only one undefined number. -/
def Item.identical : Item → Item → Bool
  | value v, value w => v.isUndefined && w.isUndefined
  | ref a, ref b => a = b
  | family f, family g => f = g
  | bound f n x, bound g m y => f = g && n = m && x.identical y
  | _, _ => false

/-- Both comparisons, the second only if the first one finds no difference. -/
def bothEqual (first : Except Failure Bool) (second : Unit → Except Failure Bool) : Except Failure Bool :=
  match first with
  | .ok true => second ()
  | other => other

/-- The items are the same, or equal one level down. -/
def equalOr (below : Item → Item → Except Failure Bool) (x y : Item) : Except Failure Bool :=
  if x.identical y then .ok true else below x y

/-- The lists are equal item by item. -/
def equalAll (below : Item → Item → Except Failure Bool) : List Item → List Item → Except Failure Bool
  | [], ys => .ok ys.isEmpty
  | _ :: _, [] => .ok false
  | x :: xs, y :: ys => bothEqual (equalOr below x y) fun _ => equalAll below xs ys

/-- Every entry of the first table has an equal one in the second. -/
def equalEntries (below : Item → Item → Except Failure Bool) : Attributes → Attributes → Except Failure Bool
  | [], _ => .ok true
  | (n, x) :: es, fs =>
    match fs.lookup n with
    | some y => bothEqual (equalOr below x y) fun _ => equalEntries below es fs
    | none => .ok false

namespace Store

/-- The form of an item, also of one that is there as a whole. -/
def openForm (s : Store) (x : Item) : Form :=
  match s.form x with
  | .whole v => .ofValue v
  | form => form

/-- The fields of an object with these attributes. -/
def fieldsOf (s : Store) (shape : Shape) (es : Attributes) : Except Failure (List Item) :=
  shape.fieldNames.mapM fun name =>
    match es.lookup name <|> s.held? (.shape shape) name with
    | some x => .ok x
    | none => .error (.noAttribute shape.name name)

/-- The items are equal; at most `room` levels are gone down.  An object takes three of them. -/
def equalWithin (s : Store) (room : Nat) (x y : Item) : Except Failure Bool :=
  match s.openForm x, s.openForm y with
  | .whole v, .whole w => .ok (v.same w)
  | .list xs, .list ys =>
    if xs.length ≠ ys.length then .ok false
    else match room with
      | 0 => .error (.tooDeep .comparing)
      | room + 1 => equalAll (s.equalWithin room) xs ys
  | .table es, .table fs =>
    if es.length ≠ fs.length then .ok false
    else match room with
      | 0 => .error (.tooDeep .comparing)
      | room + 1 => equalEntries (s.equalWithin room) es fs
  | .object t es, .object u fs =>
    if t = u && t ≠ .request then
      match room with
      | 0 => .error (.tooDeep .comparing)
      | 1 => .error (.tooDeep .entering)
      | room + 2 => do
        let xs ← s.fieldsOf t es
        let ys ← s.fieldsOf u fs
        match room with
        | 0 => throw (.tooDeep .comparing)
        | room + 1 => equalAll (s.equalWithin room) xs ys
    else .ok false
  | _, _ => .ok false
termination_by structural room

/-- A message equals itself, but it has to have its fields for that. -/
def equalItself (s : Store) (x : Item) : Except Failure Bool :=
  match s.openForm x with
  | .object shape es => do
    let _ ← s.fieldsOf shape es
    return true
  | _ => .ok true

/-- The messages that are kept under two ids are equal.  The undefined number does not equal itself here. -/
def equal (s : Store) (a b : String) : Except Failure Bool := do
  let x ← s.item a
  let y ← s.item b
  if x.isUndefined then return false
  if x.identical y then s.equalItself x else s.equalWithin Value.maxNesting x y

end Store

end RequestSamples.Session
