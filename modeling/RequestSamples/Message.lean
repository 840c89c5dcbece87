import RequestSamples.Value.Access

/-!
# Messages

Requests and the entries that they nest, made from their shapes.  A fresh object takes the defaults of its
shape; fields may be given by name.  A request tells its kind, its mandatory collections and which of them are
still empty.  The main fact is that the mandatory collections of a fresh request are all empty.
-/

namespace RequestSamples

/-- An object of this shape in which the given fields replace the defaults.  The first given field that the
shape lacks is refused, and so is any field called `self`. -/
def Shape.make (s : Shape) (given : Entries) : Except Failure Value :=
  match given.find? fun e => !s.fieldNames.contains e.1 with
  | some e =>
    if s = .request then .error (.noFields s)
    else if e.1 = "self" then .error (.selfField s)
    else .error (.unexpectedField s e.1)
  | none => do
    let fields ← s.fields.mapM fun f =>
      match given.get? f.name <|> f.default? with
      | some v => Except.ok (f.name, v)
      | none => .error (.missingField s f.name)
    return .object s fields []

/-- A fresh object of a shape that has a default for every field. -/
def Shape.fresh (s : Shape) : Value := .object s s.defaults []

/-- The fresh request of a kind: kinds without a shape of their own put their key into the generic one. -/
def ApiKey.skeleton (k : ApiKey) : Value :=
  if Shape.ofKey k = .generic then .object .generic [("api_key", .key k)] [] else (Shape.ofKey k).fresh

namespace Value

/-- The value is a request. -/
def isRequest : Value → Bool
  | object s _ _ => s.isRequest
  | _ => false

/-- The value is an object of this shape. -/
def hasShape (v : Value) (s : Shape) : Bool :=
  match v with
  | object t _ _ => t = s
  | _ => false

/-- The kind of a request. -/
def apiKey (v : Value) : Except Failure Value := v.field "api_key"

/-- The mandatory collections of a request. -/
def mandatory (v : Value) : Except Failure (List Value) := do
  (← v.field "mandatory").elements

/-- The mandatory collections of a request that are empty. -/
def emptyMandatory (v : Value) : Except Failure (List String) := do
  let names ← (← v.mandatory).mapM fun
    | text name => do return (name, (← v.field name).isTruthy)
    | w => .error (.attributeName w.typeName)
  return (names.filter fun e => !e.2).map (·.1)

end Value

/-- Making an object with no field given is making a fresh one. -/
theorem Shape.make_nil {s : Shape} (h : s ≠ .generic) : s.make [] = .ok s.fresh := by
  cases s <;> first | rfl | exact absurd rfl h

theorem ApiKey.skeleton_hasShape (k : ApiKey) : k.skeleton.hasShape (Shape.ofKey k) = true := by
  cases k <;> rfl

/-- A fresh request knows its kind. -/
theorem ApiKey.apiKey_skeleton (k : ApiKey) : k.skeleton.apiKey = .ok (.key k) := by
  cases k <;> rfl

/-- All mandatory collections of a fresh request are empty. -/
theorem ApiKey.emptyMandatory_skeleton (k : ApiKey) :
    k.skeleton.emptyMandatory = .ok (Shape.ofKey k).mandatory := by
  cases k <;> rfl

end RequestSamples
