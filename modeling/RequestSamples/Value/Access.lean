import RequestSamples.Failure
import RequestSamples.Value.Attribute

/-!
# Access to the parts of a value

Values take part in loops, pairs, tables and paths whatever their kind; each access says what is wrong when
the kind does not allow it.  Items of a list are found by indexes, which count from either end.
-/

namespace RequestSamples.Value

/-- The elements of a value. -/
def elements (v : Value) : Except Failure (List Value) :=
  match v.elements? with
  | some vs => .ok vs
  | none => .error (.notIterable v.typeName)

/-- The two elements of a pair. -/
def pair (v : Value) : Except Failure (Value × Value) :=
  match v.elements? with
  | some [a, b] => .ok (a, b)
  | some [] => .error (.shortPair 0)
  | some [_] => .error (.shortPair 1)
  | some _ => .error .longPair
  | none => .error (.notPair v.typeName)

/-- A value that can be the key of a table. -/
def hashable (v : Value) : Except Failure Value :=
  if v.isHashable then .ok v else .error (.unhashable v.typeName)

/-- The number of elements of a value. -/
def length (v : Value) : Except Failure Nat :=
  match v.elements? with
  | some vs => .ok vs.length
  | none => .error (.noLength v.typeName)

/-- The low eight bits of an integer. -/
def octet (v : Value) : Except Failure UInt8 :=
  match v.integer? with
  | some n => .ok (UInt8.ofNat (n % 256).toNat)
  | none => .error (.rightOperand .exclusiveOr v.typeName)

/-- The bytes that the elements of a value are, each taken modulo 256. -/
def octets (v : Value) : Except Failure Bytes := do (← v.elements).mapM octet

/-- The attribute of an object. -/
def field (v : Value) (name : String) : Except Failure Value :=
  match v.attribute? name with
  | some w => .ok w
  | none => .error (.noAttribute v.typeName name)

/-- The position that an index means in a list of `n` items: negative indexes count from the end. -/
def position? (n : Nat) (i : Int) : Option Nat :=
  let j := if i < 0 then i + n else i
  if 0 ≤ j && j < n then some j.toNat else none

/-- The index that a value is. -/
def index (v : Value) : Except Failure Int :=
  match v.integer? with
  | none => .error (.indexKind v.typeName)
  | some i => if -2 ^ 63 ≤ i && i < 2 ^ 63 then .ok i else .error .hugeIndex

/-- The item of a list at an index. -/
def item {α : Type} (xs : List α) (i : Value) : Except Failure α := do
  match (position? xs.length (← i.index)).bind (xs[·]?) with
  | some x => return x
  | none => throw .noItem

/-- The list with another item at an index. -/
def setItem {α : Type} (xs : List α) (i : Value) (x : α) : Except Failure (List α) := do
  match position? xs.length (← i.index) with
  | some j => return xs.set j x
  | none => throw .noPlace

end RequestSamples.Value
