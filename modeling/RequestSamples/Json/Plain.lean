import RequestSamples.Bytes.Base64
import RequestSamples.Json.Obstacle

/-!
# Plain data

A value made of nothing but what JSON knows: bytes become base64 text, ids their canonical text, request kinds
their wire ids and objects tables of their fields.
-/

namespace RequestSamples.Json

mutual

/-- The plain data of a value. -/
def plain : Value → Value
  | .bytes bs => .text (String.ofList (Base64.encode bs))
  | .uuid u => .text (String.ofList u.write)
  | .key k => .int k.id
  | .list vs | .tuple vs => .list (plainItems vs)
  | .dict es => .dict (plainEntries es)
  | .object s es xs => .dict (s.written (plainEntries es ++ plainEntries xs))
  | .null | .inner _ | .safety _ => .null
  | .bool b => .bool b
  | .int n => .int n
  | .float x => .float x
  | .text s => .text s
termination_by structural v => v

/-- The plain data of the items of a list. -/
def plainItems : List Value → List Value
  | [] => []
  | v :: vs => plain v :: plainItems vs
termination_by structural vs => vs

/-- The plain data of the entries of a table. -/
def plainEntries : List (String × Value) → List (String × Value)
  | [] => []
  | (n, v) :: es => (n, plain v) :: plainEntries es
termination_by structural es => es

end

/-- The plain data of a value, if it can be written. -/
def reduce (v : Value) : Except Failure Value := do
  writable v
  return plain v

theorem plainItems_eq_map (vs : List Value) : plainItems vs = vs.map plain := by
  induction vs with
  | nil => rfl
  | cons v vs ih => rw [plainItems, ih, List.map_cons]

theorem plainEntries_eq_map (es : List (String × Value)) :
    plainEntries es = es.map fun e => (e.1, plain e.2) := by
  induction es with
  | nil => rfl
  | cons e es ih => simp [plainEntries, ih]

end RequestSamples.Json
