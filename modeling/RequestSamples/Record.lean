import RequestSamples.Value.Access

/-!
# Records

A record has a key, a value and headers.  A record of the loose form holds whatever it is given; the strict
form turns texts into their UTF-8 form and the headers into a list.
-/

namespace RequestSamples

/-- A record.  Well-formed ones hold bytes or nothing as key and value, and pairs of a text and of bytes or
nothing as headers. -/
structure Record where
  key : Value
  value : Value
  headers : Value

namespace Record

/-- The record without key, value and headers. -/
def empty : Record := ⟨.null, .null, .list []⟩

/-- A text becomes its UTF-8 form. -/
def blob : Value → Value
  | .text s => .bytes (Bytes.ofText s)
  | v => v

/-- Headers as a list: none for null, the pairs of a table. -/
def headerList : Value → Except Failure Value
  | .null => .ok (.list [])
  | .dict es => .ok (.list (es.map fun (n, v) => .list [.text n, v]))
  | v => v.elements.map .list

/-- The record of a value, a key and headers, texts turned into bytes. -/
def make (value key headers : Value) : Except Failure Record := do
  return ⟨blob key, blob value, ← headerList headers⟩

/-- The headers, each as the list of its elements. -/
def headerRows (r : Record) : Except Failure (List (List Value)) := do
  (← r.headers.elements).mapM Value.elements

end Record

end RequestSamples
