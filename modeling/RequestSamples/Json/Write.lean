import RequestSamples.Bytes.Base64
import RequestSamples.Decimal.Layout
import RequestSamples.Json.Obstacle
import RequestSamples.Numeral

/-!
# JSON text of a value

The text has no blanks.  Objects and tables keep the order of their entries; bytes are base64 text, ids
their canonical text, request kinds their wire ids.  In texts the quote, the backslash and the control
characters are escaped, and all else stands as it is.
-/

namespace RequestSamples.Json

/-- The short escape of a character, if it has one. -/
def shortEscape? (c : Char) : Option Char :=
  if c = '"' then some '"'
  else if c = '\\' then some '\\'
  else if c = '\x08' then some 'b'
  else if c = '\x0c' then some 'f'
  else if c = '\n' then some 'n'
  else if c = '\r' then some 'r'
  else if c = '\t' then some 't'
  else none

/-- One character of a text. -/
def escape (c : Char) : List Char :=
  match shortEscape? c with
  | some e => ['\\', e]
  | none => if c.toNat < 0x20 then '\\' :: 'u' :: Text.Hex.write 4 c.toNat else [c]

/-- A text in quotes. -/
def writeText (cs : List Char) : List Char := '"' :: cs.flatMap escape ++ ['"']

/-- Texts with commas between them. -/
def joined : List (List Char) → List Char
  | [] => []
  | [t] => t
  | t :: ts => t ++ ',' :: joined ts

/-- Names and the texts of their values. -/
def members (es : List (String × List Char)) : List (List Char) :=
  es.map fun (n, t) => writeText n.toList ++ ':' :: t

mutual

/-- The text of a value, its numbers set out by `numbers`. -/
def writeWith (numbers : Decimal.Layout) : Value → List Char
  | .null => "null".toList
  | .bool b => if b then "true".toList else "false".toList
  | .int n => Numeral.write n
  | .float x => numbers.write x
  | .text s => writeText s.toList
  | .bytes bs => writeText (Base64.encode bs)
  | .uuid u => writeText u.write
  | .key k => Numeral.write k.id
  | .list vs | .tuple vs => '[' :: joined (writeItems numbers vs) ++ [']']
  | .dict es => '\x7b' :: joined (members (writeEntries numbers es)) ++ ['\x7d']
  | .object s es xs =>
    '\x7b' :: joined (members (s.written (writeEntries numbers es ++ writeEntries numbers xs))) ++ ['\x7d']
  | .inner _ | .safety _ => "null".toList
termination_by structural v => v

/-- The texts of the items of a list. -/
def writeItems (numbers : Decimal.Layout) : List Value → List (List Char)
  | [] => []
  | v :: vs => writeWith numbers v :: writeItems numbers vs
termination_by structural vs => vs

/-- The names of the entries of a table, with the texts of their values. -/
def writeEntries (numbers : Decimal.Layout) : List (String × Value) → List (String × List Char)
  | [] => []
  | (n, v) :: es => (n, writeWith numbers v) :: writeEntries numbers es
termination_by structural es => es

end

/-- The JSON text of a value. -/
def write (v : Value) : List Char := writeWith Decimal.Layout.json v

/-- The JSON text of a value, if it can be written. -/
def encode (v : Value) : Except Failure (List Char) := do
  writable v
  return write v

end RequestSamples.Json
