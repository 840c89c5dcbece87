import RequestSamples.Text.Hex
import RequestSamples.Text.Printable

/-!
# Quoted text

The spelling of a text or of bytes inside a message about them.  Single quotes enclose it, unless it holds
single quotes and no double ones.  A backslash, the quote itself, line feed, carriage return and tab are
escaped by a letter, every other character that is not printable by its code in two, four or eight
hexadecimal digits.
-/

namespace RequestSamples.Text.Quoted

/-- The quote that encloses a text with these characters. -/
def mark (cs : List Char) : Char :=
  if cs.contains '\x27' && !cs.contains '"' then '"' else '\x27'

/-- The escapes that are written with a letter or with the character itself. -/
def short? (quote c : Char) : Option (List Char) :=
  if c = quote || c = '\\' then some ['\\', c]
  else if c = '\n' then some ['\\', 'n']
  else if c = '\r' then some ['\\', 'r']
  else if c = '\t' then some ['\\', 't']
  else none

/-- One character between quotes. -/
def escape (quote c : Char) : List Char :=
  match short? quote c with
  | some cs => cs
  | none =>
    if isPrintable c then [c]
    else if c.toNat < 0x100 then '\\' :: 'x' :: Hex.write 2 c.toNat
    else if c.toNat < 0x10000 then '\\' :: 'u' :: Hex.write 4 c.toNat
    else '\\' :: 'U' :: Hex.write 8 c.toNat

/-- A text between quotes. -/
def text (cs : List Char) : List Char :=
  let quote := mark cs
  quote :: cs.flatMap (escape quote) ++ [quote]

/-- One byte between quotes: only the printable bytes of ASCII are shown as characters. -/
def escapeByte (quote : Char) (b : UInt8) : List Char :=
  if b < 0x80 then escape quote (Char.ofNat b.toNat) else '\\' :: 'x' :: Hex.write 2 b.toNat

/-- Bytes between quotes, marked by a letter before them. -/
def bytes (bs : List UInt8) : List Char :=
  let quote := mark (bs.map fun b => Char.ofNat b.toNat)
  'b' :: quote :: bs.flatMap (escapeByte quote) ++ [quote]

end RequestSamples.Text.Quoted
