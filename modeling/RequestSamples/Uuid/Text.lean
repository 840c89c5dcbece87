import RequestSamples.Failure

/-!
# Ids given as text

An id may be given in its canonical form, without dashes, in braces, or as a name of its namespace.  What is
left of it must be 32 characters that are read as one number in base sixteen, and not as single digits: a
prefix, a sign, white space and underscores count among the 32.
-/

namespace RequestSamples.Uuid

/-- A text without the parts that equal a word. -/
def without (word s : String) : String := String.join (s.splitOn word)

/-- The characters of an id that is given as text. -/
def core (s : String) : List Char :=
  let cs := (without "uuid:" (without "urn:" s)).toList
  let brace (c : Char) : Bool := c = '\x7b' || c = '\x7d'
  let cs := ((cs.dropWhile brace).reverse.dropWhile brace).reverse
  cs.filter (· ≠ '-')

/-- The id that a text gives. -/
def parse (s : String) : Except Failure Uuid :=
  let cs := core s
  if cs.length ≠ 32 then .error .malformedUuid
  else match Numeral.readHex? cs with
    | some n => .ok ⟨BitVec.ofInt 128 n⟩
    | none => .error (.malformedHex (String.ofList cs))

end RequestSamples.Uuid
