import RequestSamples.Family.Attribute
import RequestSamples.Shape.Fields
import RequestSamples.Uuid.Layout

/-!
# Attributes of values

What can be reached in a value by a name and is a value itself: the attributes of an object, the parts of
values of other kinds, and what a family holds for all its values.  Numbers answer for their parts, request
kinds for their spellings, ids for their digits and for the numbers of their layout, members of an enumeration
for each other.  An object answers for its fields, then for its further attributes, then for what its shape
gives all its objects.
-/

namespace RequestSamples

/-- The names that an object of a shape is written with, where it has them. -/
def Shape.writtenNames (s : Shape) : List String := s.attributes ++ s.fieldNames

/-- What a shape gives all its objects under a name: its request kind, its mandatory collections, the table of
the names that they are written with, and those defaults of its fields that are no lists. -/
def Shape.constant? (s : Shape) (name : String) : Option Value :=
  if name = "api_key" then s.apiKey?.map .key
  else if name = "mandatory" && s.isRequest then some (.tuple (s.mandatory.map .text))
  else if name = "__dataclass_fields__" && s ≠ .request then
    some (.dict (s.writtenNames.map fun n => (n, .inner .field)))
  else match (s.fields.find? (·.name = name)).bind (·.default?) with
    | some (.list _) => none
    | default? => default?

/-- The value that a family holds under a name: what a shape gives its objects, or a member. -/
def Family.value? : Family → String → Option Value
  | shape s, name => s.constant? name
  | kinds, name => (ApiKey.ofName? name).map .key
  | safeties, name => (Uuid.Safety.all.find? (·.name = name)).map .safety
  | _, _ => none

namespace Value

/-- The parts of an integer seen as a fraction and as a complex number. -/
def integerParts (n : Int) : Entries := [
  ("real", int n), ("imag", int 0), ("numerator", int n), ("denominator", int 1)]

/-- The digits of an id, the numbers of its layout, and what follows from them. -/
def idParts (u : Uuid) : Entries :=
  let digits := String.ofList (Text.Hex.write 32 u.bits.toNat)
  [("bytes", bytes u.bytes), ("bytes_le", bytes u.bytesReversed), ("hex", text digits),
    ("int", int u.bits.toNat), ("urn", text ("urn:uuid:" ++ String.ofList u.write)),
    ("fields", tuple (u.layout.map fun (n : Nat) => int n)), ("time_low", int u.timeLow),
    ("time_mid", int u.timeMid), ("time_hi_version", int u.timeHiVersion),
    ("clock_seq_hi_variant", int u.clockSeqHiVariant),
    ("clock_seq_low", int u.clockSeqLow), ("node", int u.node), ("time", int u.time),
    ("clock_seq", int u.clockSeq), ("variant", text u.variant.words),
    ("version", (u.version?.map fun (n : Nat) => int n).getD null), ("is_safe", safety .unknown)]

/-- The number of a degree of safety, if it has one. -/
def safetyNumber : Uuid.Safety → Value
  | .safe => int 0
  | .doubtful => int (-1)
  | .unknown => null

/-- What a member of an enumeration holds: its name, its number, and its place among its fellows. -/
def memberTable : Value → Entries
  | key k => [("_name_", text k.name), ("_value_", int k.id), ("_sort_order_", int (ApiKey.all.idxOf k))]
  | safety s =>
    [("_name_", text s.name), ("_value_", safetyNumber s),
      ("_sort_order_", int (Uuid.Safety.all.idxOf s : Nat))]
  | _ => []

/-- The attributes of a value that belong to it alone; those of an object are its own affair. -/
def parts : Value → Entries
  | bool b => integerParts (if b then 1 else 0)
  | int n => integerParts n
  | float x => [("real", float x), ("imag", float (.finite false 0 (-1074)))]
  | uuid u => idParts u
  | key k =>
    [("name", text k.name), ("value", int k.id), ("title", text k.title)] ++ integerParts k.id
  | safety s => [("name", text s.name), ("value", safetyNumber s)]
  | _ => []

/-- The attribute of an object. -/
def attribute? : Value → String → Option Value
  | object s fields extras, name => fields.lookup name <|> extras.lookup name <|> s.constant? name
  | _, _ => none

end Value

end RequestSamples
