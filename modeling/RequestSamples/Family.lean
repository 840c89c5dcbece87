import RequestSamples.Shape

/-!
# Families

Every value belongs to a family, which says what kind of value it is and gives all its values some attributes
in common.  Requests and their entries have a family for each shape.  A family is something that can be met
itself, as the part of a value that tells its family; so there are families of families, and families of the
things that are bound to values and tell about them.
-/

namespace RequestSamples

/-- A family of values. -/
inductive Family
  /-- The objects of a shape. -/
  | shape (s : Shape)
  /-- The request kinds. -/
  | kinds
  /-- The degrees of safety of an id. -/
  | safeties
  | null | bool | int | float | text | bytes | uuid | list | tuple | dict
  /-- What can be called: methods of two sorts, operations, and functions that are bound to nothing. -/
  | method | builtin | operation | function
  /-- The code of a function. -/
  | code
  /-- Parts of values as their family sees them. -/
  | slot | namedSlot | property
  /-- Operations and methods of values as their family sees them. -/
  | operationSlot | methodSlot
  /-- How the objects of a shape, and their fields, were declared. -/
  | declaration | field
  /-- The attributes of a family. -/
  | proxy
  /-- The families, and the families whose values are members of an enumeration. -/
  | family | enumeration
  /-- Everything. -/
  | object
deriving DecidableEq, Repr

namespace Family

/-- The word for a family in messages about its values. -/
def name : Family → String
  | shape s => s.name
  | kinds => "ApiKey"
  | safeties => "SafeUUID"
  | null => "NoneType"
  | bool => "bool"
  | int => "int"
  | float => "float"
  | text => "str"
  | bytes => "bytes"
  | uuid => "UUID"
  | list => "list"
  | tuple => "tuple"
  | dict => "dict"
  | method => "method"
  | builtin => "builtin_function_or_method"
  | operation => "method-wrapper"
  | function => "function"
  | code => "code"
  | slot => "getset_descriptor"
  | namedSlot => "member_descriptor"
  | property => "property"
  | operationSlot => "wrapper_descriptor"
  | methodSlot => "method_descriptor"
  | declaration => "_DataclassParams"
  | field => "Field"
  | proxy => "mappingproxy"
  | family => "type"
  | enumeration => "EnumType"
  | object => "object"

/-- The family that a family belongs to. -/
def ofFamily : Family → Family
  | kinds | safeties => enumeration
  | _ => family

/-- The family that a family extends, of those that can be met. -/
def base? : Family → Option Family
  | shape s => if s.isRequest && s ≠ .request then some (shape .request) else some object
  | bool => some int
  | kinds | safeties | object => none
  | _ => some object

/-- Families that were declared beside the shapes can be given attributes; all others stay as they are. -/
def isDeclared : Family → Bool
  | shape _ | kinds | safeties | uuid => true
  | _ => false

/-- The values of a family can be called. -/
def isCallable : Family → Bool
  | method | builtin | operation | function => true
  | _ => false

/-- The family of the numbers of the members of an enumeration. -/
def memberFamily? : Family → Option Family
  | kinds => some int
  | safeties => some object
  | _ => none

/-- The values of a family tell about others, and what they tell is a part of them. -/
def isTelling : Family → Bool
  | method | builtin | operation | slot | namedSlot | operationSlot | methodSlot => true
  | _ => false

end Family

end RequestSamples
