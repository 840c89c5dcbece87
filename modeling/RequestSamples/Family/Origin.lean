import RequestSamples.Family.Attribute

/-!
# Where callables come from

What was taken from a value or from a family by name, and can be called or tells about a part, also tells
where it comes from: which family declared it, whether it is documented, and whether its parameters are known.
Families carry out some of the basic operations in a way of their own; all others go back to what every value
can do.
-/

namespace RequestSamples.Family

/-- The operations that compare. -/
def comparisons : List String := ["__eq__", "__ge__", "__gt__", "__le__", "__lt__", "__ne__"]

/-- The basic operations and methods for which a family has a way of its own. -/
def restated : Family → List String
  | int => ["__format__", "__getattribute__", "__hash__", "__new__", "__repr__", "__sizeof__"] ++ comparisons
  | float => ["__format__", "__getattribute__", "__hash__", "__new__", "__repr__"] ++ comparisons
  | text =>
    ["__format__", "__getattribute__", "__hash__", "__new__", "__repr__", "__sizeof__", "__str__"] ++
    comparisons
  | bytes => ["__getattribute__", "__hash__", "__new__", "__repr__", "__str__"] ++ comparisons
  | tuple => ["__getattribute__", "__hash__", "__new__", "__repr__"] ++ comparisons
  | list | dict => ["__getattribute__", "__init__", "__new__", "__repr__", "__sizeof__"] ++ comparisons
  | proxy => ["__getattribute__", "__new__", "__repr__", "__str__"] ++ comparisons
  | code => ["__getattribute__", "__hash__", "__new__", "__repr__", "__sizeof__"] ++ comparisons
  | method =>
    ["__delattr__", "__getattribute__", "__hash__", "__new__", "__reduce__", "__repr__", "__setattr__"] ++
    comparisons
  | builtin | operation => ["__getattribute__", "__hash__", "__reduce__", "__repr__"] ++ comparisons
  | namedSlot | operationSlot | methodSlot => ["__getattribute__", "__reduce__", "__repr__"]
  | slot => ["__getattribute__", "__repr__"]
  | property => ["__getattribute__", "__init__", "__new__"]
  | bool | null | function => ["__new__", "__repr__"]
  | _ => []

/-- A family has something for its own values, and not only because all values have it. -/
def states (f : Family) (name : String) : Bool :=
  if (basic.lookup name).isSome then f.restated.contains name
  else (f.own.lookup name <|> f.parts.lookup name).isSome

/-- The logical operations, which truth values carry out in a way of their own. -/
def logical : List String := ["__and__", "__or__", "__rand__", "__ror__", "__rxor__", "__xor__"]

/-- The family that declares what the values of a family answer to a name.  Truth values and request kinds are
integers. -/
def declarer (f : Family) (name : String) : Family :=
  match f with
  | family | enumeration => family
  | bool =>
    if logical.contains name || bool.restated.contains name then bool
    else if int.states name then int
    else object
  | kinds => if int.states name || name = "_value_repr_" then int else object
  | shape s =>
    if name = "__weakref__" && s.isRequest then shape .request
    else if f.states name || name = "__weakref__" then f
    else object
  | f => if f.states name || name = "__weakref__" then f else object

/-- The family that gives a family what it answers to a name: itself, or the one that it belongs to. -/
def giver (f : Family) (name : String) : Family :=
  if (traits.lookup name).isSome then f.ofFamily
  else if (f.parts.lookup name <|> f.attribute? name).isSome || name = "__weakref__" then f
  else f.ofFamily

/-- The methods that have a documentation. -/
def documented : List String := [
  "to_dict", "encapsulate", "empty_mandatory", "__bool__", "__call__", "__contains__", "__dir__",
  "__getattr__", "__getitem__", "__iter__", "__len__", "__reversed__", "_convert_", "_create_", "_find_new_",
  "_generate_next_value_", "_get_mixins_"]

/-- There is no documentation of what a family gives under a name. -/
def isUndocumented (f : Family) (name : String) : Bool :=
  match f.attribute? name with
  | some .method => !documented.contains name && !(f = uuid && name = "__init__")
  | _ =>
    name = "__getnewargs__" ||
    match f with
    | bool | int | kinds => name = "__format__"
    | method | builtin | operation | namedSlot | operationSlot | methodSlot => name = "__reduce__"
    | code => ["__sizeof__", "co_lines", "co_positions"].contains name
    | _ => false

/-- The parameters of what a family gives under a name are not known. -/
def isUnsigned (f : Family) (name : String) : Bool :=
  ["__class_getitem__", "__init_subclass__", "__prepare__", "__subclasshook__"].contains name ||
  match f with
  | bool | int | kinds => ["__ceil__", "__floor__", "__trunc__", "conjugate"].contains name
  | text => [
      "__getnewargs__", "count", "endswith", "find", "format", "format_map", "index", "rfind", "rindex",
      "startswith"].contains name
  | bytes => [
      "__getnewargs__", "capitalize", "count", "endswith", "find", "index", "isalnum", "isalpha", "isascii",
      "isdigit", "islower", "isspace", "istitle", "isupper", "lower", "rfind", "rindex", "startswith",
      "swapcase", "title", "upper"].contains name
  | list => name = "__getitem__"
  | dict =>
    ["__getitem__", "__sizeof__", "clear", "copy", "items", "keys", "update", "values"].contains name
  | builtin | operation | namedSlot | operationSlot | methodSlot => name = "__reduce__"
  | code => ["__sizeof__", "co_lines", "co_positions"].contains name
  | property => ["__set_name__", "deleter", "getter", "setter"].contains name
  | proxy => ["__reversed__", "copy", "get", "items", "keys", "values"].contains name
  | _ => false

end RequestSamples.Family
