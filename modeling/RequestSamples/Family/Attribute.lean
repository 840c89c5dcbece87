import RequestSamples.Family

/-!
# Attributes that families give

The names that the values of a family answer to, whatever the value, and the family of the answer: the
operations that the family knows, its methods, and some things that tell about the family.  Parts that differ
from value to value are not among them.  A family itself answers to the names of its values as well, but with
what they have in common, and to a few names of its own.
-/

namespace RequestSamples.Family

/-- Names whose answers are all of one family. -/
def each (f : Family) (names : List String) : List (String × Family) := names.map (·, f)

/-- What the values of every family answer to. -/
def basic : List (String × Family) :=
  each operation [
    "__delattr__", "__eq__", "__ge__", "__getattribute__", "__gt__", "__hash__", "__init__", "__le__",
    "__lt__", "__ne__", "__repr__", "__setattr__", "__str__"] ++
  each builtin [
    "__dir__", "__format__", "__getstate__", "__init_subclass__", "__new__", "__reduce__", "__reduce_ex__",
    "__sizeof__", "__subclasshook__"] ++
  each text ["__doc__"]

/-- What numbers answer to. -/
def numeric : List (String × Family) :=
  each operation [
    "__abs__", "__add__", "__bool__", "__divmod__", "__float__", "__floordiv__", "__int__", "__mod__",
    "__mul__", "__neg__", "__pos__", "__pow__", "__radd__", "__rdivmod__", "__rfloordiv__", "__rmod__",
    "__rmul__", "__rpow__", "__rsub__", "__rtruediv__", "__sub__", "__truediv__"] ++
  each builtin [
    "__ceil__", "__floor__", "__getnewargs__", "__round__", "__trunc__", "as_integer_ratio", "conjugate"]

/-- What integers answer to. -/
def integral : List (String × Family) :=
  numeric ++
  each operation [
    "__and__", "__index__", "__invert__", "__lshift__", "__or__", "__rand__", "__rlshift__", "__ror__",
    "__rrshift__", "__rshift__", "__rxor__", "__xor__"] ++
  each builtin ["bit_count", "bit_length", "from_bytes", "to_bytes"]

/-- What sequences answer to. -/
def sequence : List (String × Family) :=
  each operation ["__add__", "__contains__", "__iter__", "__len__", "__mul__", "__rmul__"] ++
  each builtin ["count", "index"]

/-- What texts and bytes answer to. -/
def textual : List (String × Family) :=
  sequence ++
  each operation ["__getitem__", "__mod__", "__rmod__"] ++
  each builtin [
    "__getnewargs__", "capitalize", "center", "endswith", "expandtabs", "find", "isalnum", "isalpha",
    "isascii", "isdigit", "islower", "isspace", "istitle", "isupper", "join", "ljust", "lower", "lstrip",
    "maketrans", "partition", "removeprefix", "removesuffix", "replace", "rfind", "rindex", "rjust",
    "rpartition", "rsplit", "rstrip", "split", "splitlines", "startswith", "strip", "swapcase", "title",
    "translate", "upper", "zfill"]

/-- What members of an enumeration answer to. -/
def enumerated : List (String × Family) :=
  each method [
    "__copy__", "__deepcopy__", "__dir__", "__init__", "__new__", "__reduce_ex__", "__repr__", "__str__",
    "_generate_next_value_", "_missing_"] ++
  each dict ["_member_map_", "_value2member_map_"] ++
  each list ["_member_names_", "_unhashable_values_"] ++
  each text ["__module__"] ++ each null ["__doc__"] ++ each family ["_member_type_"] ++
  each bool ["_use_args_"] ++ each builtin ["_new_member_"] ++ each operation ["_value_repr_"]

/-- What objects answer to; the bare request was declared otherwise than the shapes with fields. -/
def declared (s : Shape) : List (String × Family) :=
  (if s.isRequest then each method ["to_dict", "encapsulate", "empty_mandatory"] else []) ++
  (if s = .request then []
    else
      each method ["__eq__", "__init__", "__repr__"] ++ each null ["__hash__"] ++
      each tuple ["__match_args__"] ++ each declaration ["__dataclass_params__"]) ++
  each text ["__module__"] ++ each dict ["__annotations__"]

/-- The names that families answer to on their own account.  They cannot be given another value. -/
def fixedTraits : List (String × Family) :=
  each tuple ["__mro__"] ++ each family ["__base__"] ++
  each int ["__basicsize__", "__dictoffset__", "__flags__", "__itemsize__", "__weakrefoffset__"]

/-- All names that families answer to on their own account. -/
def traits : List (String × Family) :=
  fixedTraits ++ each text ["__name__", "__qualname__", "__module__"] ++ each tuple ["__bases__"] ++
  each proxy ["__dict__"]

/-- The methods that families have on their own account. -/
def inquiries : List (String × Family) :=
  each builtin ["__instancecheck__", "__prepare__", "__subclasscheck__", "__subclasses__", "mro"]

/-- What enumerations answer to on their own account, and no other families. -/
def enumerationTraits : List (String × Family) :=
  each method [
    "__bool__", "__call__", "__contains__", "__getattr__", "__getitem__", "__iter__", "__len__",
    "__prepare__", "__reversed__", "_check_for_existing_members_", "_convert_", "_create_",
    "_find_data_repr_", "_find_data_type_", "_find_new_", "_get_mixins_"] ++
  each proxy ["__members__"]

/-- What the values of a family answer to beside what all values do. -/
def own : Family → List (String × Family)
  | shape s => declared s
  | kinds => enumerated ++ integral
  | safeties =>
    each text ["__doc__"] ++ each method ["__format__", "__hash__"] ++
    each null ["__weakref__", "_value_repr_"] ++ enumerated
  | null => each operation ["__bool__"] ++ each null ["__doc__"]
  | bool | int => integral
  | float => numeric ++ each builtin ["__getformat__", "fromhex", "hex", "is_integer"]
  | text =>
    textual ++ each builtin [
      "casefold", "encode", "format", "format_map", "isdecimal", "isidentifier", "isnumeric", "isprintable"]
  | bytes => textual ++ each builtin ["__bytes__", "decode", "fromhex", "hex"]
  | uuid =>
    each method [
      "__eq__", "__ge__", "__getstate__", "__gt__", "__hash__", "__init__", "__int__", "__le__", "__lt__",
      "__repr__", "__setattr__", "__setstate__", "__str__"] ++
    each text ["__module__"] ++ each tuple ["__slots__"] ++ each null ["__weakref__"]
  | list =>
    sequence ++
    each operation ["__delitem__", "__iadd__", "__imul__", "__setitem__"] ++
    each builtin [
      "__class_getitem__", "__getitem__", "__reversed__", "append", "clear", "copy", "extend", "insert",
      "pop", "remove", "reverse", "sort"] ++
    each null ["__hash__"]
  | tuple =>
    sequence ++ each operation ["__getitem__"] ++ each builtin ["__class_getitem__", "__getnewargs__"]
  | dict =>
    each operation ["__delitem__", "__ior__", "__iter__", "__len__", "__or__", "__ror__", "__setitem__"] ++
    each builtin [
      "__class_getitem__", "__contains__", "__getitem__", "__reversed__", "clear", "copy", "fromkeys", "get",
      "items", "keys", "pop", "popitem", "setdefault", "update", "values"] ++
    each null ["__hash__"]
  | method => each operation ["__call__"] ++ each function ["__func__"]
  | builtin =>
    each operation ["__call__"] ++ each text ["__name__", "__qualname__", "__text_signature__"] ++
    each null ["__module__"]
  | operation =>
    each operation ["__call__"] ++ each text ["__name__", "__qualname__", "__text_signature__"] ++
    each family ["__objclass__"]
  | function =>
    each operation ["__call__", "__get__"] ++ each text ["__module__", "__name__", "__qualname__"] ++
    each dict ["__annotations__", "__builtins__", "__dict__", "__globals__"] ++
    each null ["__closure__", "__defaults__", "__kwdefaults__"] ++ each code ["__code__"]
  | slot =>
    each operation ["__delete__", "__get__", "__set__"] ++ each text ["__name__", "__qualname__"] ++
    each family ["__objclass__"]
  | namedSlot =>
    each operation ["__delete__", "__get__", "__set__"] ++ each text ["__name__", "__qualname__"] ++
    each family ["__objclass__"] ++ each null ["__doc__"]
  | property =>
    each operation ["__delete__", "__get__", "__set__"] ++
    each builtin ["__set_name__", "deleter", "getter", "setter"] ++ each null ["__doc__", "fdel", "fset"] ++
    each bool ["__isabstractmethod__"] ++ each function ["fget"]
  | operationSlot | methodSlot =>
    each operation ["__call__", "__get__"] ++ each text ["__name__", "__qualname__", "__text_signature__"] ++
    each family ["__objclass__"]
  | declaration =>
    each method ["__init__", "__repr__"] ++ each text ["__module__"] ++ each tuple ["__slots__"] ++
    each null ["__doc__"] ++ each bool ["eq", "frozen", "init", "order", "repr", "unsafe_hash"]
  | proxy =>
    each operation [
      "__contains__", "__getitem__", "__ior__", "__iter__", "__len__", "__or__", "__ror__"] ++
    each builtin ["__class_getitem__", "__reversed__", "copy", "get", "items", "keys", "values"] ++
    each null ["__doc__", "__hash__"]
  | code =>
    each builtin ["_varname_from_oparg", "co_lines", "co_positions", "replace"] ++
    each text ["co_filename", "co_name", "co_qualname"] ++
    each bytes ["_co_code_adaptive", "co_code", "co_exceptiontable", "co_linetable", "co_lnotab"] ++
    each int [
      "co_argcount", "co_firstlineno", "co_flags", "co_kwonlyargcount", "co_nlocals", "co_posonlyargcount",
      "co_stacksize"] ++
    each tuple ["co_cellvars", "co_consts", "co_freevars", "co_names", "co_varnames"]
  | field =>
    each method ["__init__", "__repr__", "__set_name__"] ++ each text ["__module__"] ++
    each tuple ["__slots__"] ++ each null ["__doc__"]
  | object => []
  | family => traits ++ inquiries ++ each operation ["__call__", "__or__", "__ror__"]
  | enumeration => enumerationTraits ++ traits ++ inquiries ++ each operation ["__or__", "__ror__"]

/-- The family of what the values of a family answer to a name, unless it differs from value to value. -/
def attribute? (f : Family) (name : String) : Option Family := f.own.lookup name <|> basic.lookup name

/-- The names of the parts that the values of a family have, with what they are to the family. -/
def parts : Family → List (String × Family)
  | bool | int => each slot ["real", "imag", "numerator", "denominator"]
  | kinds => each slot ["real", "imag", "numerator", "denominator"] ++ each property ["title"]
  | float => each slot ["real", "imag"]
  | uuid =>
    each property [
      "bytes", "bytes_le", "clock_seq", "clock_seq_hi_variant", "clock_seq_low", "fields", "hex", "node",
      "time", "time_hi_version", "time_low", "time_mid", "urn", "variant", "version"] ++
    each namedSlot ["int", "is_safe"]
  | property => each namedSlot ["fdel", "fget", "fset"] ++ each slot ["__isabstractmethod__"]
  | method => each namedSlot ["__func__", "__self__"]
  | builtin => each slot ["__doc__", "__self__"]
  | operation => each slot ["__doc__", "__objclass__"] ++ each namedSlot ["__self__"]
  | slot | namedSlot | operationSlot | methodSlot =>
    each slot ["__doc__"] ++ each namedSlot ["__name__", "__objclass__"]
  | code =>
    each slot ["_co_code_adaptive", "co_cellvars", "co_code", "co_freevars", "co_lnotab", "co_varnames"] ++
    each namedSlot [
      "co_argcount", "co_consts", "co_exceptiontable", "co_filename", "co_firstlineno", "co_flags",
      "co_kwonlyargcount", "co_linetable", "co_name", "co_names", "co_nlocals", "co_posonlyargcount",
      "co_qualname", "co_stacksize"]
  | _ => []

/-- The parts of a function that stay as they are. -/
def fixedFunctionParts : List String := ["__builtins__", "__closure__", "__globals__"]

/-- The parts of a function that can be replaced, by something of which family, and whether they can be left
out. -/
def functionParts : List (String × Family × Bool) := [
  ("__name__", text, false), ("__qualname__", text, false), ("__code__", code, false),
  ("__annotations__", dict, true), ("__defaults__", tuple, true), ("__kwdefaults__", dict, true)]

/-- The names of methods that belong to the family and not to its values. -/
def shared : List String := [
  "__class_getitem__", "__getformat__", "__init_subclass__", "__new__", "__prepare__", "__subclasshook__",
  "_check_for_existing_members_", "_find_data_repr_", "_find_data_type_", "_find_new_", "_get_mixins_",
  "_missing_", "_new_member_", "from_bytes", "fromhex", "fromkeys", "maketrans"]

/-- What is to the family what is of family `f` to its values. -/
def unbound (name : String) (f : Family) : Family :=
  match f with
  | method => if shared.contains name && name ≠ "__new__" then method else function
  | operation => operationSlot
  | builtin => if shared.contains name then builtin else methodSlot
  | f => f

/-- The parameters for making a value of a family are known. -/
def isSigned : Family → Bool
  | float | list | tuple | method | function | code | property | object => true
  | _ => false

/-- The family of what a family itself answers to a name. -/
def trait? (f : Family) (name : String) : Option Family :=
  if name = "__weakref__" then if f.isDeclared then some slot else none
  else if name = "__annotations__" then if f.isDeclared then some dict else none
  else if name = "__text_signature__" then some (if f.isSigned then text else null)
  else
    traits.lookup name <|> f.parts.lookup name <|> (f.attribute? name).map (unbound name) <|>
      f.ofFamily.attribute? name

end RequestSamples.Family
