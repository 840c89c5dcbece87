import RequestSamples.Value.Nesting
import RequestSamples.Value.Text

/-!
# Failures

Everything that can go wrong, by its cause.  The wording stands in one place, `Failure.message`, and so do the kinds of
error that report it, `Failure.kind`.
-/

namespace RequestSamples

/-- What a name source is asked for. -/
inductive Draw
  | name
  | uuid
deriving DecidableEq, Repr

/-- Why no version was chosen. -/
inductive Unresolved
  /-- The wanted version is not among the known ones. -/
  | outside (version : Value) (lowest highest : Int)
  /-- The peer did not advertise the request kind. -/
  | notAdvertised
  /-- The known and the advertised versions have none in common. -/
  | noneInCommon

/-- The two comparisons that choosing a common version makes. -/
inductive Comparison
  | less
  | greater
deriving DecidableEq, Repr

/-- The operations that want integers. -/
inductive Operation
  | exclusiveOr
  | shift
  | multiply
deriving DecidableEq, Repr

/-- A cause of failure. -/
inductive Failure
  /-- No request kind has this key, or the kind has no versions. -/
  | schemaUnknown (key : Value)
  /-- No version could be chosen. -/
  | versionUnresolved (key : Value) (cause : Unresolved)
  /-- A populator was given something that is no request of its shape. -/
  | shapeMismatch (expected : Shape) (actual : String)
  /-- A scripted name source has run out. -/
  | exhausted (draw : Draw)
  /-- A table of versions does not list the key. -/
  | unlisted (key : Value)
  /-- The range of known versions is empty. -/
  | emptyRange
  /-- A value cannot be the key of a table. -/
  | unhashable (typeName : String)
  /-- A value has no elements to run through. -/
  | notIterable (typeName : String)
  /-- The keys were to be listed, but the value has no elements. -/
  | notListable (typeName : String)
  /-- A pair was expected and a value without elements was found. -/
  | notPair (typeName : String)
  /-- A pair was expected and fewer elements were found. -/
  | shortPair (found : Nat)
  /-- A pair was expected and more elements were found. -/
  | longPair
  /-- A known version was compared with something that is no number. -/
  | incomparable (comparison : Comparison) (typeName : String)
  /-- An object was made with a field that its shape lacks. -/
  | unexpectedField (shape : Shape) (name : String)
  /-- An object was made with a field named like the object itself. -/
  | selfField (shape : Shape)
  /-- An object was made with fields although its shape has none. -/
  | noFields (shape : Shape)
  /-- An object was made without a field that has no default. -/
  | missingField (shape : Shape) (name : String)
  /-- A value has no such attribute. -/
  | noAttribute (typeName name : String)
  /-- A family has no such attribute. -/
  | noTrait (typeName name : String)
  /-- An enumeration has neither such an attribute nor such a member. -/
  | noMember (name : String)
  /-- A request kind does not tell who refers to it. -/
  | noReferences
  /-- A value has no place for an attribute that its family gives to all its values. -/
  | sharedAttribute (typeName name : String)
  /-- A value cannot have another value of one of its parts. -/
  | fixedPart (typeName name : String)
  /-- A member of an enumeration cannot have another value, or another name, or another fellow. -/
  | fixedMember (enumeration name : String)
  /-- A request kind cannot have another title. -/
  | fixedTitle
  /-- An id never changes. -/
  | fixedId
  /-- What something was taken from, and what a family is made of, never changes. -/
  | fixedOrigin
  /-- A family cannot have another member under one of its names. -/
  | fixedFellow (name : String)
  /-- A family cannot be given attributes. -/
  | fixedFamily (name typeName : String)
  /-- A family, a function or a member could be given an attribute, but on this one more depends than is modelled.
  The failure and its message are the model's own. -/
  | unfollowed (typeName name : String)
  /-- The name of a family must be a text. -/
  | familyName (family name typeName : String)
  /-- The families that a family extends must be given as a tuple. -/
  | familyBases (family typeName : String)
  /-- A value was to be put into a family, but no family was given. -/
  | notFamily (typeName : String)
  /-- The values of a family stay in it, and no others come into it. -/
  | closedFamily
  /-- A value cannot change between two families. -/
  | otherLayout (wanted actual : String)
  /-- A part was to be replaced by something of another kind. -/
  | otherKind (name wanted : String)
  /-- The attributes of an object were to be replaced by something that is no table. -/
  | notTable (typeName : String)
  /-- Something was called that is no method. -/
  | notCallable (typeName : String)
  /-- The name of an attribute is not a text. -/
  | attributeName (typeName : String)
  /-- A value has no length. -/
  | noLength (typeName : String)
  /-- Something other than bytes was to be written into a batch. -/
  | notBytes (typeName : String)
  /-- A batch was made of no records. -/
  | emptyBatch
  /-- An offset or a time stamp is not an integer. -/
  | notInteger
  /-- An offset or a time stamp does not fit into 64 bits. -/
  | tooLarge
  /-- A count or a length does not fit into 32 bits. -/
  | outOfRange
  /-- The clock shows an infinite time. -/
  | infiniteTime
  /-- The clock shows an undefined time. -/
  | undefinedTime
  /-- A negative number of random bits was asked for. -/
  | negativeBits
  /-- No number of the wanted range was drawn within `Names.Seeded.attempts` draws.  The bound and this message are
  the model's own: what is modelled goes on drawing. -/
  | undecided
  /-- Something that is run through has come to its end. -/
  | ranOut
  /-- Within a generator, something that is run through has come to its end. -/
  | ranOutWithin
  /-- The seed is not an integer. -/
  | malformedSeed (text : String)
  /-- The log level is neither a number nor a name. -/
  | malformedLevel (text : String)
  /-- A log level of digits is not a decimal number. -/
  | malformedNumber (text : String)
  /-- A log level has too many digits. -/
  | longNumber (digits : Nat)
  /-- Request kinds that no table decides about. -/
  | unclassified (names : List String)
  /-- Request kinds that more than one table decides about. -/
  | overlapping (names : List String)
  /-- A list has no item at an index that was to be read. -/
  | noItem
  /-- A list has no item at an index that was to be replaced. -/
  | noPlace
  /-- An index is greater than any list is long. -/
  | hugeIndex
  /-- The index of a list is no integer. -/
  | indexKind (typeName : String)
  /-- A value of this kind cannot be written. -/
  | unwritable (typeName : String)
  /-- A value is nested too deep. -/
  | tooDeep (descent : Descent)
  /-- An integer was to be shown that has too many digits. -/
  | longInteger
  /-- An integer was wanted on the right of an operation. -/
  | rightOperand (operation : Operation) (typeName : String)
  /-- An integer was wanted on the left of an operation. -/
  | leftOperand (operation : Operation) (typeName : String)
  /-- A number of digits is no integer. -/
  | notWhole (typeName : String)
  /-- A number of digits is far too large. -/
  | tooWide
  /-- A variable was set to something that is no text. -/
  | notText (typeName : String)
  /-- The name or the text of a variable has a null character. -/
  | nullCharacter
  /-- The name of a variable has an equals sign. -/
  | illegalVariable
  /-- A variable has no name. -/
  | namelessVariable
  /-- A text has the wrong number of digits for an id. -/
  | malformedUuid
  /-- A text that should give an id has something else among its digits. -/
  | malformedHex (text : String)
  /-- Nothing is kept under an id. -/
  | unknownId (id : String)

/-- Something that was given, or the reason why it could not be made. -/
abbrev Given (α : Type) := Except Failure α

/-- The sign of an operation. -/
def Operation.sign : Operation → String
  | exclusiveOr => "^"
  | shift => "<<"
  | multiply => "*"

/-- The activity in words, after a blank. -/
def Descent.words : Descent → String
  | reading => " while deserializing an object"
  | writing => " while serializing an object"
  | quoting => " while getting the repr of an object"
  | comparing => " in comparison"
  | entering => ""
  | calling => " while calling a Python object"

/-- The reason in words. -/
def Unresolved.message : Unresolved → String
  | .outside v low high =>
    "version " ++ v.plainText ++ " outside " ++ String.ofList (Numeral.write low) ++ ".." ++
      String.ofList (Numeral.write high)
  | .notAdvertised => "not advertised by peer"
  | .noneInCommon => "no version in common with peer"

namespace Failure

/-- A word in single quotes. -/
def inQuotes (s : String) : String := "'" ++ s ++ "'"

/-- A text in quotes, cut off after 200 characters. -/
def shortened (s : String) : String := String.ofList ((Value.text s).quoted.take 200)

/-- The failure in words. -/
def message : Failure → String
  | schemaUnknown k => "no request schema for api key " ++ k.quotedText
  | versionUnresolved k cause => k.plainText ++ ": " ++ cause.message
  | shapeMismatch expected actual => "populator expects " ++ expected.name ++ ", got " ++ actual
  | exhausted .name => "name"
  | exhausted .uuid => "uuid"
  | unlisted k => k.plainText
  | emptyRange => "range object index out of range"
  | unhashable t => "unhashable type: " ++ inQuotes t
  | notIterable t => inQuotes t ++ " object is not iterable"
  | notListable t => "Value after * must be an iterable, not " ++ t
  | notPair t => "cannot unpack non-iterable " ++ t ++ " object"
  | shortPair n => "not enough values to unpack (expected 2, got " ++ String.ofList (Numeral.write n) ++ ")"
  | longPair => "too many values to unpack (expected 2)"
  | incomparable .less t => "'<' not supported between instances of 'int' and " ++ inQuotes t
  | incomparable .greater t => "'>' not supported between instances of 'int' and " ++ inQuotes t
  | unexpectedField s n => s.name ++ ".__init__() got an unexpected keyword argument " ++ inQuotes n
  | selfField s => s.name ++ ".__init__() got multiple values for argument 'self'"
  | noFields s => s.name ++ "() takes no arguments"
  | missingField s n => s.name ++ ".__init__() missing 1 required positional argument: " ++ inQuotes n
  | noAttribute t n => inQuotes t ++ " object has no attribute " ++ inQuotes n
  | noTrait t n => "type object " ++ inQuotes t ++ " has no attribute " ++ inQuotes n
  | noMember n => n
  | noReferences => "This object has no __weakref__"
  | sharedAttribute t n => inQuotes t ++ " object attribute " ++ inQuotes n ++ " is read-only"
  | fixedPart t n => "attribute " ++ inQuotes n ++ " of " ++ inQuotes t ++ " objects is not writable"
  | fixedMember e n => "<enum " ++ inQuotes e ++ "> cannot set attribute " ++ inQuotes n
  | fixedTitle => "property 'title' of 'ApiKey' object has no setter"
  | fixedId => "UUID objects are immutable"
  | fixedOrigin => "readonly attribute"
  | fixedFellow n => "cannot reassign member " ++ inQuotes n
  | fixedFamily n t => "cannot set " ++ inQuotes n ++ " attribute of immutable type " ++ inQuotes t
  | unfollowed t n => "setting attribute " ++ inQuotes n ++ " of " ++ inQuotes t ++ " is not modelled"
  | familyName f n t => "can only assign string to " ++ f ++ "." ++ n ++ ", not " ++ inQuotes t
  | familyBases f t => "can only assign tuple to " ++ f ++ ".__bases__, not " ++ t
  | notFamily t => "__class__ must be set to a class, not " ++ inQuotes t ++ " object"
  | closedFamily => "__class__ assignment only supported for mutable types or ModuleType subclasses"
  | otherLayout wanted actual =>
    "__class__ assignment: " ++ inQuotes wanted ++ " object layout differs from " ++ inQuotes actual
  | otherKind n wanted => n ++ " must be set to a " ++ wanted ++ " object"
  | notTable t => "__dict__ must be set to a dictionary, not a " ++ inQuotes t
  | notCallable t => inQuotes t ++ " object is not callable"
  | attributeName t => "attribute name must be string, not " ++ inQuotes t
  | noLength t => "object of type " ++ inQuotes t ++ " has no len()"
  | notBytes t => "can't concat " ++ t ++ " to bytes"
  | emptyBatch => "a record batch must contain at least one record"
  | notInteger => "required argument is not an integer"
  | tooLarge => "int too large to convert"
  | outOfRange => "'i' format requires -2147483648 <= number <= 2147483647"
  | infiniteTime => "cannot convert float infinity to integer"
  | undefinedTime => "cannot convert float NaN to integer"
  | negativeBits => "number of bits must be non-negative"
  | undecided => "no number was drawn in time"
  | ranOut => ""
  | ranOutWithin => "generator raised StopIteration"
  | malformedSeed t => "KSAMPLE_SEED must be an integer, not " ++ (Value.text t).quotedText
  | malformedLevel t => "KSAMPLE_LOG_LEVEL is not a logging level: " ++ (Value.text t).quotedText
  | malformedNumber t =>
    "invalid literal for int() with base 10: " ++ shortened t
  | longNumber n =>
    "Exceeds the limit (4300 digits) for integer string conversion: value has " ++
      String.ofList (Numeral.write n) ++ " digits; use sys.set_int_max_str_digits() to increase the limit"
  | unclassified names => "api keys with no populator decision: " ++ String.intercalate ", " names
  | overlapping names => "api keys classified more than once: " ++ String.intercalate ", " names
  | noItem => "list index out of range"
  | noPlace => "list assignment index out of range"
  | hugeIndex => "cannot fit 'int' into an index-sized integer"
  | indexKind t => "list indices must be integers or slices, not " ++ t
  | unwritable t => "Encoding objects of type " ++ t ++ " is unsupported"
  | tooDeep descent => "maximum recursion depth exceeded" ++ descent.words
  | longInteger =>
    "Exceeds the limit (4300 digits) for integer string conversion; use sys.set_int_max_str_digits() to increase " ++
      "the limit"
  | rightOperand o t => "unsupported operand type(s) for " ++ o.sign ++ ": 'int' and " ++ inQuotes t
  | leftOperand o t => "unsupported operand type(s) for " ++ o.sign ++ ": " ++ inQuotes t ++ " and 'int'"
  | notWhole t => inQuotes t ++ " object cannot be interpreted as an integer"
  | tooWide => "Python int too large to convert to C int"
  | notText t => "str expected, not " ++ t
  | nullCharacter => "embedded null byte"
  | illegalVariable => "illegal environment variable name"
  | namelessVariable => "[Errno 22] Invalid argument"
  | malformedUuid => "badly formed hexadecimal UUID string"
  | malformedHex t => "invalid literal for int() with base 16: " ++ shortened t
  | unknownId id => (Value.text id).quotedText

/-- The kind of error that reports a failure. -/
def kind : Failure → String
  | schemaUnknown _ => "SchemaUnknown"
  | versionUnresolved .. => "VersionUnresolved"
  | shapeMismatch .. => "PopulatorShapeMismatch"
  | exhausted _ => "NamesExhausted"
  | unlisted _ => "Boom"
  | emptyRange | noItem | noPlace | hugeIndex => "IndexError"
  | unhashable _ | notIterable _ | notListable _ | notPair _ | incomparable .. | unexpectedField ..
  | missingField .. | attributeName _ | noLength _ | notBytes _ | selfField _ | noFields _
  | fixedId | notCallable _ | indexKind _ | unwritable _ | rightOperand .. | leftOperand ..
  | notWhole _ | notText _ | fixedFamily .. | familyName .. | familyBases .. | notFamily _
  | closedFamily | otherLayout .. | otherKind .. | notTable _ => "TypeError"
  | shortPair _ | longPair | emptyBatch | negativeBits | malformedSeed _ | malformedLevel _
  | malformedNumber _ | longNumber _ | longInteger | nullCharacter | illegalVariable | malformedUuid
  | malformedHex _ | undefinedTime => "ValueError"
  | noAttribute .. | noTrait .. | noMember _ | noReferences | sharedAttribute .. | fixedPart ..
  | fixedMember .. | fixedTitle | fixedOrigin | fixedFellow _ => "AttributeError"
  | tooDeep _ => "RecursionError"
  | namelessVariable => "OSError"
  | notInteger | tooLarge | outOfRange => "struct.error"
  | infiniteTime | tooWide => "OverflowError"
  | undecided | unclassified _ | overlapping _ | ranOutWithin => "RuntimeError"
  | ranOut => "StopIteration"
  | unknownId _ => "KeyError"
  | unfollowed .. => "NotImplementedError"

/-- The failure to show a value. -/
def unshown : Stop → Failure
  | .deep descent => tooDeep descent
  | .long => longInteger

/-- The failure whose wording shows a value, if the value can be shown. -/
def showing (v : Value) (e : Failure) : Failure := v.stop?.elim e unshown

theorem showing_of_stop? {v : Value} (h : v.stop? = none) (e : Failure) : showing v e = e := by
  rw [showing, h, Option.elim_none]

/-- What comes out of a generator when something in it has failed.  That something has come to its end is not let
out as such, since it would be taken for the end of the generator. -/
def escaping : Failure → Failure
  | ranOut => ranOutWithin
  | e => e

theorem escaping_of_ne {e : Failure} (h : e ≠ ranOut) : e.escaping = e := by
  cases e <;> first | rfl | exact absurd rfl h

end Failure

end RequestSamples
