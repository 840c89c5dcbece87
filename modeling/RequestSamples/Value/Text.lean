import RequestSamples.Decimal.Layout
import RequestSamples.Numeral
import RequestSamples.Shape.Fields
import RequestSamples.Text.Quoted

/-!
# The text of a value

Two texts of a value for use in messages.  The *quoted* text tells values of different kinds apart: texts
stand in quotes, a request kind shows its name and its id.  The *plain* text of a text is the text itself,
and a request kind shows its title.
-/

namespace RequestSamples.Value

/-- Texts with commas between them. -/
def commas : List (List Char) → List Char
  | [] => []
  | [t] => t
  | t :: ts => t ++ ',' :: ' ' :: commas ts

mutual

/-- The text that tells values of different kinds apart. -/
def quoted : Value → List Char
  | null => "None".toList
  | bool b => if b then "True".toList else "False".toList
  | int n => Numeral.write n
  | float x => Decimal.Layout.quoted.write x
  | text s => Text.Quoted.text s.toList
  | bytes bs => Text.Quoted.bytes bs
  | uuid u => "UUID(".toList ++ Text.Quoted.text u.write ++ [')']
  | key k => "<ApiKey.".toList ++ k.name.toList ++ ": ".toList ++ Numeral.write k.id ++ ['>']
  | list vs => '[' :: commas (quotedItems vs) ++ [']']
  | dict es => '\x7b' :: commas (quotedEntries es) ++ ['\x7d']
  | tuple vs => '(' :: commas (quotedItems vs) ++ (if vs.length = 1 then [',', ')'] else [')'])
  | object s es _ => s.name.toList ++ '(' :: commas (quotedFields es) ++ [')']
  | inner f => '<' :: f.name.toList ++ ['>']
  | safety s => '<' :: (safety s).typeName.toList ++ '.' :: s.name.toList ++ ['>']
termination_by structural v => v

/-- The texts of the items of a list. -/
def quotedItems : List Value → List (List Char)
  | [] => []
  | v :: vs => quoted v :: quotedItems vs
termination_by structural vs => vs

/-- The texts of the entries of a table. -/
def quotedEntries : List (String × Value) → List (List Char)
  | [] => []
  | (n, v) :: es => (Text.Quoted.text n.toList ++ ':' :: ' ' :: quoted v) :: quotedEntries es
termination_by structural es => es

/-- The texts of the fields of an object. -/
def quotedFields : List (String × Value) → List (List Char)
  | [] => []
  | (n, v) :: es => (n.toList ++ '=' :: quoted v) :: quotedFields es
termination_by structural es => es

end

/-- The text that shows a value as such. -/
def plain : Value → List Char
  | text s => s.toList
  | uuid u => u.write
  | key k => k.title.toList
  | v => quoted v

/-- The quoted text as a string. -/
def quotedText (v : Value) : String := String.ofList v.quoted

/-- The plain text as a string. -/
def plainText (v : Value) : String := String.ofList v.plain

example : (key .vote).quotedText = "<ApiKey.VOTE: 52>" := by decide +kernel
example : (key .vote).plainText = "Vote" := by decide +kernel
example :
    (list [text "it's", null, float (.ofDecimal false 1 16)]).quotedText = "[\"it's\", None, 1e+16]" := by
  decide +kernel

end RequestSamples.Value
