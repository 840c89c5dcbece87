import RequestSamples.Generator
import RequestSamples.Json.Plain
import RequestSamples.Json.Write

/-!
# What messages show

A message shows its kind, its plain data and its JSON text; a request also shows which of its mandatory
collections are empty, its request kind and its mandatory collections.  Most parts may fail by themselves.
The request kind and the mandatory collections are handed out as they are, so that whoever keeps them can say
how.
-/

namespace RequestSamples

/-- What a request shows beside its data and its text. -/
structure RequestView (α : Type) where
  emptyMandatory : Except Failure (List String)
  apiKey : Except Failure α
  mandatory : List α

/-- What a value shows. -/
structure View (α : Type) where
  typeName : String
  data : Except Failure Value
  text : Except Failure (List Char)
  request : Option (RequestView α)

/-- The view in which what was handed out is put in another way. -/
def View.map {α β : Type} (f : α → β) (v : View α) : View β where
  typeName := v.typeName
  data := v.data
  text := v.text
  request := v.request.map fun r => ⟨r.emptyMandatory, r.apiKey.map f, r.mandatory.map f⟩

/-- What a sample shows. -/
structure SampleView where
  apiKey : Except Failure Value
  version : Value
  typeName : String
  text : Except Failure (List Char)
  emptyMandatory : Except Failure (List String)

/-- What a request shows beside its data and its text, unless its mandatory collections cannot be listed. -/
def Value.viewRequest (v : Value) : Except Failure (RequestView Value) := do
  return ⟨v.emptyMandatory, v.apiKey, ← v.mandatory⟩

/-- What a value shows. -/
def Value.view (v : Value) : Except Failure (View Value) := do
  let request ← if v.isRequest then some <$> v.viewRequest else pure none
  return ⟨v.typeName, Json.reduce v, Json.encode v, request⟩

/-- What a sample shows. -/
def Sample.view (s : Sample) : SampleView where
  apiKey := s.message.apiKey
  version := s.version
  typeName := s.message.typeName
  text := Json.encode s.message
  emptyMandatory := s.message.emptyMandatory

end RequestSamples
