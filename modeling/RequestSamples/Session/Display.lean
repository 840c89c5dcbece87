import RequestSamples.Message.View
import RequestSamples.Session.Plain

/-!
# Showing kept messages

A kept request shows its data, its text and its empty collections through its methods, which need not be its
own: a method that was taken from another request shows what that one has.  Its request kind and its mandatory
collections are handed out as items, to be read when all is over: what happens inside them until then shows.
-/

namespace RequestSamples.Session.Store

/-- The request that a method of a request answers for.  What has been put in place of a method cannot be
called, unless it is a method itself. -/
def receiver (s : Store) (x : Item) (method : String) : Except Failure (Item × Store) := do
  match ← s.attributeOf x method with
  | (.bound .method _ owner, s) => return (owner, s)
  | (y, s) => throw (.notCallable (s.family y).name)

/-- The plain data that a method of a request gives. -/
def throughMethod (s : Store) (x : Item) (method : String) : Except Failure Value := do
  let (owner, s) ← s.receiver x method
  s.reduce owner

/-- The mandatory collections of a request that are empty. -/
def emptyMandatory (s : Store) (x : Item) : Except Failure (List String) := do
  let (collections, s) ← s.attributeOf x "mandatory"
  let (names, s) ← s.elements collections
  let named ← names.mapM fun
    | .value (.text name) => do
      let (y, s) ← s.attributeOf x name
      return (name, s.isTruthy y)
    | y => throw (.attributeName (s.family y).name)
  return (named.filter fun e => !e.2).map (·.1)

/-- What is shown of a request kind: the name that it has been given, if it is one at all. -/
def kindShown (s : Store) (x : Item) : Item :=
  match x with
  | .value (.key k) => (s.memberAttribute? (.kind k) "name").getD x
  | x => x

/-- What a request shows beside its data and its text; the store has gone into its mandatory collections. -/
def viewRequest (s : Store) (x : Item) : Except Failure (RequestView Item × Store) := do
  let (collections, s) ← s.attributeOf x "mandatory"
  let (mandatory, s) ← s.elements collections
  return ({
    emptyMandatory := do
      let (owner, s) ← s.receiver x "empty_mandatory"
      s.emptyMandatory owner
    apiKey := (s.attributeOf x "api_key").map fun (y, s) => s.kindShown y
    mandatory := mandatory }, s)

/-- What the message under an id shows, through the methods that it has if it is a request. -/
def view (s : Store) (id : String) : Except Failure (View Item × Store) := do
  let x ← s.item id
  let typeName := (s.family x).name
  match s.family x with
  | .shape shape =>
    if shape.isRequest then
      let (request, after) ← s.viewRequest x
      return (⟨typeName, s.throughMethod x "to_dict", (s.throughMethod x "encapsulate").map Json.write,
        some request⟩, after)
    else return (⟨typeName, s.reduce x, (s.reduce x).map Json.write, none⟩, s)
  | _ => return (⟨typeName, s.reduce x, (s.reduce x).map Json.write, none⟩, s)

end RequestSamples.Session.Store
