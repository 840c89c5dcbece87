import RequestSamples.Log
import RequestSamples.Resolver

/-!
# Generated samples

A run goes through keys from left to right.  For each it makes the fresh request, fills it, asks for its
version and yields the sample; the first failure ends the run.  Nothing is done for a key before its turn.
The main fact is that a run over two lists of keys is the run over the first and then, unless that failed,
the run over the second.
-/

namespace RequestSamples

/-- A request and the version to write it in. -/
structure Sample where
  message : Value
  version : Value

/-- Which keys a run goes through. -/
inductive Selection
  /-- The keys of the default run. -/
  | everything
  /-- The elements of a value. -/
  | elementsOf (keys : Value)

namespace Selection

/-- The keys of a selection. -/
def keys (t : Tables) : Selection → Except Failure (List Value)
  | everything => .ok (t.defaultKeys.map .key)
  | elementsOf v => v.elements

/-- The selection for keys that need not be given: without any, everything. -/
def ofKeys : Value → Selection
  | .null => everything
  | keys => elementsOf keys

/-- The selection of listed keys. -/
def listed (keys : List Value) : Selection := ofKeys (.tuple keys)

end Selection

/-- The values that a value lists one by one. -/
def Value.listing (v : Value) : Except Failure (List Value) :=
  match v.elements? with
  | some vs => .ok vs
  | none => .error (.notListable v.typeName)

namespace Generator

/-- What the turn of one key has done. -/
structure Turn (σ : Type) where
  result : Except Failure Sample
  events : List Log.Event
  source : σ

/-- The turn of a key. -/
def turn {σ : Type} (t : Tables) (resolve : Resolver) (draws : NameSource σ) (key : Value) (s : σ) :
    Turn σ :=
  match t.lookup key with
  | .error e => ⟨.error e.escaping, [], s⟩
  | .ok k =>
    let asked := if t.excluded k then [.onRequest k] else []
    match ((t.registry k).getD .noop).run draws k.skeleton s with
    | (.error e, done) => ⟨.error e.escaping, asked, done.source⟩
    | (.ok (), done) =>
      match resolve (.key k) with
      | .error e => ⟨.error e.escaping, asked, done.source⟩
      | .ok version =>
        ⟨.ok ⟨Populator.assign done.writes k.skeleton, version⟩, asked ++ [.generated k version],
          done.source⟩

/-- What a run has done. -/
structure Run (σ : Type) where
  samples : List Sample
  failure : Option Failure
  events : List Log.Event
  source : σ

/-- The run over a list of keys. -/
def run {σ : Type} (t : Tables) (resolve : Resolver) (draws : NameSource σ) : List Value → σ → Run σ
  | [], s => ⟨[], none, [], s⟩
  | k :: ks, s =>
    let now := turn t resolve draws k s
    match now.result with
    | .error e => ⟨[], some e, now.events, now.source⟩
    | .ok sample =>
      let later := run t resolve draws ks now.source
      ⟨sample :: later.samples, later.failure, now.events ++ later.events, later.source⟩

/-- The run over a selection. -/
def runAll {σ : Type} (t : Tables) (resolve : Resolver) (draws : NameSource σ) (selection : Selection)
    (s : σ) : Run σ :=
  match selection.keys t with
  | .error e => ⟨[], some e, [], s⟩
  | .ok ks => run t resolve draws ks s

/-- Samples for the elements of `keys`, or for the keys of the default run if none are given. -/
def generate {σ : Type} (t : Tables) (resolve : Resolver) (draws : NameSource σ) (keys : Value) (s : σ) : Run σ :=
  runAll t resolve draws (.ofKeys keys) s

/-- Samples for every kind that is not left out of the default run. -/
def forAll {σ : Type} (t : Tables) (resolve : Resolver) (draws : NameSource σ) (s : σ) : Run σ :=
  generate t resolve draws .null s

/-- Samples for exactly the listed keys, in order. -/
def forKeys {σ : Type} (t : Tables) (resolve : Resolver) (draws : NameSource σ) (keys : List Value) (s : σ) :
    Run σ :=
  generate t resolve draws (.tuple keys) s

/-- How far a generator has got. -/
inductive Progress
  /-- Nothing has been asked for. -/
  | fresh (selection : Selection)
  /-- These keys are left. -/
  | ready (keys : List Value)
  /-- The keys have run out, a turn has failed, or the generator was closed. -/
  | over

/-- One step of a generator that has its source: the turn of the next key, if there is one. -/
def step {σ : Type} (t : Tables) (resolve : Resolver) (draws : NameSource σ) :
    Progress → σ → Progress × Option (Turn σ)
  | .over, _ => (.over, none)
  | .fresh selection, s =>
    match selection.keys t with
    | .error e => (.over, some ⟨.error e, [], s⟩)
    | .ok [] => (.over, none)
    | .ok (k :: ks) =>
      let now := turn t resolve draws k s
      (if now.result.isOk then .ready ks else .over, some now)
  | .ready [], _ => (.over, none)
  | .ready (k :: ks), s =>
    let now := turn t resolve draws k s
    (if now.result.isOk then .ready ks else .over, some now)

theorem run_append {σ : Type} (t : Tables) (resolve : Resolver) (draws : NameSource σ)
    (ks js : List Value) (s : σ) :
    run t resolve draws (ks ++ js) s =
      let first := run t resolve draws ks s
      match first.failure with
      | some _ => first
      | none =>
        let second := run t resolve draws js first.source
        ⟨first.samples ++ second.samples, second.failure, first.events ++ second.events,
          second.source⟩ := by
  induction ks generalizing s with
  | nil => simp [run]
  | cons k ks ih =>
    simp only [List.cons_append, run]
    cases (turn t resolve draws k s).result with
    | error e => rfl
    | ok sample =>
      simp only [ih]
      cases h : (run t resolve draws ks (turn t resolve draws k s).source).failure with
      | some e => simp [h]
      | none => simp

end Generator

end RequestSamples
