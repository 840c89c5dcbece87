import RequestSamples.Tables

/-!
# Version resolvers

A resolver chooses the version of a request kind.  Any function will do; the ready-made ones choose the
latest or the oldest known version, a fixed one, the highest one shared with a peer, a constant, or one from
a list.
-/

namespace RequestSamples

/-- A choice of a version for each key, which may fail. -/
abbrev Resolver := Value → Except Failure Value

/-- Values found by keys, which are compared by what they denote. -/
abbrev KeyedValues := List (Value × Value)

namespace KeyedValues

/-- Replaces the value of a key, or adds it at the end. -/
def put (k v : Value) : KeyedValues → KeyedValues
  | [] => [(k, v)]
  | (j, w) :: rest => if j.same k then (j, v) :: rest else (j, w) :: put k v rest

/-- The values put one after the other; of one key the last stays. -/
def ofPairs (pairs : List (Value × Value)) : Except Failure KeyedValues :=
  pairs.foldlM (fun acc (k, v) => do return put (← k.hashable) v acc) []

/-- The value of a key. -/
def get? (t : KeyedValues) (k : Value) : Except Failure (Option Value) := do
  let k ← k.hashable
  return (t.find? fun e => e.1.same k).map (·.2)

theorem get?_of_hashable {k : Value} (h : k.isHashable = true) (t : KeyedValues) :
    t.get? k = .ok ((t.find? fun e => e.1.same k).map (·.2)) := by
  rw [get?, Value.hashable, if_pos h]
  rfl

end KeyedValues

/-- The known versions of a key, if there are any. -/
def Tables.someVersions (t : Tables) (k : Value) : Except Failure Versions := do
  let known ← t.supportedVersions k
  if known.isEmpty then throw .emptyRange
  return known

theorem Tables.someVersions_of_supported {t : Tables} {k : Value} {known : Versions}
    (h : t.supportedVersions k = .ok known) :
    t.someVersions k = if known.isEmpty then .error .emptyRange else .ok known := by
  rw [someVersions, h]
  show (if known.isEmpty = true then _ else _) = _
  cases known.isEmpty <;> rfl

/-- The comparison `n < v` or `n > v` of a known version with any value. -/
def Comparison.holds (c : Comparison) (n : Int) (v : Value) : Except Failure Bool :=
  match v.number? with
  | some q =>
    match c with
    | .less => .ok (Number.lt (.finite n) q)
    | .greater => .ok (q.lt (.finite n))
  | none => .error (.incomparable c v.typeName)

/-- The value denotes a smaller number than the other one. -/
def Value.isBelow (v w : Value) : Bool :=
  match v.number?, w.number? with
  | some p, some q => p.lt q
  | _, _ => false

namespace Resolver

/-- The highest known version. -/
def latest (t : Tables) : Resolver := fun k => do return .int (← t.someVersions k).highest

/-- The lowest known version. -/
def oldest (t : Tables) : Resolver := fun k => do return .int (← t.someVersions k).lowest

/-- One version for all kinds that know it. -/
def fixed (t : Tables) (version : Value) : Resolver := fun k => do
  let known ← t.supportedVersions k
  if known.contains version then return version
  if known.isEmpty then throw (.showing version .emptyRange)
  throw (.showing version (.showing (.int known.lowest) (.showing (.int known.highest)
    (.versionUnresolved k (.outside version known.lowest known.highest)))))

/-- The highest version that a peer shares, which advertises a lowest and a highest version for each kind. -/
def negotiated (t : Tables) (advertised : KeyedValues) : Resolver := fun k => do
  match ← advertised.get? k with
  | none => throw (.showing k (.versionUnresolved k .notAdvertised))
  | some bounds =>
    let (lowest, highest) ← bounds.pair
    let known ← t.someVersions k
    let highest := if ← Comparison.less.holds known.highest highest then .int known.highest else highest
    let lowest := if ← Comparison.greater.holds known.lowest lowest then .int known.lowest else lowest
    if highest.isBelow lowest then throw (.versionUnresolved k .noneInCommon)
    return highest

/-- Always the same version, known or not. -/
def constant (version : Value) : Resolver := fun _ => .ok version

/-- The versions of a list of keys. -/
def listed (versions : KeyedValues) : Resolver := fun k => do
  match ← versions.get? k with
  | some v => return v
  | none => throw (.showing k (.unlisted k))

end Resolver

end RequestSamples
