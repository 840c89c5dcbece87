import RequestSamples.Batch
import RequestSamples.Message
import RequestSamples.Names.Source

/-!
# Populators

A populator turns a fresh request into a meaningful one: one topic, one partition, one member, and two
entries only where a list wants more than one.  It fits requests of one shape.  It draws from a source and
sets fields of the request one after the other; what it has drawn and set before a failure stays drawn and
set.
-/

namespace RequestSamples

/-- A way to fill requests; `noop` leaves them as they are. -/
inductive Populator
  | noop | produce | listOffsets | offsetFetch | metadata | updateMetadata | leaveGroup | describeGroups
  | consumerGroupDescribe
deriving DecidableEq, Repr

namespace Populator

/-- Every populator. -/
def all : List Populator := [
  noop, produce, listOffsets, offsetFetch, metadata, updateMetadata, leaveGroup, describeGroups,
  consumerGroupDescribe]

/-- The name of a populator. -/
def name : Populator → String
  | noop => "noop"
  | produce => "populate_produce"
  | listOffsets => "populate_list_offsets"
  | offsetFetch => "populate_offset_fetch"
  | metadata => "populate_metadata"
  | updateMetadata => "populate_update_metadata"
  | leaveGroup => "populate_leave_group"
  | describeGroups => "populate_describe_groups"
  | consumerGroupDescribe => "populate_consumer_group_describe"

/-- The populator with the given name. -/
def ofName? (s : String) : Option Populator := all.find? (·.name = s)

/-- The shape of the requests that a populator fits; `noop` fits everything. -/
def shape? : Populator → Option Shape
  | noop => none
  | produce => some .produce
  | listOffsets => some .listOffsets
  | offsetFetch => some .offsetFetch
  | metadata => some .metadata
  | updateMetadata => some .updateMetadata
  | leaveGroup => some .leaveGroup
  | describeGroups => some .describeGroups
  | consumerGroupDescribe => some .consumerGroupDescribe

/-- A fresh entry in which some fields have other values. -/
def entry (s : Shape) (fields : Entries) : Value :=
  .object s (fields.foldl (fun es (n, v) => Entries.put n v es) s.defaults) []

/-- The time stamp of generated records: fixed, so that a seeded run repeats. -/
def recordTimestamp : Value := .int 0

/-- The batch that holds a name as its only record. -/
def nameBatch (name : Value) : Except Failure Value := do
  let record ← Record.make name .null .null
  return .bytes (← Batch.encode (.int 0) recordTimestamp [record])

/-- What a populator has done so far: the state of the source that it draws from, and the fields that it has
set, in order. -/
structure Filling (σ : Type) where
  source : σ
  writes : Entries

/-- A computation that draws, sets fields and may fail. -/
abbrev Fill (σ : Type) := ExceptT Failure (StateM (Filling σ))

/-- Draws from the source. -/
def draw {σ α : Type} (d : Drawing σ α) : Fill σ α := fun f =>
  let (r, s) := d.on f.source
  (r, { f with source := s })

/-- Sets a field of the request. -/
def set {σ : Type} (name : String) (v : Value) : Fill σ Unit := fun f =>
  (.ok (), { f with writes := f.writes ++ [(name, v)] })

/-- The draws of a populator, and the fields that it sets. -/
def fill {σ : Type} (p : Populator) (source : NameSource σ) : Fill σ Unit :=
  match p with
  | noop => return ()
  | produce => do
    let name ← draw source.name
    let records ← liftM (nameBatch name)
    let partition := entry .partitionProduceData [("records", records)]
    set "acks" (.int (-1))
    set "topic_data" (.list [entry .topicProduceData [("partition_data", .list [partition])]])
  | listOffsets => do
    let partition := entry .listOffsetsPartition
      [("partition_index", .int 0), ("current_leader_epoch", .int 1)]
    let name ← draw source.name
    set "replica_id" (.int (-1))
    set "topics" (.list [entry .listOffsetsTopic [("name", name), ("partitions", .list [partition])]])
  | offsetFetch => do
    let name ← draw source.name
    let topic := entry .offsetFetchRequestTopic
      [("name", name), ("partition_indexes", .list [.int 0, .int 1])]
    let group ← draw source.name
    set "group_id" group
    set "topics" (.list [topic])
  | metadata => do
    let name ← draw source.name
    let id ← draw source.uuid
    set "topics" (.list [entry .metadataRequestTopic [("name", name), ("topic_id", id)]])
  | updateMetadata => do
    let id ← draw source.uuid
    set "topic_states" (.list [entry .updateMetadataTopicState [("topic_id", id)]])
  | leaveGroup => do
    let name ← draw source.name
    set "members" (.list [entry .memberIdentity [("member_id", name)]])
  | describeGroups => do
    let first ← draw source.name
    let second ← draw source.name
    set "groups" (.list [first, second])
  | consumerGroupDescribe => do
    let first ← draw source.name
    let second ← draw source.name
    set "group_ids" (.list [first, second])

/-- The populator fits a value. -/
def fits (p : Populator) (v : Value) : Except Failure Unit :=
  match p.shape? with
  | none => .ok ()
  | some s => if v.hasShape s then .ok () else .error (.shapeMismatch s v.typeName)

/-- The outcome of a populator on a value, and what it has drawn and set by then.  A value that it does not
fit stays untouched. -/
def run {σ : Type} (p : Populator) (source : NameSource σ) (v : Value) (s : σ) :
    Except Failure Unit × Filling σ :=
  match p.fits v with
  | .error e => (.error e, ⟨s, []⟩)
  | .ok () => (ExceptT.run (p.fill source)).run ⟨s, []⟩

/-- A value after some of its fields have been set. -/
def assign (writes : Entries) : Value → Value
  | .object s es extras => .object s (writes.foldl (fun es (n, v) => Entries.put n v es) es) extras
  | v => v

/-- Every populator but `noop` is made for the requests of one kind. -/
theorem shape?_isRequest {p : Populator} {s : Shape} (h : p.shape? = some s) : s.apiKey?.isSome = true := by
  cases p <;> simp [shape?] at h <;> subst h <;> rfl

end Populator

end RequestSamples
