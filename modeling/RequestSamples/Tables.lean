import RequestSamples.KeySet
import RequestSamples.Populator
import RequestSamples.Versions

/-!
# Tables

What is known about the request kinds: which versions there are, and whether a kind has a populator, needs
none or is left out of the default run.  Each kind must be decided about exactly once.  Look-ups take any
value and accept those that denote a kind with known versions.
-/

namespace RequestSamples

/-- The tables that a run consults. -/
structure Tables where
  versions : ApiKey → Option Versions
  registry : ApiKey → Option Populator
  noPopulator : ApiKey → Bool
  excluded : ApiKey → Bool

namespace Tables

/-- The highest version of each kind. -/
def highestVersion : ApiKey → Int
  | .fetch => 16
  | .metadata => 12
  | .produce => 10
  | .offsetCommit | .offsetFetch | .joinGroup => 9
  | .listOffsets | .updateMetadata => 8
  | .leaderAndIsr | .createTopics => 7
  | .deleteTopics => 6
  | .leaveGroup | .syncGroup | .describeGroups => 5
  | .stopReplica | .findCoordinator | .heartbeat | .listGroups | .initProducerId | .offsetForLeaderEpoch
  | .addPartitionsToTxn | .describeConfigs | .describeLogDirs => 4
  | .controlledShutdown | .apiVersions | .addOffsetsToTxn | .endTxn | .txnOffsetCommit | .describeAcls
  | .createAcls | .deleteAcls | .createPartitions | .createDelegationToken | .describeDelegationToken
  | .alterPartition | .brokerRegistration => 3
  | .deleteRecords | .alterConfigs | .alterReplicaLogDirs | .saslAuthenticate | .renewDelegationToken
  | .expireDelegationToken | .deleteGroups | .electLeaders => 2
  | .saslHandshake | .writeTxnMarkers | .incrementalAlterConfigs | .describeClientQuotas
  | .alterClientQuotas | .describeQuorum | .updateFeatures | .describeCluster | .brokerHeartbeat => 1
  | .alterPartitionReassignments | .listPartitionReassignments | .offsetDelete
  | .describeUserScramCredentials | .alterUserScramCredentials | .vote | .beginQuorumEpoch
  | .endQuorumEpoch | .envelope | .fetchSnapshot | .describeProducers | .unregisterBroker
  | .describeTransactions | .listTransactions | .allocateProducerIds | .consumerGroupHeartbeat
  | .consumerGroupDescribe | .controllerRegistration | .getTelemetrySubscriptions | .pushTelemetry
  | .assignReplicasToDirs | .listClientMetricsResources | .describeTopicPartitions => 0

/-- The populators of the kinds that have one. -/
def populators : ApiKey → Option Populator
  | .produce => some .produce
  | .listOffsets => some .listOffsets
  | .offsetFetch => some .offsetFetch
  | .metadata => some .metadata
  | .updateMetadata => some .updateMetadata
  | .leaveGroup => some .leaveGroup
  | .describeGroups => some .describeGroups
  | .consumerGroupDescribe => some .consumerGroupDescribe
  | _ => none

/-- The kinds that are meaningful as default skeletons. -/
def populatorFree : List ApiKey := [
  .fetch, .leaderAndIsr, .stopReplica, .controlledShutdown, .findCoordinator, .joinGroup, .heartbeat,
  .syncGroup, .listGroups, .saslHandshake, .apiVersions, .addOffsetsToTxn, .endTxn, .describeLogDirs,
  .saslAuthenticate, .createDelegationToken, .renewDelegationToken, .expireDelegationToken,
  .describeDelegationToken, .alterPartitionReassignments, .listPartitionReassignments, .offsetDelete,
  .describeClientQuotas, .vote, .beginQuorumEpoch, .endQuorumEpoch, .describeQuorum, .alterPartition,
  .updateFeatures, .envelope, .fetchSnapshot, .describeCluster, .brokerRegistration, .brokerHeartbeat,
  .unregisterBroker, .listTransactions, .allocateProducerIds, .consumerGroupHeartbeat,
  .controllerRegistration, .getTelemetrySubscriptions, .pushTelemetry, .assignReplicasToDirs,
  .listClientMetricsResources]

/-- The kinds that report failures per nested entry, so that one generated instance says little. -/
def leftOut : List ApiKey := [
  .deleteGroups, .offsetCommit, .createTopics, .deleteTopics, .deleteRecords, .initProducerId,
  .createAcls, .describeAcls, .deleteAcls, .offsetForLeaderEpoch, .electLeaders, .addPartitionsToTxn,
  .writeTxnMarkers, .txnOffsetCommit, .describeConfigs, .alterConfigs, .incrementalAlterConfigs,
  .alterReplicaLogDirs, .createPartitions, .alterClientQuotas, .describeUserScramCredentials,
  .alterUserScramCredentials, .describeProducers, .describeTransactions, .describeTopicPartitions]

/-- The standard tables. -/
def standard : Tables where
  versions k := some ⟨0, highestVersion k⟩
  registry := populators
  noPopulator k := populatorFree.contains k
  excluded k := leftOut.contains k

/-- A function with another value at one place. -/
def update {α : Type} (f : ApiKey → α) (k : ApiKey) (a : α) : ApiKey → α := fun j => if j = k then a else f j

/-- The tables with other versions of a kind. -/
def setVersions (t : Tables) (k : ApiKey) (v : Option Versions) : Tables :=
  { t with versions := update t.versions k v }

/-- The tables with another populator of a kind. -/
def setPopulator (t : Tables) (k : ApiKey) (p : Option Populator) : Tables :=
  { t with registry := update t.registry k p }

/-- The tables in which a kind needs a populator or none. -/
def setNoPopulator (t : Tables) (k : ApiKey) (b : Bool) : Tables :=
  { t with noPopulator := update t.noPopulator k b }

/-- The tables in which a kind is left out or not. -/
def setExcluded (t : Tables) (k : ApiKey) (b : Bool) : Tables := { t with excluded := update t.excluded k b }

/-- The kind that a value denotes, if its versions are known. -/
def lookup (t : Tables) (v : Value) : Except Failure ApiKey :=
  match v.toKey? with
  | none => .error (.showing v (.schemaUnknown v))
  | some k => if (t.versions k).isSome then .ok k else .error (.schemaUnknown (.key k))

/-- Exactly the kinds with known versions are found. -/
theorem lookup_eq_ok {t : Tables} {v : Value} {k : ApiKey} :
    t.lookup v = .ok k ↔ v.toKey? = some k ∧ ∃ known, t.versions k = some known := by
  unfold lookup
  cases v.toKey? with
  | none => simp
  | some j =>
    simp only [Option.some.injEq, ← Option.isSome_iff_exists]
    constructor
    · intro h
      split at h
      · cases h
        exact ⟨rfl, ‹_›⟩
      · cases h
    · rintro ⟨rfl, h⟩
      rw [if_pos h]

/-- The shape of the requests of a kind. -/
def shape (t : Tables) (v : Value) : Except Failure Shape := do return Shape.ofKey (← t.lookup v)

/-- The fresh request of a kind. -/
def skeleton (t : Tables) (v : Value) : Except Failure Value := do return (← t.lookup v).skeleton

/-- The known versions of a kind. -/
def supportedVersions (t : Tables) (v : Value) : Except Failure Versions :=
  match v.toKey? with
  | none => .error (.showing v (.schemaUnknown v))
  | some k =>
    match t.versions k with
    | some r => .ok r
    | none => .error (.schemaUnknown (.key k))

/-- A value denotes a kind that the default run leaves out. -/
def isExcluded (t : Tables) (v : Value) : Except Failure Bool := do
  return ((← v.hashable).toKey?.map t.excluded).getD false

/-- The populator of the kind that a value denotes, or `noop`. -/
def populator (t : Tables) (v : Value) : Except Failure Populator := do
  return ((← v.hashable).toKey?.bind t.registry).getD .noop

/-- How often a kind is decided about. -/
def decisions (t : Tables) (k : ApiKey) : Nat :=
  (t.registry k).isSome.toNat + (t.noPopulator k).toNat + (t.excluded k).toNat

section

open KeySet (Program union intersection difference)
open KeySet.Program

/-- A new set of the kinds with a populator. -/
def registered (t : Tables) : Program Nat := make ⟨false, fun k => (t.registry k).isSome⟩

/-- The set of the kinds that no table decides about.  The sets of the kinds that need no populator and of those that
are left out stand at places. -/
def findUnclassified (t : Tables) (noPopulator excluded : Nat) : Program Nat := do
  let classified ← combine union (← combine union (← t.registered) noPopulator) excluded
  combine difference (← make ⟨false, fun _ => true⟩) classified

/-- The set of the kinds that more than one table decides about. -/
def findOverlapping (t : Tables) (noPopulator excluded : Nat) : Program Nat := do
  let registered ← t.registered
  let overlap ← combine intersection registered noPopulator
  let overlap ← unite overlap (← combine intersection noPopulator excluded)
  unite overlap (← combine intersection registered excluded)

/-- Names in alphabetical order. -/
def sortedNames (ks : List ApiKey) : List String := (ks.map ApiKey.name).mergeSort fun a b => a ≤ b

/-- Every kind is decided about exactly once. -/
def checkDecisions (t : Tables) (noPopulator excluded : Nat) : ExceptT Failure Program Unit := do
  let missing ← load (← t.findUnclassified noPopulator excluded)
  if !missing.members.isEmpty then throw (.unclassified (sortedNames missing.members))
  let doubled ← load (← t.findOverlapping noPopulator excluded)
  if !doubled.members.isEmpty then throw (.overlapping (sortedNames doubled.members))

end

/-- The sets of the tables, both frozen. -/
def sets (t : Tables) : List KeySet := [⟨true, t.noPopulator⟩, ⟨true, t.excluded⟩]

/-- The kinds that no table decides about. -/
def unclassified (t : Tables) : List ApiKey := ((t.findUnclassified 0 1 >>= KeySet.Program.load).run t.sets).1.members

/-- The kinds that more than one table decides about. -/
def overlapping (t : Tables) : List ApiKey := ((t.findOverlapping 0 1 >>= KeySet.Program.load).run t.sets).1.members

/-- Every kind is decided about exactly once. -/
def check (t : Tables) : Except Failure Unit := ((t.checkDecisions 0 1).run.run t.sets).1

/-- The kinds of the default run, by wire id. -/
def defaultKeys (t : Tables) : List ApiKey := ApiKey.all.filter fun k => !t.excluded k

theorem supportedVersions_eq (t : Tables) (v : Value) :
    t.supportedVersions v =
      (t.lookup v).bind fun k => (t.versions k).elim (.error (.schemaUnknown v)) .ok := by
  simp only [supportedVersions, lookup]
  cases v.toKey? with
  | none => rfl
  | some k => cases h : t.versions k <;> simp [Except.bind, h]

end Tables

end RequestSamples
