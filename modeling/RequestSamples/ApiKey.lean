/-!
# Request kinds

The closed list of request kinds of the broker protocol, in the order of their wire ids: the id of a kind is
its position.  A kind has two spellings, made of the same words: `LEADER_AND_ISR`, its name, and
`LeaderAndIsr`, its title.  The main facts are that ids and kinds determine each other.
-/

namespace RequestSamples

/-- A request kind. -/
inductive ApiKey
  | produce | fetch | listOffsets | metadata | leaderAndIsr | stopReplica | updateMetadata
  | controlledShutdown | offsetCommit | offsetFetch | findCoordinator | joinGroup | heartbeat
  | leaveGroup | syncGroup | describeGroups | listGroups | saslHandshake | apiVersions | createTopics
  | deleteTopics | deleteRecords | initProducerId | offsetForLeaderEpoch | addPartitionsToTxn
  | addOffsetsToTxn | endTxn | writeTxnMarkers | txnOffsetCommit | describeAcls | createAcls | deleteAcls
  | describeConfigs | alterConfigs | alterReplicaLogDirs | describeLogDirs | saslAuthenticate
  | createPartitions | createDelegationToken | renewDelegationToken | expireDelegationToken
  | describeDelegationToken | deleteGroups | electLeaders | incrementalAlterConfigs
  | alterPartitionReassignments | listPartitionReassignments | offsetDelete | describeClientQuotas
  | alterClientQuotas | describeUserScramCredentials | alterUserScramCredentials | vote
  | beginQuorumEpoch | endQuorumEpoch | describeQuorum | alterPartition | updateFeatures | envelope
  | fetchSnapshot | describeCluster | describeProducers | brokerRegistration | brokerHeartbeat
  | unregisterBroker | describeTransactions | listTransactions | allocateProducerIds
  | consumerGroupHeartbeat | consumerGroupDescribe | controllerRegistration | getTelemetrySubscriptions
  | pushTelemetry | assignReplicasToDirs | listClientMetricsResources | describeTopicPartitions
deriving DecidableEq, Repr

namespace ApiKey

instance : Inhabited ApiKey := ⟨produce⟩

/-- The wire id. -/
def id (k : ApiKey) : Nat := k.ctorIdx

/-- Every kind, by wire id. -/
def all : List ApiKey := [
  .produce, .fetch, .listOffsets, .metadata, .leaderAndIsr, .stopReplica, .updateMetadata,
  .controlledShutdown, .offsetCommit, .offsetFetch, .findCoordinator, .joinGroup, .heartbeat,
  .leaveGroup, .syncGroup, .describeGroups, .listGroups, .saslHandshake, .apiVersions, .createTopics,
  .deleteTopics, .deleteRecords, .initProducerId, .offsetForLeaderEpoch, .addPartitionsToTxn,
  .addOffsetsToTxn, .endTxn, .writeTxnMarkers, .txnOffsetCommit, .describeAcls, .createAcls, .deleteAcls,
  .describeConfigs, .alterConfigs, .alterReplicaLogDirs, .describeLogDirs, .saslAuthenticate,
  .createPartitions, .createDelegationToken, .renewDelegationToken, .expireDelegationToken,
  .describeDelegationToken, .deleteGroups, .electLeaders, .incrementalAlterConfigs,
  .alterPartitionReassignments, .listPartitionReassignments, .offsetDelete, .describeClientQuotas,
  .alterClientQuotas, .describeUserScramCredentials, .alterUserScramCredentials, .vote,
  .beginQuorumEpoch, .endQuorumEpoch, .describeQuorum, .alterPartition, .updateFeatures, .envelope,
  .fetchSnapshot, .describeCluster, .describeProducers, .brokerRegistration, .brokerHeartbeat,
  .unregisterBroker, .describeTransactions, .listTransactions, .allocateProducerIds,
  .consumerGroupHeartbeat, .consumerGroupDescribe, .controllerRegistration, .getTelemetrySubscriptions,
  .pushTelemetry, .assignReplicasToDirs, .listClientMetricsResources, .describeTopicPartitions]

/-- The kind with the given wire id. -/
def ofId? (n : Nat) : Option ApiKey := all[n]?

/-- The words of the spellings. -/
def words : ApiKey → List String
  | .produce => ["produce"]
  | .fetch => ["fetch"]
  | .listOffsets => ["list", "offsets"]
  | .metadata => ["metadata"]
  | .leaderAndIsr => ["leader", "and", "isr"]
  | .stopReplica => ["stop", "replica"]
  | .updateMetadata => ["update", "metadata"]
  | .controlledShutdown => ["controlled", "shutdown"]
  | .offsetCommit => ["offset", "commit"]
  | .offsetFetch => ["offset", "fetch"]
  | .findCoordinator => ["find", "coordinator"]
  | .joinGroup => ["join", "group"]
  | .heartbeat => ["heartbeat"]
  | .leaveGroup => ["leave", "group"]
  | .syncGroup => ["sync", "group"]
  | .describeGroups => ["describe", "groups"]
  | .listGroups => ["list", "groups"]
  | .saslHandshake => ["sasl", "handshake"]
  | .apiVersions => ["api", "versions"]
  | .createTopics => ["create", "topics"]
  | .deleteTopics => ["delete", "topics"]
  | .deleteRecords => ["delete", "records"]
  | .initProducerId => ["init", "producer", "id"]
  | .offsetForLeaderEpoch => ["offset", "for", "leader", "epoch"]
  | .addPartitionsToTxn => ["add", "partitions", "to", "txn"]
  | .addOffsetsToTxn => ["add", "offsets", "to", "txn"]
  | .endTxn => ["end", "txn"]
  | .writeTxnMarkers => ["write", "txn", "markers"]
  | .txnOffsetCommit => ["txn", "offset", "commit"]
  | .describeAcls => ["describe", "acls"]
  | .createAcls => ["create", "acls"]
  | .deleteAcls => ["delete", "acls"]
  | .describeConfigs => ["describe", "configs"]
  | .alterConfigs => ["alter", "configs"]
  | .alterReplicaLogDirs => ["alter", "replica", "log", "dirs"]
  | .describeLogDirs => ["describe", "log", "dirs"]
  | .saslAuthenticate => ["sasl", "authenticate"]
  | .createPartitions => ["create", "partitions"]
  | .createDelegationToken => ["create", "delegation", "token"]
  | .renewDelegationToken => ["renew", "delegation", "token"]
  | .expireDelegationToken => ["expire", "delegation", "token"]
  | .describeDelegationToken => ["describe", "delegation", "token"]
  | .deleteGroups => ["delete", "groups"]
  | .electLeaders => ["elect", "leaders"]
  | .incrementalAlterConfigs => ["incremental", "alter", "configs"]
  | .alterPartitionReassignments => ["alter", "partition", "reassignments"]
  | .listPartitionReassignments => ["list", "partition", "reassignments"]
  | .offsetDelete => ["offset", "delete"]
  | .describeClientQuotas => ["describe", "client", "quotas"]
  | .alterClientQuotas => ["alter", "client", "quotas"]
  | .describeUserScramCredentials => ["describe", "user", "scram", "credentials"]
  | .alterUserScramCredentials => ["alter", "user", "scram", "credentials"]
  | .vote => ["vote"]
  | .beginQuorumEpoch => ["begin", "quorum", "epoch"]
  | .endQuorumEpoch => ["end", "quorum", "epoch"]
  | .describeQuorum => ["describe", "quorum"]
  | .alterPartition => ["alter", "partition"]
  | .updateFeatures => ["update", "features"]
  | .envelope => ["envelope"]
  | .fetchSnapshot => ["fetch", "snapshot"]
  | .describeCluster => ["describe", "cluster"]
  | .describeProducers => ["describe", "producers"]
  | .brokerRegistration => ["broker", "registration"]
  | .brokerHeartbeat => ["broker", "heartbeat"]
  | .unregisterBroker => ["unregister", "broker"]
  | .describeTransactions => ["describe", "transactions"]
  | .listTransactions => ["list", "transactions"]
  | .allocateProducerIds => ["allocate", "producer", "ids"]
  | .consumerGroupHeartbeat => ["consumer", "group", "heartbeat"]
  | .consumerGroupDescribe => ["consumer", "group", "describe"]
  | .controllerRegistration => ["controller", "registration"]
  | .getTelemetrySubscriptions => ["get", "telemetry", "subscriptions"]
  | .pushTelemetry => ["push", "telemetry"]
  | .assignReplicasToDirs => ["assign", "replicas", "to", "dirs"]
  | .listClientMetricsResources => ["list", "client", "metrics", "resources"]
  | .describeTopicPartitions => ["describe", "topic", "partitions"]

/-- The spelling in capitals, its words joined by underscores. -/
def name (k : ApiKey) : String := String.intercalate "_" (k.words.map String.toUpper)

/-- The spelling with each word capitalized. -/
def title (k : ApiKey) : String := String.join (k.words.map String.capitalize)

/-- The kind with the given name. -/
def ofName? (s : String) : Option ApiKey := all.find? (·.name = s)

@[simp] theorem ofId?_id (k : ApiKey) : ofId? k.id = some k := by cases k <;> rfl

theorem mem_all (k : ApiKey) : k ∈ all := List.mem_of_getElem? (ofId?_id k)

theorem id_lt (k : ApiKey) : k.id < 76 := by
  have h := ofId?_id k
  simp only [ofId?, List.getElem?_eq_some_iff] at h
  obtain ⟨hk, -⟩ := h
  exact hk

theorem ofId?_eq_some_iff {n : Nat} {k : ApiKey} : ofId? n = some k ↔ k.id = n := by
  constructor
  · intro h
    have hn : n < 76 := by
      simp only [ofId?, List.getElem?_eq_some_iff] at h
      obtain ⟨hn, -⟩ := h
      exact hn
    have : ∀ m : Fin 76, (all[m.val]?).map id = some m.val := by decide
    have := this ⟨n, hn⟩
    simp only [ofId?] at h
    rw [h] at this
    exact Option.some.inj this
  · rintro rfl
    exact ofId?_id k

end ApiKey

end RequestSamples
