import RequestSamples.ApiKey

/-!
# Shapes of requests and of their entries

A shape says which fields an object has.  Twenty request kinds have a shape of their own, all others share the
generic one, and the bare request belongs to no kind; the remaining shapes are those of the entries that
requests nest.
-/

namespace RequestSamples

/-- The shape of a request or of an entry of a request. -/
inductive Shape
  | request | generic | partitionProduceData | topicProduceData | produce | fetchPartition | fetchTopic
  | forgottenTopic | fetch | listOffsetsPartition | listOffsetsTopic | listOffsets | metadataRequestTopic
  | metadata | updateMetadataPartitionState | updateMetadataTopicState | updateMetadataBroker
  | updateMetadata | offsetCommitRequestPartition | offsetCommitRequestTopic | offsetCommit
  | offsetFetchRequestTopic | offsetFetchRequestGroup | offsetFetch | findCoordinator
  | joinGroupRequestProtocol | joinGroup | heartbeat | memberIdentity | leaveGroup
  | syncGroupRequestAssignment | syncGroup | describeGroups | listGroups | deleteGroups
  | consumerGroupDescribe | saslHandshake | apiVersions | creatableReplicaAssignment
  | creatableTopicConfig | creatableTopic | createTopics | deleteTopicState | deleteTopics
deriving DecidableEq, Repr

namespace Shape

instance : Inhabited Shape := ⟨generic⟩

/-- Every shape. -/
def all : List Shape := [
  .request, .generic, .partitionProduceData, .topicProduceData, .produce, .fetchPartition, .fetchTopic,
  .forgottenTopic, .fetch, .listOffsetsPartition, .listOffsetsTopic, .listOffsets, .metadataRequestTopic,
  .metadata, .updateMetadataPartitionState, .updateMetadataTopicState, .updateMetadataBroker,
  .updateMetadata, .offsetCommitRequestPartition, .offsetCommitRequestTopic, .offsetCommit,
  .offsetFetchRequestTopic, .offsetFetchRequestGroup, .offsetFetch, .findCoordinator,
  .joinGroupRequestProtocol, .joinGroup, .heartbeat, .memberIdentity, .leaveGroup,
  .syncGroupRequestAssignment, .syncGroup, .describeGroups, .listGroups, .deleteGroups,
  .consumerGroupDescribe, .saslHandshake, .apiVersions, .creatableReplicaAssignment,
  .creatableTopicConfig, .creatableTopic, .createTopics, .deleteTopicState, .deleteTopics]

/-- The name of a shape. -/
def name : Shape → String
  | .request => "RequestData"
  | .generic => "GenericRequestData"
  | .partitionProduceData => "PartitionProduceData"
  | .topicProduceData => "TopicProduceData"
  | .produce => "ProduceRequestData"
  | .fetchPartition => "FetchPartition"
  | .fetchTopic => "FetchTopic"
  | .forgottenTopic => "ForgottenTopic"
  | .fetch => "FetchRequestData"
  | .listOffsetsPartition => "ListOffsetsPartition"
  | .listOffsetsTopic => "ListOffsetsTopic"
  | .listOffsets => "ListOffsetsRequestData"
  | .metadataRequestTopic => "MetadataRequestTopic"
  | .metadata => "MetadataRequestData"
  | .updateMetadataPartitionState => "UpdateMetadataPartitionState"
  | .updateMetadataTopicState => "UpdateMetadataTopicState"
  | .updateMetadataBroker => "UpdateMetadataBroker"
  | .updateMetadata => "UpdateMetadataRequestData"
  | .offsetCommitRequestPartition => "OffsetCommitRequestPartition"
  | .offsetCommitRequestTopic => "OffsetCommitRequestTopic"
  | .offsetCommit => "OffsetCommitRequestData"
  | .offsetFetchRequestTopic => "OffsetFetchRequestTopic"
  | .offsetFetchRequestGroup => "OffsetFetchRequestGroup"
  | .offsetFetch => "OffsetFetchRequestData"
  | .findCoordinator => "FindCoordinatorRequestData"
  | .joinGroupRequestProtocol => "JoinGroupRequestProtocol"
  | .joinGroup => "JoinGroupRequestData"
  | .heartbeat => "HeartbeatRequestData"
  | .memberIdentity => "MemberIdentity"
  | .leaveGroup => "LeaveGroupRequestData"
  | .syncGroupRequestAssignment => "SyncGroupRequestAssignment"
  | .syncGroup => "SyncGroupRequestData"
  | .describeGroups => "DescribeGroupsRequestData"
  | .listGroups => "ListGroupsRequestData"
  | .deleteGroups => "DeleteGroupsRequestData"
  | .consumerGroupDescribe => "ConsumerGroupDescribeRequestData"
  | .saslHandshake => "SaslHandshakeRequestData"
  | .apiVersions => "ApiVersionsRequestData"
  | .creatableReplicaAssignment => "CreatableReplicaAssignment"
  | .creatableTopicConfig => "CreatableTopicConfig"
  | .creatableTopic => "CreatableTopic"
  | .createTopics => "CreateTopicsRequestData"
  | .deleteTopicState => "DeleteTopicState"
  | .deleteTopics => "DeleteTopicsRequestData"

/-- The shape with the given name. -/
def ofName? (s : String) : Option Shape := all.find? (·.name = s)

/-- The request kind that the shape is made for. -/
def apiKey? : Shape → Option ApiKey
  | .produce => some .produce
  | .fetch => some .fetch
  | .listOffsets => some .listOffsets
  | .metadata => some .metadata
  | .updateMetadata => some .updateMetadata
  | .offsetCommit => some .offsetCommit
  | .offsetFetch => some .offsetFetch
  | .findCoordinator => some .findCoordinator
  | .joinGroup => some .joinGroup
  | .heartbeat => some .heartbeat
  | .leaveGroup => some .leaveGroup
  | .syncGroup => some .syncGroup
  | .describeGroups => some .describeGroups
  | .listGroups => some .listGroups
  | .deleteGroups => some .deleteGroups
  | .consumerGroupDescribe => some .consumerGroupDescribe
  | .saslHandshake => some .saslHandshake
  | .apiVersions => some .apiVersions
  | .createTopics => some .createTopics
  | .deleteTopics => some .deleteTopics
  | _ => none

/-- The shape of the requests of a kind. -/
def ofKey : ApiKey → Shape
  | .produce => .produce
  | .fetch => .fetch
  | .listOffsets => .listOffsets
  | .metadata => .metadata
  | .updateMetadata => .updateMetadata
  | .offsetCommit => .offsetCommit
  | .offsetFetch => .offsetFetch
  | .findCoordinator => .findCoordinator
  | .joinGroup => .joinGroup
  | .heartbeat => .heartbeat
  | .leaveGroup => .leaveGroup
  | .syncGroup => .syncGroup
  | .describeGroups => .describeGroups
  | .listGroups => .listGroups
  | .deleteGroups => .deleteGroups
  | .consumerGroupDescribe => .consumerGroupDescribe
  | .saslHandshake => .saslHandshake
  | .apiVersions => .apiVersions
  | .createTopics => .createTopics
  | .deleteTopics => .deleteTopics
  | _ => .generic

/-- Objects of this shape are requests, not entries of requests. -/
def isRequest (s : Shape) : Bool := s = request || s = generic || s.apiKey?.isSome

/-- The collections without which a request says nothing. -/
def mandatory : Shape → List String
  | .produce => ["topic_data"]
  | .listOffsets => ["topics"]
  | .metadata => ["topics"]
  | .updateMetadata => ["topic_states"]
  | .offsetCommit => ["topics"]
  | .offsetFetch => ["topics"]
  | .leaveGroup => ["members"]
  | .describeGroups => ["groups"]
  | .deleteGroups => ["groups_names"]
  | .consumerGroupDescribe => ["group_ids"]
  | .createTopics => ["topics"]
  | .deleteTopics => ["topics"]
  | _ => []

/-- The attributes that a shape itself gives to its objects.  An object with a value of its own for one of
them is written with that value before its fields. -/
def attributes (s : Shape) : List String :=
  (if s.apiKey?.isSome then ["api_key"] else []) ++ (if s.mandatory.isEmpty then [] else ["mandatory"])

theorem apiKey?_ofKey (k : ApiKey) : ofKey k = generic ∨ (ofKey k).apiKey? = some k := by
  cases k <;> simp [ofKey, apiKey?]

end Shape

end RequestSamples
