import RequestSamples.Value

/-!
# Fields of shapes

Every field has a declared kind and, but for the key of a generic request, a default.  A fresh object takes
the defaults.  Declared kinds are not enforced: a field may hold any value.
-/

namespace RequestSamples

/-- The declared kind of a field. -/
inductive Kind
  | int | bool | text | bytes | uuid | key
  | optional (of : Kind)
  | listOf (of : Kind)
  | entry (shape : Shape)
deriving DecidableEq, Repr

/-- A field with its kind and its default, if it has one. -/
structure Field where
  name : String
  kind : Kind
  default? : Option Value

namespace Field

def int (name : String) (value : Int) : Field := ⟨name, .int, some (.int value)⟩
def flag (name : String) (value : Bool) : Field := ⟨name, .bool, some (.bool value)⟩
def text (name : String) : Field := ⟨name, .text, some (.text "")⟩
def text? (name : String) : Field := ⟨name, .optional .text, some .null⟩
def bytes (name : String) : Field := ⟨name, .bytes, some (.bytes [])⟩
def uuid (name : String) : Field := ⟨name, .uuid, some (.uuid .zero)⟩
def list (name : String) (of : Kind) : Field := ⟨name, .listOf of, some (.list [])⟩

end Field

open RequestSamples.Field in
/-- The fields of a shape, in the order in which they are written. -/
def Shape.fields : Shape → List Field
  | .request => []
  | .generic => [⟨"api_key", .key, none⟩]
  | .partitionProduceData => [int "index" 0, ⟨"records", .optional .bytes, some .null⟩]
  | .topicProduceData => [text "name", list "partition_data" (.entry .partitionProduceData)]
  | .produce => [
    text? "transactional_id", int "acks" 0, int "timeout_ms" 0,
    list "topic_data" (.entry .topicProduceData)]
  | .fetchPartition => [
    int "partition" 0, int "current_leader_epoch" (-1), int "fetch_offset" 0,
    int "last_fetched_epoch" (-1), int "log_start_offset" (-1), int "partition_max_bytes" 0]
  | .fetchTopic => [text "topic", uuid "topic_id", list "partitions" (.entry .fetchPartition)]
  | .forgottenTopic => [text "topic", uuid "topic_id", list "partitions" .int]
  | .fetch => [
    int "replica_id" (-1), int "max_wait_ms" 0, int "min_bytes" 0, int "max_bytes" 2147483647,
    int "isolation_level" 0, int "session_id" 0, int "session_epoch" (-1),
    list "topics" (.entry .fetchTopic), list "forgotten_topics_data" (.entry .forgottenTopic),
    text "rack_id"]
  | .listOffsetsPartition => [int "partition_index" 0, int "current_leader_epoch" (-1), int "timestamp" 0]
  | .listOffsetsTopic => [text "name", list "partitions" (.entry .listOffsetsPartition)]
  | .listOffsets => [
    int "replica_id" 0, int "isolation_level" 0, list "topics" (.entry .listOffsetsTopic)]
  | .metadataRequestTopic => [uuid "topic_id", text? "name"]
  | .metadata => [
    list "topics" (.entry .metadataRequestTopic), flag "allow_auto_topic_creation" true,
    flag "include_cluster_authorized_operations" false, flag "include_topic_authorized_operations" false]
  | .updateMetadataPartitionState => [
    text "topic_name", int "partition_index" 0, int "controller_epoch" 0, int "leader" 0,
    int "leader_epoch" 0, list "isr" .int, int "zk_version" 0, list "replicas" .int,
    list "offline_replicas" .int]
  | .updateMetadataTopicState => [
    text "topic_name", uuid "topic_id", list "partition_states" (.entry .updateMetadataPartitionState)]
  | .updateMetadataBroker => [int "id" 0, text "v0_host", int "v0_port" 0, text? "rack"]
  | .updateMetadata => [
    int "controller_id" 0, flag "is_kraft_controller" false, int "controller_epoch" 0,
    int "broker_epoch" (-1), list "ungrouped_partition_states" (.entry .updateMetadataPartitionState),
    list "topic_states" (.entry .updateMetadataTopicState),
    list "live_brokers" (.entry .updateMetadataBroker)]
  | .offsetCommitRequestPartition => [
    int "partition_index" 0, int "committed_offset" 0, int "committed_leader_epoch" (-1),
    ⟨"committed_metadata", .optional .text, some (.text "")⟩]
  | .offsetCommitRequestTopic => [text "name", list "partitions" (.entry .offsetCommitRequestPartition)]
  | .offsetCommit => [
    text "group_id", int "generation_id_or_member_epoch" (-1), text "member_id",
    text? "group_instance_id", int "retention_time_ms" (-1),
    list "topics" (.entry .offsetCommitRequestTopic)]
  | .offsetFetchRequestTopic => [text "name", list "partition_indexes" .int]
  | .offsetFetchRequestGroup => [
    text "group_id", text? "member_id", int "member_epoch" (-1),
    ⟨"topics", .optional (.listOf (.entry .offsetFetchRequestTopic)), some (.list [])⟩]
  | .offsetFetch => [
    text "group_id", ⟨"topics", .optional (.listOf (.entry .offsetFetchRequestTopic)), some (.list [])⟩,
    list "groups" (.entry .offsetFetchRequestGroup), flag "require_stable" false]
  | .findCoordinator => [text "key", int "key_type" 0, list "coordinator_keys" .text]
  | .joinGroupRequestProtocol => [text "name", bytes "metadata"]
  | .joinGroup => [
    text "group_id", int "session_timeout_ms" 0, int "rebalance_timeout_ms" (-1), text "member_id",
    text? "group_instance_id", text "protocol_type", list "protocols" (.entry .joinGroupRequestProtocol),
    text? "reason"]
  | .heartbeat => [text "group_id", int "generation_id" 0, text "member_id", text? "group_instance_id"]
  | .memberIdentity => [text "member_id", text? "group_instance_id", text? "reason"]
  | .leaveGroup => [text "group_id", text "member_id", list "members" (.entry .memberIdentity)]
  | .syncGroupRequestAssignment => [text "member_id", bytes "assignment"]
  | .syncGroup => [
    text "group_id", int "generation_id" 0, text "member_id", text? "group_instance_id",
    text? "protocol_type", text? "protocol_name", list "assignments" (.entry .syncGroupRequestAssignment)]
  | .describeGroups => [list "groups" .text, flag "include_authorized_operations" false]
  | .listGroups => [list "states_filter" .text]
  | .deleteGroups => [list "groups_names" .text]
  | .consumerGroupDescribe => [list "group_ids" .text, flag "include_authorized_operations" false]
  | .saslHandshake => [text "mechanism"]
  | .apiVersions => [text "client_software_name", text "client_software_version"]
  | .creatableReplicaAssignment => [int "partition_index" 0, list "broker_ids" .int]
  | .creatableTopicConfig => [text "name", text? "value"]
  | .creatableTopic => [
    text "name", int "num_partitions" 0, int "replication_factor" 0,
    list "assignments" (.entry .creatableReplicaAssignment),
    list "configs" (.entry .creatableTopicConfig)]
  | .createTopics => [
    list "topics" (.entry .creatableTopic), int "timeout_ms" 60000, flag "validate_only" false]
  | .deleteTopicState => [text? "name", uuid "topic_id"]
  | .deleteTopics => [
    list "topics" (.entry .deleteTopicState), list "topic_names" .text, int "timeout_ms" 0]

/-- The names of the fields of a shape. -/
def Shape.fieldNames (s : Shape) : List String := s.fields.map (·.name)

/-- The fields that have a default, with it. -/
def Shape.defaults (s : Shape) : List (String × Value) :=
  s.fields.filterMap fun f => f.default?.map (f.name, ·)

theorem Shape.fieldNames_nodup (s : Shape) : s.fieldNames.Nodup := by
  cases s <;> simp [fieldNames, fields, Field.int, Field.flag, Field.text, Field.text?, Field.bytes,
    Field.uuid, Field.list]

end RequestSamples
