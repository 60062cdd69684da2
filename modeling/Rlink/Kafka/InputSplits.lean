import Rlink.Core

/-! `KafkaInputFormat::create_input_splits`: one split per partition of every topic,
counted by a `u16` index, then cloned in rounds until there are `min_num_splits`
of them. The broker is the `BaseConsumer` the client config creates. -/

namespace Rlink.Kafka

def createKafkaConnection : String := "create_kafka_connection"

structure MetadataPartition where
  id : Int
  deriving DecidableEq, Repr

structure MetadataTopic where
  partitions : List MetadataPartition
  deriving DecidableEq, Repr

structure Metadata where
  topics : List MetadataTopic
  deriving DecidableEq, Repr

/-- An element of an rdkafka `TopicPartitionList` (not under src/): a topic, a partition and
the raw offset librdkafka keeps for it. -/
structure TopicPartition where
  topic : String
  partition : Int
  offset : Int
  deriving DecidableEq, Repr

/-- The broker as a consumer sees it: what `fetch_metadata` answers for one topic, and what
`offsets_for_times` answers for a partition list. -/
structure BaseConsumer where
  fetchMetadata : String → Except String Metadata
  offsetsForTimes : List TopicPartition → Except String (List TopicPartition)

structure ClientConfig where
  create : Except String BaseConsumer

def splitProperties (topic : String) (partition : Int) : Properties :=
  ((Properties.new.setStr "topic" topic).setI32 "partition" partition).setBool
    createKafkaConnection true

/-- `index += 1` on the `u16` counter, with the overflow check of a debug build. -/
def incrementIndex (index : UInt16) : Except Exit UInt16 :=
  if index.toNat + 1 < UInt16.size then .ok (index + 1)
  else .error (.panic "attempt to add with overflow")

def pushPartitions (topic : String) (minNumSplits : UInt16) :
    List MetadataPartition → List InputSplit → UInt16 →
      Except Exit (List InputSplit × UInt16)
  | [], inputSplits, index => .ok (inputSplits, index)
  | partition :: partitions, inputSplits, index => do
    let inputSplit : InputSplit := ⟨index, splitProperties topic partition.id⟩
    let index ← incrementIndex index
    let inputSplits := inputSplits ++ [inputSplit]
    if index = minNumSplits then .ok (inputSplits, index)
    else pushPartitions topic minNumSplits partitions inputSplits index

def fetchTopic (consumer : BaseConsumer) (topic : String) : Except Exit MetadataTopic :=
  match consumer.fetchMetadata topic with
  | .error e => .error (.error s!"Failed to fetch metadata. {e}")
  | .ok metadata =>
    match metadata.topics.head? with
    | some metadataTopic => .ok metadataTopic
    | none => .error (.error s!"Topic({topic}) not found")

def enumerateSplits (consumer : BaseConsumer) (minNumSplits : UInt16) :
    List String → List InputSplit → UInt16 → Except Exit (List InputSplit × UInt16)
  | [], inputSplits, index => .ok (inputSplits, index)
  | topic :: topics, inputSplits, index => do
    let metadataTopic ← fetchTopic consumer topic
    let (inputSplits, index) ←
      pushPartitions topic minNumSplits metadataTopic.partitions inputSplits index
    enumerateSplits consumer minNumSplits topics inputSplits index

def replicaOf (inputSplit : InputSplit) : InputSplit :=
  ⟨inputSplit.splitNumber, inputSplit.properties.setBool createKafkaConnection false⟩

def extendInputSplits (inputSplits : List InputSplit) : Nat → List InputSplit
  | 0 => []
  | rounds + 1 => extendInputSplits inputSplits rounds ++ inputSplits.map replicaOf

def divideUsize (dividend divisor : Nat) : Except Exit Nat :=
  if divisor = 0 then .error (.panic "attempt to divide by zero") else .ok (dividend / divisor)

def replicateSplits (inputSplits : List InputSplit) (minNumSplits : UInt16) :
    Except Exit (List InputSplit) :=
  if inputSplits.length < minNumSplits.toNat then do
    let times ← divideUsize (minNumSplits.toNat + inputSplits.length - 1) inputSplits.length
    .ok (inputSplits ++ extendInputSplits inputSplits (times - 1))
  else .ok inputSplits

def createConsumer (clientConfig : ClientConfig) : Except Exit BaseConsumer :=
  match clientConfig.create with
  | .ok consumer => .ok consumer
  | .error e => .error (.error s!"Consumer creation failed. {e}")

def createInputSplits (clientConfig : ClientConfig) (topics : List String)
    (minNumSplits : UInt16) : Except Exit (List InputSplit) := do
  let consumer ← createConsumer clientConfig
  let (inputSplits, _) ← enumerateSplits consumer minNumSplits topics [] 0
  if inputSplits.length > minNumSplits.toNat then
    .error (.error "kafka `input_splits.len()` != `min_num_splits`")
  else replicateSplits inputSplits minNumSplits

@[simp] theorem get_topic_splitProperties (topic : String) (partition : Int) :
    (splitProperties topic partition).get "topic" = some (.str topic) := by
  simp [splitProperties, Properties.setBool, Properties.setI32, Properties.setStr,
    createKafkaConnection]

@[simp] theorem get_partition_splitProperties (topic : String) (partition : Int) :
    (splitProperties topic partition).get "partition" = some (.i32 partition) := by
  simp [splitProperties, Properties.setBool, Properties.setI32, createKafkaConnection]

@[simp] theorem get_flag_splitProperties (topic : String) (partition : Int) :
    (splitProperties topic partition).get createKafkaConnection = some (.bool true) := by
  simp [splitProperties, Properties.setBool]

@[simp] theorem splitNumber_replicaOf (inputSplit : InputSplit) :
    (replicaOf inputSplit).splitNumber = inputSplit.splitNumber := rfl

@[simp] theorem get_flag_replicaOf (inputSplit : InputSplit) :
    (replicaOf inputSplit).properties.get createKafkaConnection = some (.bool false) := by
  simp [replicaOf, Properties.setBool]

theorem get_replicaOf_of_ne (inputSplit : InputSplit) {key : String}
    (distinct : key ≠ createKafkaConnection) :
    (replicaOf inputSplit).properties.get key = inputSplit.properties.get key := by
  simp [replicaOf, Properties.setBool, distinct]

theorem incrementIndex_eq_ok {index next : UInt16} (incremented : incrementIndex index = .ok next) :
    next.toNat = index.toNat + 1 := by
  unfold incrementIndex at incremented
  split at incremented
  · cases incremented
    simp only [UInt16.add_def, UInt16.toNat, BitVec.toNat_add] at *
    simp [UInt16.size] at *
    omega
  · cases incremented

end Rlink.Kafka
