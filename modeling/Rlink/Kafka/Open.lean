import Rlink.Kafka.Coverage

/-! `KafkaInputFormat::open` and `consumer_ranges`: a task reads the topic and the partition
of its split, works out the offsets to consume from and to, and starts a consumer on them
through `create_kafka_consumer`. Nothing reads the `create_kafka_connection` flag that
`create_input_splits` sets, so a replicated split starts a consumer on its partition just
as the split it copies does. -/

namespace Rlink.Kafka

/-- The topic and partition `open` reads from its split; `none` where the `unwrap` of
`get_string("topic")` or of `get_i32("partition")` panics. -/
def taskPartition (inputSplit : InputSplit) : Option (String × Int) := do
  let taskTopic ← inputSplit.properties.getString "topic"
  let taskPartition ← inputSplit.properties.getI32 "partition"
  pure (taskTopic, taskPartition)

theorem taskPartition_eq_of_carries {inputSplit : InputSplit} {pair : String × Int}
    (carried : Carries inputSplit pair = true) : taskPartition inputSplit = some pair := by
  simp only [Carries, Bool.and_eq_true, beq_iff_eq] at carried
  simp [taskPartition, Properties.getString, Properties.getI32, carried.1, carried.2]

@[simp] theorem taskPartition_splitProperties (splitNumber : UInt16) (topic : String) (partition : Int) :
    taskPartition ⟨splitNumber, splitProperties topic partition⟩ =
      some (topic, partition) :=
  taskPartition_eq_of_carries (by simp [carries_splitProperties])

@[simp] theorem taskPartition_replicaOf (inputSplit : InputSplit) :
    taskPartition (replicaOf inputSplit) = taskPartition inputSplit := by
  simp only [taskPartition, Properties.getString, Properties.getI32,
    get_replicaOf_of_ne inputSplit (show "topic" ≠ createKafkaConnection by decide),
    get_replicaOf_of_ne inputSplit (show "partition" ≠ createKafkaConnection by decide)]

structure PartitionOffset where
  partition : Int
  offset : Int
  deriving DecidableEq, Repr

inductive OffsetRange where
  | none
  | direct (beginOffset : List (String × List PartitionOffset))
      (endOffset : Option (List (String × List PartitionOffset)))
  | timestamp (beginTimestamp : List (String × UInt64))
      (endTimestamp : Option (List (String × UInt64)))
  deriving DecidableEq, Repr

structure ConsumerRange where
  topic : String
  partition : Int
  beginOffset : Int
  endOffset : Option Int
  deriving DecidableEq, Repr

structure KafkaInputFormat where
  clientConfig : ClientConfig
  offsetRange : OffsetRange
  checkpointOffset : Option Int

/-- `Offset::End.to_raw()`, librdkafka's `RD_KAFKA_OFFSET_END`. -/
def offsetEnd : Int := -1

/-- `partition as usize` on a 64-bit target: modulo `2 ^ 64`. -/
def asUsize (partition : Int) : Nat := (partition % 18446744073709551616).toNat

/-- `timestamp as i64`: values from `2 ^ 63` on wrap to negative ones. -/
def asI64 (timestamp : UInt64) : Int :=
  if timestamp.toNat < 9223372036854775808 then timestamp.toNat
  else timestamp.toNat - 18446744073709551616

/-- `partition_offsets.get(partition as usize)`: the list is read by position, and the
partition an entry names is never compared. -/
def offsetAt (partitionOffsets : List PartitionOffset) (partition : Int) : Option PartitionOffset :=
  partitionOffsets[asUsize partition]?

def directOffsets (beginOffset : List (String × List PartitionOffset))
    (endOffset : Option (List (String × List PartitionOffset))) (topic : String) (partition : Int) :
    Except Exit (Option PartitionOffset × Option PartitionOffset) := do
  let partitionOffsets ← unwrap (beginOffset.lookup topic)
  let endPartitions ← match endOffset with
    | some endOffset => do
      let endOffsets ← unwrap (endOffset.lookup topic)
      .ok (offsetAt endOffsets partition)
    | none => .ok none
  .ok (offsetAt partitionOffsets partition, endPartitions)

/-- `Offset::from_raw(raw).to_raw()` of the rdkafka crate (not under src/): the raw offset
back, but for the negative values that are none of librdkafka's special offsets (`-1`,
`-2`, `-1000`, `-1001`) nor a tail offset (below `-2000`): those come back as
`Offset::Offset(n)` with `n < 0`, or as `OffsetTail(0)`, which have no raw value. -/
def rawOffset (raw : Int) : Option Int :=
  if 0 ≤ raw ∨ raw = -1 ∨ raw = -2 ∨ raw = -1000 ∨ raw = -1001 ∨ raw < -2000 then some raw
  else none

/-- `TopicPartitionList::set_partition_offset` of the rdkafka crate (not under src/): it sets
the offset of a partition already in the list and fails for one that is not, or for an
`Offset::Offset(n)` with `n < 0`, which has no raw value. -/
def setPartitionOffset (partitionList : List TopicPartition) (topic : String) (partition : Int)
    (offset : Int) : Except String (List TopicPartition) :=
  if offset < 0 then .error "Set partition offset error: Local: Invalid argument or configuration"
  else if partitionList.any fun element => element.topic == topic && element.partition == partition
  then .ok (partitionList.map fun element =>
    if element.topic == topic && element.partition == partition then { element with offset := offset }
    else element)
  else .error "Set partition offset error: Local: Unknown partition"

/-- The inner `offsets_for_times`: the partition list `with_capacity(1)` makes, which is
empty, with the partition's offset set to `timestamp as i64`; the broker's answer; and the
raw offset it gives for the partition, read back by `to_raw().unwrap()`. -/
def offsetsForTimes (consumer : BaseConsumer) (topic : String) (partition : Int)
    (timestamp : UInt64) : Except Exit (Option PartitionOffset) := do
  let partitionList ← (setPartitionOffset [] topic partition (asI64 timestamp)).mapError .error
  let tpl ← (consumer.offsetsForTimes partitionList).mapError .error
  match tpl.find? fun element => element.topic == topic && element.partition == partition with
  | some element => do
    let offset ← unwrap (rawOffset element.offset)
    .ok (some ⟨partition, offset⟩)
  | none => .ok none

def timestampOffsets (clientConfig : ClientConfig) (beginTimestamp : List (String × UInt64))
    (endTimestamp : Option (List (String × UInt64))) (topic : String) (partition : Int) :
    Except Exit (Option PartitionOffset × Option PartitionOffset) := do
  let consumer ← clientConfig.create.mapError .error
  let beginPartition ← match beginTimestamp.lookup topic with
    | some timestamp => offsetsForTimes consumer topic partition timestamp
    | none => .ok none
  let endPartition ← match (endTimestamp.map fun timestamps => timestamps.lookup topic).getD none with
    | some timestamp => offsetsForTimes consumer topic partition timestamp
    | none => .ok none
  .ok (beginPartition, endPartition)

/-- `consumer_ranges`: an `Err` of the broker is `Exit.error`, a failed `unwrap` a panic. -/
def consumerRanges (format : KafkaInputFormat) (topic : String) (partition : Int) :
    Except Exit ConsumerRange := do
  let (beginPartition, endPartition) ← match format.offsetRange with
    | .none => .ok (format.checkpointOffset.map fun offset => ⟨partition, offset⟩, none)
    | .direct beginOffset endOffset => directOffsets beginOffset endOffset topic partition
    | .timestamp beginTimestamp endTimestamp =>
      timestampOffsets format.clientConfig beginTimestamp endTimestamp topic partition
  .ok ⟨topic, partition, (beginPartition.map (·.offset)).getD offsetEnd,
    endPartition.map (·.offset)⟩

/-- `open` up to `create_kafka_consumer`: the range the consumer is started on, or `none`
where one of its `unwrap`s panics, `consumer_ranges(..).unwrap()` among them. -/
def KafkaInputFormat.«open» (format : KafkaInputFormat) (inputSplit : InputSplit) :
    Option ConsumerRange := do
  let (taskTopic, taskPartition) ← taskPartition inputSplit
  match consumerRanges format taskTopic taskPartition with
  | .ok consumerRange => some consumerRange
  | .error _ => none

theorem open_eq {format : KafkaInputFormat} {inputSplit : InputSplit} {topic : String}
    {partition : Int} (read : taskPartition inputSplit = some (topic, partition)) :
    format.«open» inputSplit =
      match consumerRanges format topic partition with
      | .ok consumerRange => some consumerRange
      | .error _ => none := by
  rw [KafkaInputFormat.«open», read]
  rfl

theorem consumerRanges_none (clientConfig : ClientConfig) (checkpointOffset : Option Int)
    (topic : String) (partition : Int) :
    consumerRanges ⟨clientConfig, .none, checkpointOffset⟩ topic partition =
      .ok ⟨topic, partition, checkpointOffset.getD offsetEnd, none⟩ := by
  cases checkpointOffset <;> rfl

theorem open_none_partition (clientConfig : ClientConfig) (checkpointOffset : Option Int)
    (inputSplit : InputSplit) :
    (KafkaInputFormat.«open» ⟨clientConfig, .none, checkpointOffset⟩ inputSplit).map
        (fun consumerRange => (consumerRange.topic, consumerRange.partition)) =
      taskPartition inputSplit := by
  cases read : taskPartition inputSplit with
  | none => simp [KafkaInputFormat.«open», read]
  | some pair => rw [open_eq read, consumerRanges_none]; rfl

theorem offsetsForTimes_fails (consumer : BaseConsumer) (topic : String) (partition : Int)
    (timestamp : UInt64) :
    ∃ message, offsetsForTimes consumer topic partition timestamp = .error (.error message) := by
  unfold offsetsForTimes setPartitionOffset
  split <;> exact ⟨_, rfl⟩

/-- With `Timestamp` offsets a task never starts from a timestamp: `offsets_for_times` sets
the offset of a partition missing from an empty `TopicPartitionList`, which fails, so `open`
panics on a split whose topic has a begin or an end timestamp; on any other split it starts
at `Offset::End`, with no end offset, whatever the task's checkpoint holds. -/
theorem timestamp_range_never_seeks (clientConfig : ClientConfig)
    (beginTimestamp : List (String × UInt64)) (endTimestamp : Option (List (String × UInt64)))
    (checkpointOffset : Option Int) {inputSplit : InputSplit} {topic : String} {partition : Int}
    (read : taskPartition inputSplit = some (topic, partition)) :
    KafkaInputFormat.«open» ⟨clientConfig, .timestamp beginTimestamp endTimestamp,
        checkpointOffset⟩ inputSplit =
      if clientConfig.create.isOk ∧ beginTimestamp.lookup topic = none ∧
          (endTimestamp.bind fun timestamps => timestamps.lookup topic) = none
      then some ⟨topic, partition, offsetEnd, none⟩ else none := by
  have noEnd : (endTimestamp.map fun timestamps => timestamps.lookup topic).getD none =
      endTimestamp.bind fun timestamps => timestamps.lookup topic := by
    cases endTimestamp <;> rfl
  rw [open_eq read]
  simp only [consumerRanges, timestampOffsets, noEnd, Except.mapError, bind, Except.bind]
  cases clientConfig.create with
  | error message => rfl
  | ok consumer =>
    cases beginTimestamp.lookup topic with
    | some timestamp =>
      obtain ⟨message, failed⟩ := offsetsForTimes_fails consumer topic partition timestamp
      simp only [failed]
      rfl
    | none =>
      cases endTimestamp.bind fun timestamps => timestamps.lookup topic with
      | some timestamp =>
        obtain ⟨message, failed⟩ := offsetsForTimes_fails consumer topic partition timestamp
        simp only [failed]
        rfl
      | none => rfl

theorem timestamped_split_panics :
    taskPartition ⟨0, splitProperties "t" 0⟩ = some ("t", 0) ∧
      KafkaInputFormat.«open» ⟨twoPartitions, .timestamp [("t", 1000)] none, none⟩
          ⟨0, splitProperties "t" 0⟩ =
        if twoPartitions.create.isOk ∧ [("t", (1000 : UInt64))].lookup "t" = none ∧
            ((none : Option (List (String × UInt64))).bind fun timestamps =>
              timestamps.lookup "t") = none
        then some ⟨"t", 0, offsetEnd, none⟩ else none :=
  ⟨taskPartition_splitProperties 0 "t" 0,
    timestamp_range_never_seeks twoPartitions [("t", 1000)] none none
      (taskPartition_splitProperties 0 "t" 0)⟩

def OpensOn (topics : List String) (inputSplit : InputSplit) : Prop :=
  ∃ topic ∈ topics, ∃ partition, taskPartition inputSplit = some (topic, partition)

theorem pushPartitions_opensOn {topics : List String} {topic : String} (listed : topic ∈ topics)
    (minNumSplits : UInt16) (partitions : List MetadataPartition) {inputSplits : List InputSplit}
    {index : UInt16} {result : List InputSplit × UInt16}
    (opening : ∀ inputSplit ∈ inputSplits, OpensOn topics inputSplit)
    (pushed : pushPartitions topic minNumSplits partitions inputSplits index = .ok result) :
    ∀ inputSplit ∈ result.1, OpensOn topics inputSplit := by
  induction partitions generalizing inputSplits index with
  | nil => cases pushed; exact opening
  | cons partition partitions ih =>
    obtain ⟨next, -, rest⟩ := bind_eq_ok pushed
    have step : ∀ inputSplit ∈ inputSplits ++ [⟨index, splitProperties topic partition.id⟩],
        OpensOn topics inputSplit := by
      intro inputSplit member
      rcases List.mem_append.mp member with old | new
      · exact opening inputSplit old
      · rw [List.mem_singleton.mp new]
        exact ⟨topic, listed, partition.id, taskPartition_splitProperties _ _ _⟩
    split at rest
    · cases rest; exact step
    · exact ih step rest

theorem enumerateSplits_opensOn {topics : List String} (consumer : BaseConsumer)
    (minNumSplits : UInt16) (remaining : List String) (listed : ∀ topic ∈ remaining, topic ∈ topics)
    {inputSplits : List InputSplit} {index : UInt16} {result : List InputSplit × UInt16}
    (opening : ∀ inputSplit ∈ inputSplits, OpensOn topics inputSplit)
    (ran : enumerateSplits consumer minNumSplits remaining inputSplits index = .ok result) :
    ∀ inputSplit ∈ result.1, OpensOn topics inputSplit := by
  induction remaining generalizing inputSplits index with
  | nil => cases ran; exact opening
  | cons topic remaining ih =>
    obtain ⟨metadataTopic, -, rest⟩ := bind_eq_ok ran
    obtain ⟨pushedSplits, pushed, rest⟩ := bind_eq_ok rest
    exact ih (fun other member => listed other (List.mem_cons_of_mem _ member))
      (pushPartitions_opensOn (listed topic (List.mem_cons_self _ _)) minNumSplits _ opening pushed)
      rest

theorem mem_replicateSplits {primaries splits : List InputSplit} {minNumSplits : UInt16}
    {inputSplit : InputSplit} (replicated : replicateSplits primaries minNumSplits = .ok splits)
    (member : inputSplit ∈ splits) :
    ∃ primary ∈ primaries, inputSplit = primary ∨ inputSplit = replicaOf primary := by
  unfold replicateSplits at replicated
  split at replicated
  · obtain ⟨times, -, rest⟩ := bind_eq_ok replicated
    cases rest
    rcases List.mem_append.mp member with primary | replica
    · exact ⟨inputSplit, primary, .inl rfl⟩
    · obtain ⟨primary, present, rfl⟩ := mem_extendInputSplits replica
      exact ⟨primary, present, .inr rfl⟩
  · cases replicated
    exact ⟨inputSplit, member, .inl rfl⟩

theorem createInputSplits_opensOn {clientConfig : ClientConfig} {topics : List String}
    {minNumSplits : UInt16} {splits : List InputSplit}
    (returned : createInputSplits clientConfig topics minNumSplits = .ok splits) :
    ∀ inputSplit ∈ splits, OpensOn topics inputSplit := by
  obtain ⟨consumer, primaries, index, -, enumerated, -, replicated⟩ :=
    createInputSplits_eq_ok returned
  have primariesOpen := enumerateSplits_opensOn consumer minNumSplits topics (fun _ => id)
    (fun _ absent => absurd absent (List.not_mem_nil _)) enumerated
  intro inputSplit member
  obtain ⟨primary, present, same | same⟩ := mem_replicateSplits replicated member
  · exact same ▸ primariesOpen primary present
  · obtain ⟨topic, listed, partition, opened⟩ := primariesOpen primary present
    exact ⟨topic, listed, partition, by rw [same, taskPartition_replicaOf, opened]⟩

/-- Every split `create_input_splits` returns can be opened: the `unwrap`s of `open` find
a topic, one of the source's, and a partition; with no offset range, the consumer starts
on them at the checkpointed offset, or at the end of the partition. -/
theorem create_input_splits_open_from_checkpoint {clientConfig : ClientConfig}
    {topics : List String} {minNumSplits : UInt16} {splits : List InputSplit}
    (returned : createInputSplits clientConfig topics minNumSplits = .ok splits)
    (checkpointOffset : Option Int) :
    ∀ inputSplit ∈ splits, ∃ topic ∈ topics, ∃ partition,
      taskPartition inputSplit = some (topic, partition) ∧
      KafkaInputFormat.«open» ⟨clientConfig, .none, checkpointOffset⟩ inputSplit =
        some ⟨topic, partition, checkpointOffset.getD offsetEnd, none⟩ := by
  intro inputSplit member
  obtain ⟨topic, listed, partition, read⟩ := createInputSplits_opensOn returned inputSplit member
  refine ⟨topic, listed, partition, read, ?_⟩
  rw [open_eq read, consumerRanges_none]

theorem five_splits_open_at_end :
    createInputSplits twoPartitions ["t"] 5 = .ok ([⟨0, splitProperties "t" 0⟩,
      ⟨1, splitProperties "t" 1⟩] ++ extendInputSplits [⟨0, splitProperties "t" 0⟩,
      ⟨1, splitProperties "t" 1⟩] 2) ∧
      ∀ inputSplit ∈ [⟨0, splitProperties "t" 0⟩, ⟨1, splitProperties "t" 1⟩] ++
        extendInputSplits [⟨0, splitProperties "t" 0⟩, ⟨1, splitProperties "t" 1⟩] 2,
        ∃ topic ∈ ["t"], ∃ partition, taskPartition inputSplit = some (topic, partition) ∧
          KafkaInputFormat.«open» ⟨twoPartitions, .none, none⟩ inputSplit =
            some ⟨topic, partition, (none : Option Int).getD offsetEnd, none⟩ :=
  have returned : createInputSplits twoPartitions ["t"] 5 = .ok ([⟨0, splitProperties "t" 0⟩,
      ⟨1, splitProperties "t" 1⟩] ++ extendInputSplits [⟨0, splitProperties "t" 0⟩,
      ⟨1, splitProperties "t" 1⟩] 2) := rfl
  ⟨returned, create_input_splits_open_from_checkpoint returned none⟩

theorem countP_taskPartition_extendInputSplits (primaries : List InputSplit) (rounds : Nat)
    (pair : String × Int) :
    (extendInputSplits primaries rounds).countP
        (fun inputSplit => taskPartition inputSplit = some pair) =
      rounds * primaries.countP (fun inputSplit => taskPartition inputSplit = some pair) := by
  induction rounds with
  | zero => simp [extendInputSplits]
  | succ rounds ih =>
    have replicas :
        (fun inputSplit => decide (taskPartition inputSplit = some pair)) ∘ replicaOf =
          fun inputSplit => decide (taskPartition inputSplit = some pair) := by
      funext inputSplit; simp
    rw [extendInputSplits, List.countP_append, ih, List.countP_map, replicas, Nat.succ_mul]

section Fetched

variable {consumer : BaseConsumer} {partitionsOf : String → List MetadataPartition}

/-- Where the partitions fit in `min_num_splits`, every partition is read by `⌈min / n⌉`
splits, `n` the number of partitions, and with no offset range each of them starts a
consumer on it when its task opens it: the replicas start consumers of their own. -/
theorem create_input_splits_opens_partition_repeatedly (clientConfig : ClientConfig)
    (topics : List String) (minNumSplits : UInt16) (created : clientConfig.create = .ok consumer)
    (fetched : ∀ topic ∈ topics, fetchTopic consumer topic = .ok ⟨partitionsOf topic⟩)
    (distinct : (metadataPairs partitionsOf topics).Nodup)
    (nonempty : metadataPairs partitionsOf topics ≠ [])
    (fits : (metadataPairs partitionsOf topics).length ≤ minNumSplits.toNat)
    (checkpointOffset : Option Int) :
    ∃ splits, createInputSplits clientConfig topics minNumSplits = .ok splits ∧
      ∀ pair ∈ metadataPairs partitionsOf topics,
        (splits.filter fun inputSplit => taskPartition inputSplit = some pair).length =
          (minNumSplits.toNat + (metadataPairs partitionsOf topics).length - 1) /
            (metadataPairs partitionsOf topics).length ∧
        (splits.filter fun inputSplit =>
          (KafkaInputFormat.«open» ⟨clientConfig, .none, checkpointOffset⟩ inputSplit).map
            (fun consumerRange => (consumerRange.topic, consumerRange.partition)) =
              some pair).length =
          (minNumSplits.toNat + (metadataPairs partitionsOf topics).length - 1) /
            (metadataPairs partitionsOf topics).length := by
  have length : (numberedSplits 0 (metadataPairs partitionsOf topics)).length =
      (metadataPairs partitionsOf topics).length := by simp [numberedSplits]
  have positive := List.length_pos.mpr nonempty
  rw [createInputSplits_fit clientConfig topics minNumSplits created fetched fits,
    replicateSplits_of_le (by rw [length]; exact positive) (by omega)]
  refine ⟨_, rfl, fun pair present => ?_⟩
  have atLeastOne : 1 ≤ (minNumSplits.toNat + (metadataPairs partitionsOf topics).length - 1) /
      (metadataPairs partitionsOf topics).length :=
    (Nat.le_div_iff_mul_le positive).mpr (by omega)
  simp only [open_none_partition, and_self]
  rw [← List.countP_eq_length_filter, List.countP_append, countP_taskPartition_extendInputSplits,
    countP_numberedSplits distinct present _ fun _ _ _ => by simp, length]
  omega

theorem two_partitions_opened_thrice :
    twoPartitions.create = .ok twoPartitionConsumer ∧
      (∀ topic ∈ ["t"], fetchTopic twoPartitionConsumer topic = .ok ⟨[⟨0⟩, ⟨1⟩]⟩) ∧
      (metadataPairs (fun _ => [⟨0⟩, ⟨1⟩]) ["t"]).Nodup ∧
      metadataPairs (fun _ => [⟨0⟩, ⟨1⟩]) ["t"] ≠ [] ∧
      (metadataPairs (fun _ => [⟨0⟩, ⟨1⟩]) ["t"]).length ≤ (5 : UInt16).toNat ∧
      ∃ splits, createInputSplits twoPartitions ["t"] 5 = .ok splits ∧
        ∀ pair ∈ metadataPairs (fun _ => [⟨0⟩, ⟨1⟩]) ["t"],
          (splits.filter fun inputSplit => taskPartition inputSplit = some pair).length =
            ((5 : UInt16).toNat + (metadataPairs (fun _ => [⟨0⟩, ⟨1⟩]) ["t"]).length - 1) /
              (metadataPairs (fun _ => [⟨0⟩, ⟨1⟩]) ["t"]).length ∧
          (splits.filter fun inputSplit =>
            (KafkaInputFormat.«open» ⟨twoPartitions, .none, none⟩ inputSplit).map
              (fun consumerRange => (consumerRange.topic, consumerRange.partition)) =
                some pair).length =
            ((5 : UInt16).toNat + (metadataPairs (fun _ => [⟨0⟩, ⟨1⟩]) ["t"]).length - 1) /
              (metadataPairs (fun _ => [⟨0⟩, ⟨1⟩]) ["t"]).length :=
  have fetched : ∀ topic ∈ ["t"], fetchTopic twoPartitionConsumer topic = .ok ⟨[⟨0⟩, ⟨1⟩]⟩ :=
    fun _ _ => rfl
  ⟨rfl, fetched, by decide, by decide, by decide,
    create_input_splits_opens_partition_repeatedly twoPartitions ["t"] 5 rfl fetched
      (by decide) (by decide) (by decide) none⟩

end Fetched

end Rlink.Kafka
