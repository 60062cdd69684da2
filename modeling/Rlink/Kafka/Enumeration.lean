import Rlink.Kafka.InputSplits

/-! The enumeration loop of `create_input_splits`: what it keeps true of the splits
it pushes, the topics whose partitions it drops at its inner `break`, and the
division by zero when no topic lists a partition. -/

namespace Rlink.Kafka

/-- What the enumeration loop keeps true of the splits it has pushed: the counter is
their number, each split's number is its position, and each opens a connection. -/
structure Enumerated (inputSplits : List InputSplit) (index : UInt16) : Prop where
  counted : index.toNat = inputSplits.length
  numbered : ∀ j (h : j < inputSplits.length), (inputSplits[j]).splitNumber.toNat = j
  connecting : ∀ inputSplit ∈ inputSplits,
    inputSplit.properties.get createKafkaConnection = some (.bool true)

theorem enumerated_nil : Enumerated [] 0 :=
  ⟨rfl, fun _ h => absurd h (Nat.not_lt_zero _), fun _ h => absurd h (List.not_mem_nil _)⟩

theorem Enumerated.push {inputSplits : List InputSplit} {index next : UInt16}
    (enumerated : Enumerated inputSplits index) (topic : String) (partition : Int)
    (incremented : incrementIndex index = .ok next) :
    Enumerated (inputSplits ++ [⟨index, splitProperties topic partition⟩]) next where
  counted := by simp [incrementIndex_eq_ok incremented, enumerated.counted]
  numbered := by
    intro j bound
    rw [List.getElem_append]
    split
    · exact enumerated.numbered j ‹_›
    · have counted := enumerated.counted
      simp at bound ⊢
      omega
  connecting := by
    intro inputSplit member
    rcases List.mem_append.mp member with old | new
    · exact enumerated.connecting inputSplit old
    · simp only [List.mem_singleton] at new
      simp [new]

theorem pushPartitions_enumerated (topic : String) (minNumSplits : UInt16)
    (partitions : List MetadataPartition) {inputSplits : List InputSplit} {index : UInt16}
    {result : List InputSplit × UInt16} (enumerated : Enumerated inputSplits index)
    (pushed : pushPartitions topic minNumSplits partitions inputSplits index = .ok result) :
    Enumerated result.1 result.2 := by
  induction partitions generalizing inputSplits index with
  | nil => cases pushed; exact enumerated
  | cons partition partitions ih =>
    obtain ⟨next, incremented, rest⟩ := bind_eq_ok pushed
    have step := enumerated.push topic partition.id incremented
    split at rest
    · cases rest; exact step
    · exact ih step rest

theorem enumerateSplits_enumerated (consumer : BaseConsumer) (minNumSplits : UInt16)
    (topics : List String) {inputSplits : List InputSplit} {index : UInt16}
    {result : List InputSplit × UInt16} (enumerated : Enumerated inputSplits index)
    (ran : enumerateSplits consumer minNumSplits topics inputSplits index = .ok result) :
    Enumerated result.1 result.2 := by
  induction topics generalizing inputSplits index with
  | nil => cases ran; exact enumerated
  | cons topic topics ih =>
    obtain ⟨metadataTopic, -, rest⟩ := bind_eq_ok ran
    obtain ⟨⟨pushedSplits, pushedIndex⟩, pushed, rest⟩ := bind_eq_ok rest
    exact ih (pushPartitions_enumerated topic minNumSplits _ enumerated pushed) rest

theorem createInputSplits_of_enumerated {clientConfig : ClientConfig} {topics : List String}
    {minNumSplits : UInt16} {consumer : BaseConsumer} {primaries : List InputSplit}
    {index : UInt16} (created : clientConfig.create = .ok consumer)
    (enumerated : enumerateSplits consumer minNumSplits topics [] 0 = .ok (primaries, index))
    (fits : primaries.length ≤ minNumSplits.toNat) :
    createInputSplits clientConfig topics minNumSplits = replicateSplits primaries minNumSplits := by
  simp [createInputSplits, createConsumer, created, enumerated, bind, Except.bind,
    Nat.not_lt.mpr fits]

def twoPartitionConsumer : BaseConsumer := ⟨fun _ => .ok ⟨[⟨[⟨0⟩, ⟨1⟩]⟩]⟩, fun _ => .ok []⟩

def twoPartitions : ClientConfig := ⟨.ok twoPartitionConsumer⟩

theorem two_partitions_one_split :
    createInputSplits twoPartitions ["t"] 1 = .ok [⟨0, splitProperties "t" 0⟩] := rfl

theorem no_topics_divide_by_zero :
    createInputSplits twoPartitions [] 1 = .error (.panic "attempt to divide by zero") := rfl

end Rlink.Kafka
