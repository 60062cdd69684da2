import Rlink.Kafka.Replication
import Mathlib.Data.List.Nodup

/-! Which partitions `create_input_splits` assigns. While the partitions fit in
`min_num_splits` every one of them gets exactly one connecting split; past that, the
inner `break` drops the rest of the topic it fires in. -/

namespace Rlink.Kafka

def metadataPairs (partitionsOf : String → List MetadataPartition) (topics : List String) :
    List (String × Int) :=
  topics.flatMap fun topic => (partitionsOf topic).map fun partition => (topic, partition.id)

def numberedSplits (start : Nat) (pairs : List (String × Int)) : List InputSplit :=
  (pairs.enumFrom start).map fun entry =>
    ⟨UInt16.ofNat entry.1, splitProperties entry.2.1 entry.2.2⟩

def Carries (inputSplit : InputSplit) (pair : String × Int) : Bool :=
  inputSplit.properties.get "topic" == some (.str pair.1) &&
    inputSplit.properties.get "partition" == some (.i32 pair.2)

def Connects (inputSplit : InputSplit) : Bool :=
  inputSplit.properties.get createKafkaConnection == some (.bool true)

theorem ofNat_toNat (index : UInt16) : UInt16.ofNat index.toNat = index :=
  UInt16.toNat.inj (UInt16.toNat_ofNat_of_lt index.toNat_lt_size)

theorem incrementIndex_of_lt {index : UInt16} {bound : Nat} (below : index.toNat < bound)
    (fits : bound ≤ 65535) : ∃ next, incrementIndex index = .ok next ∧ next.toNat = index.toNat + 1 := by
  have room : index.toNat + 1 < UInt16.size := by simp [UInt16.size]; omega
  have incremented : incrementIndex index = .ok (index + 1) := by simp [incrementIndex, room]
  exact ⟨_, incremented, incrementIndex_eq_ok incremented⟩

theorem numberedSplits_cons (start : Nat) (pair : String × Int) (pairs : List (String × Int)) :
    numberedSplits start (pair :: pairs) =
      ⟨UInt16.ofNat start, splitProperties pair.1 pair.2⟩ :: numberedSplits (start + 1) pairs := by
  simp [numberedSplits, List.enumFrom_cons]

theorem numberedSplits_append (start : Nat) (pairs more : List (String × Int)) :
    numberedSplits start (pairs ++ more) =
      numberedSplits start pairs ++ numberedSplits (start + pairs.length) more := by
  simp [numberedSplits, List.enumFrom_append]

theorem pushPartitions_take (topic : String) (minNumSplits : UInt16)
    (partitions : List MetadataPartition) (inputSplits : List InputSplit) (index : UInt16)
    (below : index.toNat < minNumSplits.toNat) :
    ∃ next, pushPartitions topic minNumSplits partitions inputSplits index =
        .ok (inputSplits ++ numberedSplits index.toNat
          ((partitions.take (minNumSplits.toNat - index.toNat)).map fun partition =>
            (topic, partition.id)), next) ∧
      next.toNat = index.toNat + min partitions.length (minNumSplits.toNat - index.toNat) := by
  induction partitions generalizing inputSplits index with
  | nil => exact ⟨index, by simp [pushPartitions, numberedSplits], by simp⟩
  | cons partition partitions ih =>
    obtain ⟨next, incremented, counted⟩ :=
      incrementIndex_of_lt below (Nat.le_of_lt_succ minNumSplits.toNat_lt_size)
    have take : minNumSplits.toNat - index.toNat = (minNumSplits.toNat - next.toNat) + 1 := by
      omega
    simp only [pushPartitions, incremented, bind, Except.bind, take, List.take_succ_cons,
      List.map_cons, numberedSplits_cons, ofNat_toNat, List.length_cons]
    split
    · rename_i reached
      have stop : minNumSplits.toNat - next.toNat = 0 := by rw [reached]; omega
      have reachedNat := congrArg UInt16.toNat reached
      exact ⟨next, by simp [stop, numberedSplits], by omega⟩
    · rename_i short
      have below' : next.toNat < minNumSplits.toNat := by
        have : next.toNat ≠ minNumSplits.toNat := fun same => short (UInt16.toNat.inj same)
        omega
      obtain ⟨last, pushed, total⟩ := ih (inputSplits ++ [⟨index, splitProperties topic partition.id⟩])
        next below'
      refine ⟨last, ?_, by omega⟩
      rw [pushed, counted]
      simp

theorem pushPartitions_fit (topic : String) (minNumSplits : UInt16)
    (partitions : List MetadataPartition) (inputSplits : List InputSplit) (index : UInt16)
    (fits : index.toNat + partitions.length ≤ minNumSplits.toNat) :
    ∃ next, pushPartitions topic minNumSplits partitions inputSplits index =
        .ok (inputSplits ++ numberedSplits index.toNat
          (partitions.map fun partition => (topic, partition.id)), next) ∧
      next.toNat = index.toNat + partitions.length := by
  cases partitions with
  | nil => exact ⟨index, by simp [pushPartitions, numberedSplits], rfl⟩
  | cons partition partitions =>
    have below : index.toNat < minNumSplits.toNat := by simp at fits; omega
    obtain ⟨next, pushed, counted⟩ :=
      pushPartitions_take topic minNumSplits (partition :: partitions) inputSplits index below
    rw [List.take_of_length_le (by omega)] at pushed
    simp only [List.length_cons] at counted fits ⊢
    exact ⟨next, pushed, by omega⟩

theorem carries_splitProperties (splitNumber : UInt16) (topic : String) (partition : Int)
    (pair : String × Int) :
    Carries ⟨splitNumber, splitProperties topic partition⟩ pair = decide ((topic, partition) = pair) := by
  obtain ⟨name, id⟩ := pair
  by_cases same : topic = name ∧ partition = id
  · simp [Carries, same]
  · simp only [Carries, get_topic_splitProperties, get_partition_splitProperties]
    simp only [not_and_or] at same
    rcases same with other | other <;> simp [other]

theorem carries_replicaOf (inputSplit : InputSplit) (pair : String × Int) :
    Carries (replicaOf inputSplit) pair = Carries inputSplit pair := by
  simp only [Carries, get_replicaOf_of_ne inputSplit (show "topic" ≠ createKafkaConnection by decide),
    get_replicaOf_of_ne inputSplit (show "partition" ≠ createKafkaConnection by decide)]

theorem mem_extendInputSplits {primaries : List InputSplit} {rounds : Nat} {inputSplit : InputSplit}
    (member : inputSplit ∈ extendInputSplits primaries rounds) :
    ∃ primary ∈ primaries, inputSplit = replicaOf primary := by
  induction rounds with
  | zero => cases member
  | succ rounds ih =>
    rcases List.mem_append.mp member with earlier | last
    · exact ih earlier
    · obtain ⟨primary, present, rfl⟩ := List.mem_map.mp last
      exact ⟨primary, present, rfl⟩

theorem createInputSplits_eq_ok {clientConfig : ClientConfig} {topics : List String}
    {minNumSplits : UInt16} {splits : List InputSplit}
    (returned : createInputSplits clientConfig topics minNumSplits = .ok splits) :
    ∃ consumer primaries index, clientConfig.create = .ok consumer ∧
      enumerateSplits consumer minNumSplits topics [] 0 = .ok (primaries, index) ∧
      primaries.length ≤ minNumSplits.toNat ∧ replicateSplits primaries minNumSplits = .ok splits := by
  unfold createInputSplits at returned
  obtain ⟨consumer, created, rest⟩ := bind_eq_ok returned
  obtain ⟨⟨primaries, index⟩, enumerated, rest⟩ := bind_eq_ok rest
  have made : clientConfig.create = .ok consumer := by
    unfold createConsumer at created
    split at created <;> cases created
    assumption
  by_cases longer : primaries.length > minNumSplits.toNat
  · simp [longer] at rest
  · simp only [longer, if_false] at rest
    exact ⟨consumer, primaries, index, made, enumerated, by omega, rest⟩

section Fetched

variable {consumer : BaseConsumer} {partitionsOf : String → List MetadataPartition}

theorem enumerateSplits_fit (minNumSplits : UInt16) (topics : List String)
    (fetched : ∀ topic ∈ topics, fetchTopic consumer topic = .ok ⟨partitionsOf topic⟩)
    (inputSplits : List InputSplit) (index : UInt16)
    (fits : index.toNat + (metadataPairs partitionsOf topics).length ≤ minNumSplits.toNat) :
    ∃ next, enumerateSplits consumer minNumSplits topics inputSplits index =
      .ok (inputSplits ++ numberedSplits index.toNat (metadataPairs partitionsOf topics), next) := by
  induction topics generalizing inputSplits index with
  | nil => exact ⟨index, by simp [enumerateSplits, metadataPairs, numberedSplits]⟩
  | cons topic topics ih =>
    have pairs : metadataPairs partitionsOf (topic :: topics) =
        (partitionsOf topic).map (fun partition => (topic, partition.id)) ++
          metadataPairs partitionsOf topics := rfl
    rw [pairs, List.length_append, List.length_map] at fits
    obtain ⟨next, pushed, counted⟩ :=
      pushPartitions_fit topic minNumSplits (partitionsOf topic) inputSplits index (by omega)
    obtain ⟨last, rest⟩ := ih (fun other member => fetched other (List.mem_cons_of_mem _ member))
      (inputSplits ++ numberedSplits index.toNat
        ((partitionsOf topic).map fun partition => (topic, partition.id))) next (by omega)
    refine ⟨last, ?_⟩
    simp only [enumerateSplits, fetched topic (List.mem_cons_self _ _), bind, Except.bind,
      pushed, rest, pairs, numberedSplits_append, counted, List.length_map, List.append_assoc]

theorem createInputSplits_fit (clientConfig : ClientConfig) (topics : List String)
    (minNumSplits : UInt16) (created : clientConfig.create = .ok consumer)
    (fetched : ∀ topic ∈ topics, fetchTopic consumer topic = .ok ⟨partitionsOf topic⟩)
    (fits : (metadataPairs partitionsOf topics).length ≤ minNumSplits.toNat) :
    createInputSplits clientConfig topics minNumSplits =
      replicateSplits (numberedSplits 0 (metadataPairs partitionsOf topics)) minNumSplits := by
  obtain ⟨next, enumerated⟩ := enumerateSplits_fit minNumSplits topics fetched [] 0 (by simpa)
  exact createInputSplits_of_enumerated created enumerated (by simpa [numberedSplits] using fits)

/-- `(topic, partition)` pairs of the metadata are carried by exactly one split that opens
a connection, and every split carries one of them. -/
def CoversPairs (pairs : List (String × Int)) (splits : List InputSplit) : Prop :=
  (∀ pair ∈ pairs, (splits.filter fun split => Carries split pair && Connects split).length = 1) ∧
    ∀ split ∈ splits, ∃ pair ∈ pairs, Carries split pair = true

theorem countP_numberedSplits {pairs : List (String × Int)} (distinct : pairs.Nodup)
    {pair : String × Int} (present : pair ∈ pairs) (test : InputSplit → Bool)
    (byPair : ∀ (splitNumber : UInt16) (topic : String) (partition : Int),
      test ⟨splitNumber, splitProperties topic partition⟩ = decide ((topic, partition) = pair)) :
    (numberedSplits 0 pairs).countP test = 1 := by
  have counted := List.countP_map (fun other => decide (other = pair)) Prod.snd (pairs.enumFrom 0)
  rw [List.enumFrom_map_snd] at counted
  calc _ = (pairs.enumFrom 0).countP fun entry => decide (entry.2 = pair) := by
        rw [numberedSplits, List.countP_map]
        congr 1; funext entry; exact byPair _ _ _
    _ = pairs.countP fun other => decide (other = pair) := counted.symm
    _ = 1 := List.count_eq_one_of_mem distinct present

theorem covers_numberedSplits {pairs : List (String × Int)} (distinct : pairs.Nodup)
    (rounds : Nat) :
    CoversPairs pairs (numberedSplits 0 pairs ++ extendInputSplits (numberedSplits 0 pairs) rounds) := by
  constructor
  · intro pair present
    have replicas : (extendInputSplits (numberedSplits 0 pairs) rounds).filter
        (fun split => Carries split pair && Connects split) = [] := by
      refine List.filter_eq_nil_iff.mpr fun split member => ?_
      obtain ⟨primary, -, rfl⟩ := mem_extendInputSplits member
      simp [Connects]
    rw [List.filter_append, replicas, List.append_nil, ← List.countP_eq_length_filter]
    exact countP_numberedSplits distinct present _ fun _ _ _ => by
      simp [carries_splitProperties, Connects]
  · intro split member
    rcases List.mem_append.mp member with primary | replica
    · obtain ⟨entry, inside, rfl⟩ := List.mem_map.mp primary
      exact ⟨entry.2, List.snd_mem_of_mem_enumFrom inside, by simp [carries_splitProperties]⟩
    · obtain ⟨primary, inside, rfl⟩ := mem_extendInputSplits replica
      obtain ⟨entry, entryInside, rfl⟩ := List.mem_map.mp inside
      exact ⟨entry.2, List.snd_mem_of_mem_enumFrom entryInside,
        by simp [carries_replicaOf, carries_splitProperties]⟩

/-- Full coverage where all partitions fit in `min_num_splits`: every partition gets exactly
one connecting split. -/
theorem create_input_splits_covers_fitting_partitions (clientConfig : ClientConfig)
    (topics : List String) (minNumSplits : UInt16) (created : clientConfig.create = .ok consumer)
    (fetched : ∀ topic ∈ topics, fetchTopic consumer topic = .ok ⟨partitionsOf topic⟩)
    (distinct : (metadataPairs partitionsOf topics).Nodup)
    (nonempty : metadataPairs partitionsOf topics ≠ [])
    (fits : (metadataPairs partitionsOf topics).length ≤ minNumSplits.toNat) :
    ∃ splits, createInputSplits clientConfig topics minNumSplits = .ok splits ∧
      CoversPairs (metadataPairs partitionsOf topics) splits := by
  have length : (numberedSplits 0 (metadataPairs partitionsOf topics)).length =
      (metadataPairs partitionsOf topics).length := by simp [numberedSplits]
  rw [createInputSplits_fit clientConfig topics minNumSplits created fetched fits,
    replicateSplits_of_le (by rw [length]; exact List.length_pos.mpr nonempty) (by omega)]
  exact ⟨_, rfl, covers_numberedSplits distinct _⟩

theorem two_partitions_covered :
    twoPartitions.create = .ok twoPartitionConsumer ∧
      (∀ topic ∈ ["t"], fetchTopic twoPartitionConsumer topic = .ok ⟨[⟨0⟩, ⟨1⟩]⟩) ∧
      (metadataPairs (fun _ => [⟨0⟩, ⟨1⟩]) ["t"]).Nodup ∧
      metadataPairs (fun _ => [⟨0⟩, ⟨1⟩]) ["t"] ≠ [] ∧
      (metadataPairs (fun _ => [⟨0⟩, ⟨1⟩]) ["t"]).length ≤ (2 : UInt16).toNat ∧
      ∃ splits, createInputSplits twoPartitions ["t"] 2 = .ok splits ∧
        CoversPairs (metadataPairs (fun _ => [⟨0⟩, ⟨1⟩]) ["t"]) splits :=
  have fetched : ∀ topic ∈ ["t"], fetchTopic twoPartitionConsumer topic = .ok ⟨[⟨0⟩, ⟨1⟩]⟩ :=
    fun _ _ => rfl
  ⟨rfl, fetched, by decide, by decide, by decide,
    create_input_splits_covers_fitting_partitions twoPartitions ["t"] 2 rfl fetched
      (by decide) (by decide) (by decide)⟩

/-- Past `min_num_splits` the inner `break` ends the loop over a topic's partitions, and
the call still succeeds. -/
theorem create_input_splits_truncates_topic (clientConfig : ClientConfig) (topic : String)
    (partitions : List MetadataPartition) (minNumSplits : UInt16)
    (created : clientConfig.create = .ok consumer)
    (fetched : fetchTopic consumer topic = .ok ⟨partitions⟩)
    (positive : 0 < minNumSplits.toNat) (more : minNumSplits.toNat < partitions.length) :
    createInputSplits clientConfig [topic] minNumSplits = .ok (numberedSplits 0
      ((partitions.take minNumSplits.toNat).map fun partition => (topic, partition.id))) := by
  obtain ⟨next, pushed, -⟩ := pushPartitions_take topic minNumSplits partitions [] 0 positive
  have enumerated : enumerateSplits consumer minNumSplits [topic] [] 0 = .ok (numberedSplits 0
      ((partitions.take minNumSplits.toNat).map fun partition => (topic, partition.id)), next) := by
    simp only [enumerateSplits, fetched, bind, Except.bind, pushed, List.nil_append,
      UInt16.toNat_zero, Nat.sub_zero]
  have length : (numberedSplits 0 ((partitions.take minNumSplits.toNat).map
      fun partition => (topic, partition.id))).length = minNumSplits.toNat := by
    simp [numberedSplits]; omega
  rw [createInputSplits_of_enumerated created enumerated (by omega)]
  simp only [replicateSplits, length, Nat.lt_irrefl, if_false]

theorem two_partitions_truncated :
    twoPartitions.create = .ok twoPartitionConsumer ∧
      fetchTopic twoPartitionConsumer "t" = .ok ⟨[⟨0⟩, ⟨1⟩]⟩ ∧
      0 < (1 : UInt16).toNat ∧ (1 : UInt16).toNat < [(⟨0⟩ : MetadataPartition), ⟨1⟩].length ∧
      createInputSplits twoPartitions ["t"] 1 = .ok (numberedSplits 0
        (([⟨0⟩, ⟨1⟩] : List MetadataPartition).take 1 |>.map fun partition => ("t", partition.id))) :=
  ⟨rfl, rfl, by decide, by decide,
    create_input_splits_truncates_topic twoPartitions "t" [⟨0⟩, ⟨1⟩] 1 rfl rfl (by decide) (by decide)⟩

/-- A topic list whose metadata lists no partition at all makes the replication step
divide by zero. -/
theorem create_input_splits_divides_by_zero (clientConfig : ClientConfig) (topics : List String)
    (minNumSplits : UInt16) (created : clientConfig.create = .ok consumer)
    (fetched : ∀ topic ∈ topics, fetchTopic consumer topic = .ok ⟨[]⟩)
    (positive : 0 < minNumSplits.toNat) :
    createInputSplits clientConfig topics minNumSplits =
      .error (.panic "attempt to divide by zero") := by
  have none : metadataPairs (fun _ => []) topics = [] := by simp [metadataPairs]
  rw [@createInputSplits_fit consumer (fun _ => []) clientConfig topics minNumSplits created fetched
    (by simp [none])]
  simp [none, numberedSplits, replicateSplits, positive, divideUsize, bind, Except.bind]

end Fetched

def emptyTopicConsumer : BaseConsumer := ⟨fun _ => .ok ⟨[⟨[]⟩]⟩, fun _ => .ok []⟩

theorem empty_topics_divide_by_zero :
    (⟨.ok emptyTopicConsumer⟩ : ClientConfig).create = .ok emptyTopicConsumer ∧
      (∀ topic ∈ ["a", "b"], fetchTopic emptyTopicConsumer topic = .ok ⟨[]⟩) ∧
      0 < (3 : UInt16).toNat ∧
      createInputSplits ⟨.ok emptyTopicConsumer⟩ ["a", "b"] 3 =
        .error (.panic "attempt to divide by zero") :=
  have fetched : ∀ topic ∈ ["a", "b"], fetchTopic emptyTopicConsumer topic = .ok ⟨[]⟩ :=
    fun _ _ => rfl
  ⟨rfl, fetched, by decide,
    create_input_splits_divides_by_zero ⟨.ok emptyTopicConsumer⟩ ["a", "b"] 3 rfl fetched (by decide)⟩

end Rlink.Kafka
