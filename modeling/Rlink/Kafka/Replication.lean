import Rlink.Kafka.Enumeration

/-! The replication step of `create_input_splits`: fewer primaries than
`min_num_splits` are cloned in whole rounds, each clone keeping its primary's number,
topic and partition but not opening a connection of its own. -/

namespace Rlink.Kafka

theorem length_extendInputSplits (inputSplits : List InputSplit) (rounds : Nat) :
    (extendInputSplits inputSplits rounds).length = rounds * inputSplits.length := by
  induction rounds with
  | zero => simp [extendInputSplits]
  | succ rounds ih => simp [extendInputSplits, ih, Nat.succ_mul]

theorem getElem_extendInputSplits (inputSplits : List InputSplit) (rounds j : Nat)
    (nonempty : 0 < inputSplits.length)
    (bound : j < (extendInputSplits inputSplits rounds).length) :
    (extendInputSplits inputSplits rounds)[j] =
      replicaOf (inputSplits.get ⟨j % inputSplits.length, Nat.mod_lt _ nonempty⟩) := by
  induction rounds with
  | zero => simp [extendInputSplits] at bound
  | succ rounds ih =>
    simp only [extendInputSplits, List.getElem_append]
    split
    · exact ih ‹_›
    · have earlier := length_extendInputSplits inputSplits rounds
      have within : j - rounds * inputSplits.length < inputSplits.length := by
        simp only [extendInputSplits, List.length_append, List.length_map, earlier] at bound
        omega
      have offset : j % inputSplits.length = j - rounds * inputSplits.length := by
        calc j % inputSplits.length
            = (j - rounds * inputSplits.length + rounds * inputSplits.length) %
                inputSplits.length := by rw [Nat.sub_add_cancel (by omega)]
          _ = j - rounds * inputSplits.length := by
              rw [Nat.add_mul_mod_self_right, Nat.mod_eq_of_lt within]
      simp [earlier, offset]

theorem replicateSplits_of_le {primaries : List InputSplit} {minNumSplits : UInt16}
    (nonempty : 0 < primaries.length) (fits : primaries.length ≤ minNumSplits.toNat) :
    replicateSplits primaries minNumSplits =
      .ok (primaries ++ extendInputSplits primaries
        ((minNumSplits.toNat + primaries.length - 1) / primaries.length - 1)) := by
  unfold replicateSplits
  split
  · simp [divideUsize, Nat.pos_iff_ne_zero.mp nonempty]
    rfl
  · have once : (minNumSplits.toNat + primaries.length - 1) / primaries.length = 1 :=
      Nat.div_eq_of_lt_le (by omega) (by omega)
    simp [once, extendInputSplits]

/-- `splits` is `⌈min / n⌉` rounds of the `n` primaries: position `i` has the number,
topic and partition of primary `i % n`, and only the first round opens a connection. -/
def Replicates (primaries splits : List InputSplit) (minNumSplits : Nat) : Prop :=
  splits.length = primaries.length * ((minNumSplits + primaries.length - 1) / primaries.length) ∧
  minNumSplits ≤ splits.length ∧ splits.length < minNumSplits + primaries.length ∧
  ∀ i (bound : i < splits.length) primary, primaries[i % primaries.length]? = some primary →
    (splits[i]).splitNumber = primary.splitNumber ∧
    (splits[i]).splitNumber.toNat = i % primaries.length ∧
    (splits[i]).properties.get "topic" = primary.properties.get "topic" ∧
    (splits[i]).properties.get "partition" = primary.properties.get "partition" ∧
    (splits[i]).properties.get createKafkaConnection = some (.bool (decide (i < primaries.length)))

theorem rounds_bounds {primaries minNumSplits : Nat} (nonempty : 0 < primaries)
    (fits : primaries ≤ minNumSplits) :
    primaries + ((minNumSplits + primaries - 1) / primaries - 1) * primaries =
        primaries * ((minNumSplits + primaries - 1) / primaries) ∧
      minNumSplits ≤ primaries * ((minNumSplits + primaries - 1) / primaries) ∧
      primaries * ((minNumSplits + primaries - 1) / primaries) < minNumSplits + primaries := by
  have atLeastOne : 1 ≤ (minNumSplits + primaries - 1) / primaries :=
    (Nat.le_div_iff_mul_le nonempty).mpr (by omega)
  have division := Nat.div_add_mod (minNumSplits + primaries - 1) primaries
  have remainder := Nat.mod_lt (minNumSplits + primaries - 1) nonempty
  refine ⟨?_, by omega, by omega⟩
  rw [Nat.sub_one_mul, Nat.mul_comm]
  have := Nat.le_mul_of_pos_right primaries atLeastOne
  omega

theorem replicates_of_enumerated {primaries : List InputSplit} {index : UInt16}
    (enumerated : Enumerated primaries index) (nonempty : 0 < primaries.length)
    (minNumSplits : Nat) (fits : primaries.length ≤ minNumSplits) :
    Replicates primaries (primaries ++ extendInputSplits primaries
      ((minNumSplits + primaries.length - 1) / primaries.length - 1)) minNumSplits := by
  obtain ⟨total, lower, upper⟩ := rounds_bounds nonempty fits
  refine ⟨by simpa [length_extendInputSplits] using total, by simpa [length_extendInputSplits,
    total] using lower, by simpa [length_extendInputSplits, total] using upper, ?_⟩
  intro i bound primary found
  obtain ⟨within, rfl⟩ := List.getElem?_eq_some_iff.mp found
  have numbered := enumerated.numbered _ within
  rw [List.getElem_append]
  split
  · rename_i first
    have same : i % primaries.length = i := Nat.mod_eq_of_lt first
    simp only [same, true_and] at numbered ⊢
    exact ⟨numbered, by simpa [first] using enumerated.connecting _ (List.getElem_mem _)⟩
  · rename_i later
    have shifted : (i - primaries.length) % primaries.length = i % primaries.length :=
      (Nat.mod_eq_sub_mod (by omega)).symm
    rw [getElem_extendInputSplits _ _ _ nonempty]
    simp only [List.get_eq_getElem, shifted, splitNumber_replicaOf, later, decide_False, true_and]
    exact ⟨numbered, get_replicaOf_of_ne _ (by decide), get_replicaOf_of_ne _ (by decide),
      get_flag_replicaOf _⟩

/-- Replication in `create_input_splits`: with `1 ≤ n ≤ min_num_splits` enumerated
primaries, the call returns `⌈min / n⌉` rounds of them, and the primaries alone when
`n = min_num_splits`. -/
theorem create_input_splits_replicates (clientConfig : ClientConfig) (topics : List String)
    (minNumSplits : UInt16) (consumer : BaseConsumer) (primaries : List InputSplit)
    (index : UInt16) (created : clientConfig.create = .ok consumer)
    (enumerated : enumerateSplits consumer minNumSplits topics [] 0 = .ok (primaries, index))
    (nonempty : 0 < primaries.length) (fits : primaries.length ≤ minNumSplits.toNat) :
    ∃ splits, createInputSplits clientConfig topics minNumSplits = .ok splits ∧
      Replicates primaries splits minNumSplits.toNat ∧
      (primaries.length = minNumSplits.toNat → splits = primaries) := by
  have invariant := enumerateSplits_enumerated consumer minNumSplits topics enumerated_nil enumerated
  refine ⟨_, (createInputSplits_of_enumerated created enumerated fits).trans
    (replicateSplits_of_le nonempty fits), replicates_of_enumerated invariant nonempty _ fits, ?_⟩
  intro same
  have once : (minNumSplits.toNat + primaries.length - 1) / primaries.length = 1 :=
    Nat.div_eq_of_lt_le (by omega) (by omega)
  simp [once, extendInputSplits]

theorem two_partitions_five_splits :
    twoPartitions.create = .ok twoPartitionConsumer ∧
      enumerateSplits twoPartitionConsumer 5 ["t"] [] 0 =
        .ok ([⟨0, splitProperties "t" 0⟩, ⟨1, splitProperties "t" 1⟩], 2) ∧
      0 < 2 ∧ 2 ≤ 5 ∧
      ∃ splits, createInputSplits twoPartitions ["t"] 5 = .ok splits ∧
        Replicates [⟨0, splitProperties "t" 0⟩, ⟨1, splitProperties "t" 1⟩] splits 5 ∧
        (2 = 5 → splits = [⟨0, splitProperties "t" 0⟩, ⟨1, splitProperties "t" 1⟩]) :=
  ⟨rfl, rfl, by decide, by decide,
    create_input_splits_replicates twoPartitions ["t"] 5 twoPartitionConsumer _ 2 rfl rfl
      (by decide) (by decide)⟩

end Rlink.Kafka
