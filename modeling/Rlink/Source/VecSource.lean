import Rlink.Core

/-! `vec_source` and the `IteratorInputFormat` it builds: each task reads the records
whose position, cast to `u16`, is its task number modulo the number of tasks. -/

namespace Rlink.Source

def recordsAt (keep : Nat → Bool) (data : List Record) : List Record :=
  data.enum.filterMap fun (index, record) => if keep index then some record else none

/-- The closure of `vec_source`: the whole of `data` for a single task, else the records
at the positions `index as u16 % num_tasks == task_number`. -/
def vecSourceTaskData (data : List Record) (taskId : TaskId) : Except Exit (List Record) :=
  if taskId.numTasks = 1 then .ok data
  else if taskId.numTasks = 0 ∧ data ≠ [] then
    .error (.panic "attempt to calculate the remainder with a divisor of zero")
  else .ok (recordsAt (fun index => UInt16.ofNat index % taskId.numTasks == taskId.taskNumber) data)

structure IteratorInputFormat where
  parallelism : UInt16
  vecBuilder : Option (InputSplit → Context → Except Exit (List Record))
  inputSplit : Option InputSplit
  context : Option Context

namespace IteratorInputFormat

def new (vecBuilder : InputSplit → Context → Except Exit (List Record)) (parallelism : UInt16) :
    IteratorInputFormat :=
  ⟨parallelism, some vecBuilder, none, none⟩

def «open» (format : IteratorInputFormat) (inputSplit : InputSplit) (context : Context) :
    Except Exit IteratorInputFormat :=
  .ok { format with inputSplit := some inputSplit, context := some context }

def recordIter (format : IteratorInputFormat) :
    Except Exit (IteratorInputFormat × List Record) := do
  let vecBuilder ← unwrap format.vecBuilder
  let inputSplit ← unwrap format.inputSplit
  let context ← unwrap format.context
  let records ← vecBuilder inputSplit context
  .ok ({ format with vecBuilder := none, inputSplit := none, context := none }, records)

end IteratorInputFormat

def vecSource (data : List Record) (parallelism : UInt16) : IteratorInputFormat :=
  .new (fun _ context => vecSourceTaskData data context.taskId) parallelism

def vecSourceRecords (data : List Record) (parallelism : UInt16) (inputSplit : InputSplit)
    (context : Context) : Except Exit (List Record) := do
  let format ← (vecSource data parallelism).«open» inputSplit context
  let (_, records) ← format.recordIter
  .ok records

/-- Round robin by position, as the task assignment is meant to be. -/
def roundRobin (data : List Record) (taskNumber numTasks : Nat) : List Record :=
  recordsAt (fun index => index % numTasks == taskNumber) data

theorem vecSourceRecords_eq (data : List Record) (parallelism : UInt16) (inputSplit : InputSplit)
    (context : Context) :
    vecSourceRecords data parallelism inputSplit context = vecSourceTaskData data context.taskId := by
  simp only [vecSourceRecords, vecSource, IteratorInputFormat.new, IteratorInputFormat.«open»,
    IteratorInputFormat.recordIter, unwrap, bind, Except.bind]
  cases vecSourceTaskData data context.taskId <;> rfl

theorem mem_recordsAt {keep : Nat → Bool} {data : List Record} {record : Record} :
    record ∈ recordsAt keep data ↔ ∃ index, data[index]? = some record ∧ keep index = true := by
  simp only [recordsAt, List.mem_filterMap, Prod.exists, List.mem_enum_iff_getElem?]
  constructor
  · rintro ⟨index, kept, found, selected⟩
    split at selected
    · cases selected; exact ⟨index, found, ‹_›⟩
    · cases selected
  · rintro ⟨index, found, selected⟩
    exact ⟨index, record, found, by simp [selected]⟩

theorem recordsAt_congr {keep other : Nat → Bool} {data : List Record}
    (agree : ∀ index < data.length, keep index = other index) :
    recordsAt keep data = recordsAt other data := by
  apply List.filterMap_congr
  rintro ⟨index, record⟩ member
  simp [agree index (List.mem_enum member).1]

theorem recordsAt_all {keep : Nat → Bool} {data : List Record}
    (kept : ∀ index < data.length, keep index = true) : recordsAt keep data = data := by
  rw [@recordsAt_congr keep (fun _ => true) data kept]
  show data.enum.filterMap (some ∘ Prod.snd) = data
  rw [List.filterMap_eq_map, List.enum_map_snd]


theorem castIndex_beq (index : Nat) (numTasks taskNumber : UInt16) :
    (UInt16.ofNat index % numTasks == taskNumber) =
      (index % 65536 % numTasks.toNat == taskNumber.toNat) := by
  have cast : (UInt16.ofNat index % numTasks).toNat = index % 65536 % numTasks.toNat := by
    rw [UInt16.toNat_mod]
    simp [UInt16.toNat, UInt16.ofNat]
  rw [← cast, Bool.eq_iff_iff, beq_iff_eq, beq_iff_eq]
  exact ⟨congrArg UInt16.toNat, UInt16.toNat.inj⟩

/-- Where the `u16` cast does not wrap, or wraps at a multiple of the number of tasks,
each task reads its round-robin share. -/
theorem vec_source_round_robin (data : List Record) (parallelism : UInt16)
    (inputSplit : InputSplit) (context : Context)
    (assigned : context.taskId.taskNumber.toNat < context.taskId.numTasks.toNat)
    (castHarmless : data.length ≤ 65536 ∨ context.taskId.numTasks.toNat ∣ 65536) :
    vecSourceRecords data parallelism inputSplit context =
      .ok (roundRobin data context.taskId.taskNumber.toNat context.taskId.numTasks.toNat) := by
  rw [vecSourceRecords_eq]
  unfold vecSourceTaskData
  split
  · rename_i single
    have first : context.taskId.taskNumber.toNat = 0 := by simp [single] at assigned; omega
    rw [roundRobin, recordsAt_all (by simp [single, first, Nat.mod_one])]
  · have positive : context.taskId.numTasks ≠ 0 := by
      rintro zero; simp [zero] at assigned
    rw [if_neg (by simp [positive]), roundRobin]
    refine congrArg _ (recordsAt_congr fun index bound => ?_)
    rw [castIndex_beq]
    rcases castHarmless with short | divides
    · rw [Nat.mod_eq_of_lt (show index < 65536 by omega)]
    · rw [Nat.mod_mod_of_dvd _ divides]

def countedRecords (count : Nat) : List Record := (List.range count).map fun i => ⟨i, []⟩

def taskContext (taskNumber numTasks : UInt16) : Context :=
  ⟨⟨0, taskNumber, numTasks⟩, [], ⟨none, none⟩⟩

theorem two_records_round_robin :
    (taskContext 1 2).taskId.taskNumber.toNat < (taskContext 1 2).taskId.numTasks.toNat ∧
      ((countedRecords 2).length ≤ 65536 ∨ (taskContext 1 2).taskId.numTasks.toNat ∣ 65536) ∧
      vecSourceRecords (countedRecords 2) 2 ⟨0, .new⟩ (taskContext 1 2) =
        .ok (roundRobin (countedRecords 2) (taskContext 1 2).taskId.taskNumber.toNat
          (taskContext 1 2).taskId.numTasks.toNat) :=
  ⟨by decide, .inl (by decide),
    vec_source_round_robin (countedRecords 2) 2 ⟨0, .new⟩ (taskContext 1 2) (by decide) (.inl (by decide))⟩

theorem vec_source_task_zero_reads_position_65536 :
    ∃ records, vecSourceRecords (countedRecords 65537) 3 ⟨0, .new⟩ (taskContext 0 3) =
        .ok records ∧
      ⟨65536, []⟩ ∈ records ∧ ⟨65536, []⟩ ∉ roundRobin (countedRecords 65537) 0 3 := by
  have nonempty : countedRecords 65537 ≠ [] := by simp [countedRecords]
  have ran : vecSourceRecords (countedRecords 65537) 3 ⟨0, .new⟩ (taskContext 0 3) =
      .ok (recordsAt (fun index => UInt16.ofNat index % 3 == 0) (countedRecords 65537)) := by
    rw [vecSourceRecords_eq]
    simp [vecSourceTaskData, taskContext, nonempty]
  refine ⟨_, ran, mem_recordsAt.mpr ⟨65536, by simp [countedRecords], by decide⟩, ?_⟩
  rw [roundRobin, mem_recordsAt]
  rintro ⟨index, found, kept⟩
  simp [countedRecords] at found
  obtain ⟨bound, entry⟩ := List.getElem?_eq_some_iff.mp found
  rw [List.getElem_range] at entry
  subst entry
  simp at kept

theorem recordsAt_eq_map_filter (keep : Nat → Bool) (data : List Record) :
    recordsAt keep data = (data.enum.filter fun entry => keep entry.1).map Prod.snd := by
  unfold recordsAt
  induction data.enum with
  | nil => rfl
  | cons entry entries ih =>
    by_cases kept : keep entry.1 <;> simp [List.filterMap_cons, List.filter_cons, kept, ih]

theorem perm_flatMap_filter {α : Type} (key : α → Nat) (values : List Nat)
    (distinct : values.Nodup) (entries : List α) (covered : ∀ entry ∈ entries, key entry ∈ values) :
    (values.flatMap fun value => entries.filter fun entry => key entry == value).Perm entries := by
  induction values generalizing entries with
  | nil =>
    cases entries with
    | nil => exact .nil
    | cons entry _ => exact absurd (covered entry (List.mem_cons_self _ _)) (List.not_mem_nil _)
  | cons value values ih =>
    obtain ⟨fresh, distinct⟩ := List.nodup_cons.mp distinct
    have others : (values.flatMap fun other => entries.filter fun entry => key entry == other) =
        values.flatMap fun other =>
          (entries.filter fun entry => !(key entry == value)).filter fun entry => key entry == other := by
      refine List.flatMap_congr fun other member => ?_
      rw [List.filter_filter]
      refine List.filter_congr fun entry _ => ?_
      by_cases same : key entry = other
      · have apart : other ≠ value := fun equal => fresh (equal ▸ member)
        simp [same, apart]
      · simp [same]
    have rest := ih distinct (entries.filter fun entry => !(key entry == value)) (by
      intro entry member
      obtain ⟨inside, other⟩ := List.mem_filter.mp member
      rcases List.mem_cons.mp (covered entry inside) with same | later
      · simp [same] at other
      · exact later)
    rw [List.flatMap_cons, others]
    exact ((rest.append_left _).trans (List.filter_append_perm _ entries))

/-- Whatever the length of `data`, the tasks `0 .. num_tasks - 1` together read every
record exactly once: the cast moves records between tasks but never drops or repeats one. -/
theorem vec_source_tasks_partition (data : List Record) (parallelism : UInt16)
    (inputSplit : InputSplit) (numTasks : UInt16) (contextOf : Nat → Context)
    (assigned : ∀ taskNumber < numTasks.toNat,
      (contextOf taskNumber).taskId = ⟨(contextOf taskNumber).taskId.jobId,
        UInt16.ofNat taskNumber, numTasks⟩)
    (positive : 0 < numTasks.toNat) :
    ∃ outputs : Nat → List Record,
      (∀ taskNumber < numTasks.toNat, vecSourceRecords data parallelism inputSplit
        (contextOf taskNumber) = .ok (outputs taskNumber)) ∧
      ((List.range numTasks.toNat).flatMap outputs).Perm data := by
  have nonzero : numTasks ≠ 0 := fun zero => by simp [zero] at positive
  by_cases single : numTasks = 1
  · refine ⟨fun _ => data, fun taskNumber below => ?_, ?_⟩
    · rw [vecSourceRecords_eq, assigned taskNumber below]
      simp [vecSourceTaskData, single]
    · simp [single, List.range_succ]
  · let slot := fun index => index % 65536 % numTasks.toNat
    refine ⟨fun taskNumber => recordsAt (fun index => slot index == taskNumber) data,
      fun taskNumber below => ?_, ?_⟩
    · rw [vecSourceRecords_eq, assigned taskNumber below]
      simp only [vecSourceTaskData, single, nonzero, false_and, if_false]
      have small : (UInt16.ofNat taskNumber).toNat = taskNumber :=
        UInt16.toNat_ofNat_of_lt (by have := numTasks.toNat_lt_size; omega)
      exact congrArg _ (recordsAt_congr fun index _ => by rw [castIndex_beq, small])
    · have covered := perm_flatMap_filter (fun (entry : Nat × Record) => slot entry.1)
        (List.range numTasks.toNat) (List.nodup_range _) data.enum
        (fun _ _ => List.mem_range.mpr (Nat.mod_lt _ positive))
      simpa only [recordsAt_eq_map_filter, List.map_flatMap, List.enum_map_snd]
        using covered.map Prod.snd

theorem two_tasks_partition_three_records :
    (∀ taskNumber < (2 : UInt16).toNat, (taskContext (UInt16.ofNat taskNumber) 2).taskId =
      ⟨(taskContext (UInt16.ofNat taskNumber) 2).taskId.jobId, UInt16.ofNat taskNumber, 2⟩) ∧
    0 < (2 : UInt16).toNat ∧
    ∃ outputs : Nat → List Record,
      (∀ taskNumber < (2 : UInt16).toNat, vecSourceRecords (countedRecords 3) 2 ⟨0, .new⟩
        (taskContext (UInt16.ofNat taskNumber) 2) = .ok (outputs taskNumber)) ∧
      ((List.range (2 : UInt16).toNat).flatMap outputs).Perm (countedRecords 3) :=
  ⟨fun _ _ => rfl, by decide, vec_source_tasks_partition (countedRecords 3) 2 ⟨0, .new⟩ 2
    (fun taskNumber => taskContext (UInt16.ofNat taskNumber) 2) (fun _ _ => rfl) (by decide)⟩

end Rlink.Source
