import Rlink.Kafka.Open

/-! The calls the runtime makes on the `KafkaInputFormat` of a task: `open`, `record_iter`
and `close`, and `initialize_state` and `snapshot_state` of `CheckpointFunction`. `open`
reads the split, makes the task's checkpoint function, restores it from the handle of the
task's context, makes the handover and starts the consumer; the other calls `unwrap` what
`open` made. -/

namespace Rlink.Kafka

structure CheckpointHandle where
  offset : Int
  deriving DecidableEq, Repr

/-- `KafkaCheckpointFunction`, which is not under src/: the model keeps the partition it was
made for and the offset its state holds, and takes `new` to start with no offset and
`initialize_state` to take the offset of a handle when there is one. -/
structure KafkaCheckpointFunction where
  topic : String
  partition : Int
  offset : Option Int
  deriving DecidableEq, Repr

namespace KafkaCheckpointFunction

def new (topic : String) (partition : Int) : KafkaCheckpointFunction := ⟨topic, partition, none⟩

def initializeState (checkpoint : KafkaCheckpointFunction) :
    Option CheckpointHandle → KafkaCheckpointFunction
  | some handle => { checkpoint with offset := some handle.offset }
  | none => checkpoint

@[simp] theorem initializeState_new (topic : String) (partition : Int)
    (handle : Option CheckpointHandle) :
    (new topic partition).initializeState handle =
      ⟨topic, partition, handle.map (·.offset)⟩ := by
  cases handle <;> rfl

end KafkaCheckpointFunction

/-- The `Handover` `open` makes, known by its size: `Handover` is not under src/, and no
modelled call reads what it holds. -/
structure Handover where
  bufferSize : Nat
  deriving DecidableEq, Repr

/-- The fields of `KafkaInputFormat` that the calls read or set, with the ranges
`create_kafka_consumer` was started on, which the code does not keep. -/
structure KafkaInputFormatState where
  clientConfig : ClientConfig
  bufferSize : Nat
  offsetRange : OffsetRange
  taskTopic : String
  taskPartition : Int
  handover : Option Handover
  checkpoint : Option KafkaCheckpointFunction
  consumers : List ConsumerRange

inductive KafkaCall where
  | «open» (inputSplit : InputSplit) (checkpointHandle : Option CheckpointHandle)
  | recordIter
  | close
  | initializeState (handle : Option CheckpointHandle)
  | snapshotState
  deriving DecidableEq

def KafkaCall.isOpen : KafkaCall → Bool
  | .open _ _ => true
  | _ => false

inductive KafkaReply where
  | done
  | recordIter (handover : Handover) (checkpoint : KafkaCheckpointFunction)
  | snapshot (checkpoint : Option KafkaCheckpointFunction)
  deriving DecidableEq, Repr

namespace KafkaInputFormatState

def new (clientConfig : ClientConfig) (bufferSize : Nat) (offsetRange : OffsetRange) :
    KafkaInputFormatState :=
  ⟨clientConfig, bufferSize, offsetRange, "", 0, none, none, []⟩

def initializeState (format : KafkaInputFormatState) (handle : Option CheckpointHandle) :
    Option KafkaInputFormatState := do
  let checkpoint ← format.checkpoint
  some { format with checkpoint := some (checkpoint.initializeState handle) }

/-- `InputFormat::open`, `none` where one of its `unwrap`s panics:
`consumer_ranges(..).unwrap()` reads the checkpoint `open` has just restored. -/
def «open» (format : KafkaInputFormatState) (inputSplit : InputSplit)
    (checkpointHandle : Option CheckpointHandle) : Option KafkaInputFormatState := do
  let (taskTopic, taskPartition) ← Kafka.taskPartition inputSplit
  let format ← initializeState
    { format with
      taskTopic := taskTopic
      taskPartition := taskPartition
      checkpoint := some (.new taskTopic taskPartition) }
    checkpointHandle
  let format := { format with handover := some ⟨format.bufferSize⟩ }
  match consumerRanges
      ⟨format.clientConfig, format.offsetRange, format.checkpoint.bind (·.offset)⟩
      format.taskTopic format.taskPartition with
  | .ok consumerRange => some { format with consumers := format.consumers ++ [consumerRange] }
  | .error _ => none

def call (format : KafkaInputFormatState) :
    KafkaCall → Option (KafkaInputFormatState × KafkaReply)
  | .open inputSplit checkpointHandle => (format.open inputSplit checkpointHandle).map (·, .done)
  | .recordIter => do
    let handover ← format.handover
    let checkpoint ← format.checkpoint
    some (format, .recordIter handover checkpoint)
  | .close => some (format, .done)
  | .initializeState handle => (format.initializeState handle).map (·, .done)
  | .snapshotState => some (format, .snapshot format.checkpoint)

theorem consumerRanges_names {format : KafkaInputFormat} {topic : String} {partition : Int}
    {consumerRange : ConsumerRange}
    (ranged : consumerRanges format topic partition = .ok consumerRange) :
    consumerRange.topic = topic ∧ consumerRange.partition = partition := by
  unfold consumerRanges at ranged
  split at ranged <;>
  · obtain ⟨⟨beginPartition, endPartition⟩, -, made⟩ := bind_eq_ok ranged
    cases made
    exact ⟨rfl, rfl⟩

theorem open_eq (format : KafkaInputFormatState) (inputSplit : InputSplit)
    (checkpointHandle : Option CheckpointHandle) :
    format.open inputSplit checkpointHandle =
      (KafkaInputFormat.open ⟨format.clientConfig, format.offsetRange,
        checkpointHandle.map (·.offset)⟩ inputSplit).map fun consumerRange =>
        { format with
          taskTopic := consumerRange.topic
          taskPartition := consumerRange.partition
          handover := some ⟨format.bufferSize⟩
          checkpoint := some ⟨consumerRange.topic, consumerRange.partition,
            checkpointHandle.map (·.offset)⟩
          consumers := format.consumers ++ [consumerRange] } := by
  cases read : Kafka.taskPartition inputSplit with
  | none => simp [KafkaInputFormatState.open, KafkaInputFormat.open, read]
  | some pair =>
    obtain ⟨topic, partition⟩ := pair
    rw [Rlink.Kafka.open_eq read]
    cases ranged : consumerRanges ⟨format.clientConfig, format.offsetRange,
        checkpointHandle.map (·.offset)⟩ topic partition with
    | error e => simp [KafkaInputFormatState.open, initializeState, read, ranged]
    | ok consumerRange =>
      obtain ⟨rfl, rfl⟩ := consumerRanges_names ranged
      simp [KafkaInputFormatState.open, initializeState, read, ranged]


theorem call_cases {format next : KafkaInputFormatState} {called : KafkaCall}
    {reply : KafkaReply} (returned : format.call called = some (next, reply)) :
    (∃ inputSplit checkpointHandle consumerRange, called = .open inputSplit checkpointHandle ∧
      KafkaInputFormat.open ⟨format.clientConfig, format.offsetRange,
        checkpointHandle.map (·.offset)⟩ inputSplit = some consumerRange ∧
      next = { format with
        taskTopic := consumerRange.topic
        taskPartition := consumerRange.partition
        handover := some ⟨format.bufferSize⟩
        checkpoint := some ⟨consumerRange.topic, consumerRange.partition,
          checkpointHandle.map (·.offset)⟩
        consumers := format.consumers ++ [consumerRange] }) ∨
    (∃ handle checkpoint, called = .initializeState handle ∧
      format.checkpoint = some checkpoint ∧
      next = { format with checkpoint := some (checkpoint.initializeState handle) }) ∨
    (called.isOpen = false ∧ next = format) := by
  cases called with
  | «open» inputSplit checkpointHandle =>
    obtain ⟨opening, opened, same⟩ := Option.map_eq_some'.mp returned
    obtain ⟨rfl, -⟩ := Prod.mk.inj same
    rw [KafkaInputFormatState.open_eq] at opened
    obtain ⟨consumerRange, started, rfl⟩ := Option.map_eq_some'.mp opened
    exact .inl ⟨inputSplit, checkpointHandle, consumerRange, rfl, started, rfl⟩
  | recordIter =>
    obtain ⟨handover, -, rest⟩ := Option.bind_eq_some.mp returned
    obtain ⟨checkpoint, -, same⟩ := Option.bind_eq_some.mp rest
    exact .inr (.inr ⟨rfl, (Prod.mk.inj (Option.some.inj same)).1.symm⟩)
  | close =>
    cases returned
    exact .inr (.inr ⟨rfl, rfl⟩)
  | initializeState handle =>
    obtain ⟨restored, initialized, same⟩ := Option.map_eq_some'.mp returned
    obtain ⟨rfl, -⟩ := Prod.mk.inj same
    obtain ⟨checkpoint, present, restoredEq⟩ := Option.bind_eq_some.mp initialized
    exact .inr (.inl ⟨handle, checkpoint, rfl, present, (Option.some.inj restoredEq).symm⟩)
  | snapshotState =>
    cases returned
    exact .inr (.inr ⟨rfl, rfl⟩)

end KafkaInputFormatState

def opened (calls : List KafkaCall) : Bool := calls.any KafkaCall.isOpen

def openRanges (clientConfig : ClientConfig) (offsetRange : OffsetRange) (calls : List KafkaCall) :
    List (Option ConsumerRange) :=
  calls.filterMap fun
    | .open inputSplit checkpointHandle =>
      some (KafkaInputFormat.open ⟨clientConfig, offsetRange, checkpointHandle.map (·.offset)⟩
        inputSplit)
    | _ => none

theorem opened_append_of_isOpen {calls : List KafkaCall} {called : KafkaCall}
    (notOpen : called.isOpen = false) : opened (calls ++ [called]) = opened calls := by
  simp [opened, notOpen]

theorem openRanges_append_of_isOpen {clientConfig : ClientConfig} {offsetRange : OffsetRange}
    {calls : List KafkaCall} {called : KafkaCall} (notOpen : called.isOpen = false) :
    openRanges clientConfig offsetRange (calls ++ [called]) =
      openRanges clientConfig offsetRange calls := by
  cases called <;> simp_all [openRanges, KafkaCall.isOpen]

/-- What every run of calls from `KafkaInputFormat::new` keeps: the configuration; the
checkpoint function and the handover, there exactly once an `open` has returned; and one
consumer for each `open`, on the range of its split and handle. -/
structure MadeByOpen (clientConfig : ClientConfig) (offsetRange : OffsetRange)
    (format : KafkaInputFormatState) (calls : List KafkaCall) : Prop where
  configured : format.clientConfig = clientConfig ∧ format.offsetRange = offsetRange
  checkpoint : format.checkpoint.isSome = opened calls
  handover : format.handover.isSome = opened calls
  consumers : format.consumers.map some = openRanges clientConfig offsetRange calls

namespace MadeByOpen

variable {clientConfig : ClientConfig} {offsetRange : OffsetRange}

theorem new (bufferSize : Nat) :
    MadeByOpen clientConfig offsetRange (.new clientConfig bufferSize offsetRange) [] :=
  ⟨⟨rfl, rfl⟩, rfl, rfl, rfl⟩

theorem append_of_isOpen {format : KafkaInputFormatState} {done : List KafkaCall}
    {called : KafkaCall} (made : MadeByOpen clientConfig offsetRange format done)
    (notOpen : called.isOpen = false) :
    MadeByOpen clientConfig offsetRange format (done ++ [called]) := by
  have same := @opened_append_of_isOpen done called notOpen
  exact ⟨made.configured, same ▸ made.checkpoint, same ▸ made.handover,
    (openRanges_append_of_isOpen notOpen).symm ▸ made.consumers⟩

theorem call {format next : KafkaInputFormatState} {done : List KafkaCall} {called : KafkaCall}
    {reply : KafkaReply} (made : MadeByOpen clientConfig offsetRange format done)
    (returned : format.call called = some (next, reply)) :
    MadeByOpen clientConfig offsetRange next (done ++ [called]) := by
  rcases KafkaInputFormatState.call_cases returned with
    ⟨inputSplit, checkpointHandle, consumerRange, rfl, started, rfl⟩ |
    ⟨handle, restored, rfl, present, rfl⟩ | ⟨notOpen, rfl⟩
  · refine ⟨made.configured, by simp [opened, KafkaCall.isOpen],
      by simp [opened, KafkaCall.isOpen], ?_⟩
    obtain ⟨rfl, rfl⟩ := made.configured
    rw [List.map_append, made.consumers]
    simp [openRanges, started]
  · have kept := made.append_of_isOpen
      (show (KafkaCall.initializeState handle).isOpen = false from rfl)
    exact ⟨kept.configured, by rw [← kept.checkpoint, present]; rfl, kept.handover,
      kept.consumers⟩
  · exact made.append_of_isOpen notOpen

end MadeByOpen

theorem runCalls_madeByOpen {clientConfig : ClientConfig} {bufferSize : Nat}
    {offsetRange : OffsetRange} {calls : List KafkaCall} {format : KafkaInputFormatState}
    {replies : List KafkaReply}
    (ran : runCalls KafkaInputFormatState.call (.new clientConfig bufferSize offsetRange) calls =
      some (format, replies)) :
    MadeByOpen clientConfig offsetRange format calls :=
  runCalls_induction (MadeByOpen clientConfig offsetRange) (.new bufferSize)
    (fun _ _ _ _ _ made returned => made.call returned) ran

/-- Every `open` that returns starts one consumer, on the range `KafkaInputFormat.open`
works out from its split and the checkpoint handle of its context, in the order of the
calls: `initialize_state`, before or after, never moves where a consumer starts. -/
theorem kafka_consumers_start_from_open_handle {clientConfig : ClientConfig} {bufferSize : Nat}
    {offsetRange : OffsetRange} {calls : List KafkaCall} {format : KafkaInputFormatState}
    {replies : List KafkaReply}
    (ran : runCalls KafkaInputFormatState.call (.new clientConfig bufferSize offsetRange) calls =
      some (format, replies)) :
    format.consumers.map some = openRanges clientConfig offsetRange calls :=
  (runCalls_madeByOpen ran).consumers

def restoringCalls : List KafkaCall :=
  [.open ⟨0, splitProperties "t" 0⟩ (some ⟨42⟩), .initializeState (some ⟨7⟩),
    .recordIter]

def restoredFormat : KafkaInputFormatState :=
  ⟨twoPartitions, 100, .none, "t", 0, some ⟨100⟩, some ⟨"t", 0, some 7⟩,
    [⟨"t", 0, 42, none⟩]⟩

theorem restored_consumer_starts_at_open_handle :
    runCalls KafkaInputFormatState.call (.new twoPartitions 100 .none) restoringCalls =
        some (restoredFormat, [.done, .done, .recordIter ⟨100⟩ ⟨"t", 0, some 7⟩]) ∧
      restoredFormat.consumers.map some = openRanges twoPartitions .none restoringCalls :=
  have ran : runCalls KafkaInputFormatState.call (.new twoPartitions 100 .none) restoringCalls =
      some (restoredFormat, [.done, .done, .recordIter ⟨100⟩ ⟨"t", 0, some 7⟩]) := rfl
  ⟨ran, kafka_consumers_start_from_open_handle ran⟩

end Rlink.Kafka
