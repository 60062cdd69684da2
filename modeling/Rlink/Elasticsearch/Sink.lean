import Rlink.Core

/-! `ElasticsearchOutputFormat`: `write_record` hands records to a bounded handover, and
the writer tasks of `ElasticsearchWriteThread::run` each loop on `batch_send`, polling a
batch and flushing it as one bulk request. Any interleaving of the producer and the
tasks is a run of `step`; one poll of the handover is one action. -/

namespace Rlink.Elasticsearch

structure ElasticsearchModel where
  index : String
  esType : String
  body : String
  deriving DecidableEq, Repr

inductive JsonBody where
  | action (index esType : String)
  | document (body : String)
  deriving DecidableEq, Repr

def recordBodies (converter : Record → ElasticsearchModel) (record : Record) : List JsonBody :=
  let model := converter record
  [.action model.index model.esType, .document model.body]

/-- How the bulk request ends: a transport error from `send`, a body that is not JSON,
or a JSON body whose `errors` field reads as `as_bool`. -/
inductive BulkResponse where
  | sendError (message : String)
  | jsonError (message : String)
  | json (errors : Option Bool)
  deriving DecidableEq, Repr

def flush (bodyBulk : List JsonBody) (response : BulkResponse) : Except String Bool :=
  if bodyBulk.length = 0 then .ok true
  else match response with
    | .sendError message => .error message
    | .jsonError message => .error message
    | .json none => .error "no errors field in es response"
    | .json (some true) => .error ""
    | .json (some false) => .ok true

/-- A writer task inside `batch_send`: polling with the records taken so far, or
awaiting the flush of its batch. -/
inductive Writer where
  | polling (batch : List Record)
  | flushing (batch : List Record)
  deriving DecidableEq, Repr

def Writer.batch : Writer → List Record
  | .polling batch => batch
  | .flushing batch => batch

structure SinkConfig where
  capacity : Nat
  batchSize : Nat
  parallelism : Nat
  converter : Record → ElasticsearchModel

def openConfig (converter : Record → ElasticsearchModel) : SinkConfig :=
  ⟨10000, 3000, 5, converter⟩

/-- The handover and the writer tasks, with three histories the code does not keep:
the records handed over, those of a bulk request `flush` reported successful, and
those of a bulk request whose flush failed. -/
structure SinkState where
  handover : List Record
  writers : List Writer
  written : List Record
  delivered : List Record
  discarded : List Record
  deriving DecidableEq, Repr

def SinkState.initial (config : SinkConfig) : SinkState :=
  ⟨[], List.replicate config.parallelism (.polling []), [], [], []⟩

inductive Action where
  | writeRecord (record : Record)
  | poll (writer : Nat)
  | flush (writer : Nat) (response : BulkResponse)
  deriving DecidableEq, Repr

/-- One turn of the `for _ in 0..batch_size` loop of `batch_send`: `try_poll_next`, or
leaving the loop when the batch is full or the handover empty. -/
def pollStep (config : SinkConfig) (state : SinkState) (writer : Nat) (batch : List Record) :
    SinkState :=
  if batch.length < config.batchSize then
    match state.handover with
    | record :: rest =>
      { state with handover := rest, writers := state.writers.set writer (.polling (batch ++ [record])) }
    | [] => { state with writers := state.writers.set writer (.flushing batch) }
  else { state with writers := state.writers.set writer (.flushing batch) }

/-- The end of `batch_send`: the batch's bulk request and the outcome of `flush`; the
task then starts its next batch. -/
def flushStep (config : SinkConfig) (state : SinkState) (writer : Nat) (batch : List Record)
    (response : BulkResponse) : SinkState :=
  let state := { state with writers := state.writers.set writer (.polling []) }
  match flush (batch.flatMap (recordBodies config.converter)) response with
  | .ok _ => { state with delivered := state.delivered ++ batch }
  | .error _ => { state with discarded := state.discarded ++ batch }

/-- `none` when the action cannot be taken. `Handover` is not under src/: it is taken to be
a FIFO queue of `capacity` records whose `produce` blocks while it is full and whose
`try_poll_next` takes the front or fails when it is empty. A task polls or flushes only in
the matching phase. -/
def step (config : SinkConfig) (state : SinkState) : Action → Option SinkState
  | .writeRecord record =>
    if state.handover.length < config.capacity then
      some { state with handover := state.handover ++ [record], written := state.written ++ [record] }
    else none
  | .poll writer =>
    match state.writers[writer]? with
    | some (.polling batch) => some (pollStep config state writer batch)
    | _ => none
  | .flush writer response =>
    match state.writers[writer]? with
    | some (.flushing batch) => some (flushStep config state writer batch response)
    | _ => none

inductive Reachable (config : SinkConfig) : SinkState → Prop where
  | initial : Reachable config (.initial config)
  | step {state next : SinkState} {action : Action} :
      Reachable config state → step config state action = some next → Reachable config next

def runFrom (config : SinkConfig) (state : SinkState) : List Action → Option SinkState
  | [] => some state
  | action :: actions => (step config state action).bind fun next => runFrom config next actions

theorem reachable_runFrom {config : SinkConfig} {state next : SinkState} (actions : List Action)
    (reachable : Reachable config state) (ran : runFrom config state actions = some next) :
    Reachable config next := by
  induction actions generalizing state with
  | nil => cases ran; exact reachable
  | cons action actions ih =>
    obtain ⟨middle, stepped, rest⟩ := Option.bind_eq_some.mp ran
    exact ih (reachable.step stepped) rest

@[simp] theorem pollStep_written (config : SinkConfig) (state : SinkState) (writer : Nat)
    (batch : List Record) : (pollStep config state writer batch).written = state.written := by
  unfold pollStep; split <;> (try split) <;> rfl

@[simp] theorem pollStep_delivered (config : SinkConfig) (state : SinkState) (writer : Nat)
    (batch : List Record) : (pollStep config state writer batch).delivered = state.delivered := by
  unfold pollStep; split <;> (try split) <;> rfl

@[simp] theorem pollStep_discarded (config : SinkConfig) (state : SinkState) (writer : Nat)
    (batch : List Record) : (pollStep config state writer batch).discarded = state.discarded := by
  unfold pollStep; split <;> (try split) <;> rfl

@[simp] theorem length_pollStep_writers (config : SinkConfig) (state : SinkState) (writer : Nat)
    (batch : List Record) :
    (pollStep config state writer batch).writers.length = state.writers.length := by
  unfold pollStep; split <;> (try split) <;> simp

theorem length_pollStep_handover (config : SinkConfig) (state : SinkState) (writer : Nat)
    (batch : List Record) :
    (pollStep config state writer batch).handover.length ≤ state.handover.length := by
  unfold pollStep
  split
  · split
    · rename_i front
      simp [front]
    · exact Nat.le_refl _
  · exact Nat.le_refl _

@[simp] theorem length_flushStep_writers (config : SinkConfig) (state : SinkState) (writer : Nat)
    (batch : List Record) (response : BulkResponse) :
    (flushStep config state writer batch response).writers.length = state.writers.length := by
  unfold flushStep; split <;> simp

@[simp] theorem flushStep_handover (config : SinkConfig) (state : SinkState) (writer : Nat)
    (batch : List Record) (response : BulkResponse) :
    (flushStep config state writer batch response).handover = state.handover := by
  unfold flushStep; split <;> rfl

@[simp] theorem flushStep_written (config : SinkConfig) (state : SinkState) (writer : Nat)
    (batch : List Record) (response : BulkResponse) :
    (flushStep config state writer batch response).written = state.written := by
  unfold flushStep; split <;> rfl

end Rlink.Elasticsearch
