import Rlink.Elasticsearch.Progress

/-! `batch_send` and `run0` of `ElasticsearchWriteThread` as whole calls. The loop
`for _ in 0..batch_size` of `batch_send` polls the handover and pushes an `Index` body and
a document body for each record; `flush` sends them as one bulk request, and `run0` sleeps
according to the result. One call is one turn of a writer task of the interleaving model
of `step`: its polls, then its flush. -/

namespace Rlink.Elasticsearch

/-- The `for _ in 0..batch_size` loop of `batch_send`, `turns` turns left: `try_poll_next`
takes the front of the handover and its two bodies are pushed onto `bulkBodies`; an empty
handover breaks the loop. Returns the bodies and the handover left. -/
def pollBodies (converter : Record → ElasticsearchModel) :
    Nat → List JsonBody → List Record → List JsonBody × List Record
  | 0, bulkBodies, handover => (bulkBodies, handover)
  | _ + 1, bulkBodies, [] => (bulkBodies, [])
  | turns + 1, bulkBodies, record :: rest =>
    pollBodies converter turns (bulkBodies ++ recordBodies converter record) rest

/-- `batch_send` from `handover` when its bulk request ends in `response`: the handover
left, and `Ok(len)` with `len` the number of bodies, or the message of the error of
`flush`, which `map_err` carries over through `format!`. -/
def batchSend (config : SinkConfig) (handover : List Record) (response : BulkResponse) :
    List Record × Except String Nat :=
  let (bulkBodies, left) := pollBodies config.converter config.batchSize [] handover
  (left, (flush bulkBodies response).map fun _ => bulkBodies.length)

def run0Pause : Except String Nat → Nat
  | .ok len => if len = 0 then 1000 else 0
  | .error _ => 100

theorem pollBodies_eq (converter : Record → ElasticsearchModel) :
    ∀ (turns : Nat) (bulkBodies : List JsonBody) (handover : List Record),
      pollBodies converter turns bulkBodies handover =
        (bulkBodies ++ (handover.take turns).flatMap (recordBodies converter),
          handover.drop turns)
  | 0, _, _ => by simp [pollBodies]
  | _ + 1, _, [] => by simp [pollBodies]
  | turns + 1, bulkBodies, record :: rest => by
    simp [pollBodies, pollBodies_eq converter turns _ rest]

@[simp] theorem length_flatMap_recordBodies (converter : Record → ElasticsearchModel)
    (records : List Record) :
    (records.flatMap (recordBodies converter)).length = 2 * records.length := by
  induction records with
  | nil => rfl
  | cons record rest ih => simp [recordBodies, ih]; omega

theorem batchSend_eq (config : SinkConfig) (handover : List Record) (response : BulkResponse) :
    batchSend config handover response =
      (handover.drop config.batchSize,
        (flush ((handover.take config.batchSize).flatMap (recordBodies config.converter))
          response).map fun _ => 2 * (handover.take config.batchSize).length) := by
  simp only [batchSend, pollBodies_eq, List.nil_append, length_flatMap_recordBodies]

theorem set_of_getElem? {α : Type} {l : List α} {i : Nat} {a : α} (h : l[i]? = some a) :
    l.set i a = l := by
  refine List.ext_getElem? fun j => ?_
  rw [List.getElem?_set]
  split
  · subst_vars
    simp [h, (List.getElem?_eq_some_iff.mp h).1]
  · rfl

/-- A `batch_send` call by a writer task waiting for its next batch is a turn of that task
in the interleaving model: polls, then one flush. The call leaves the handover the model
leaves, and the records it took are delivered when it returns `Ok` and discarded when it
returns an error. -/
theorem batch_send_is_writer_turn {config : SinkConfig} {state : SinkState} {writer : Nat}
    (idle : state.writers[writer]? = some (.polling [])) (response : BulkResponse) :
    ∃ polls, (∀ action ∈ polls, action = .poll writer) ∧
      runFrom config state (polls ++ [.flush writer response]) = some
        { state with
          handover := (batchSend config state.handover response).1
          delivered := state.delivered ++
            if (batchSend config state.handover response).2.isOk
            then state.handover.take config.batchSize else []
          discarded := state.discarded ++
            if (batchSend config state.handover response).2.isOk
            then [] else state.handover.take config.batchSize } := by
  obtain ⟨handover, writers, written, delivered, discarded⟩ := state
  have present : writer < writers.length := (List.getElem?_eq_some_iff.mp idle).1
  obtain ⟨polls, polled, filled⟩ :=
    fill_batch config written delivered discarded handover writers [] idle (by simp)
  simp only [List.length_nil, Nat.sub_zero, List.nil_append] at filled
  refine ⟨polls, polled, ?_⟩
  rw [runFrom_append, filled, Option.some_bind]
  simp only [runFrom, step, List.getElem?_set_self (by simpa using present), Option.some_bind,
    flushStep, List.set_set, set_of_getElem? idle, batchSend_eq]
  cases flush ((handover.take config.batchSize).flatMap (recordBodies config.converter))
    response <;> simp [Except.map, Except.isOk, Except.toBool]

theorem two_records_sent_in_one_turn :
    twoRecordsState.writers[0]? = some (.polling []) ∧
      ∃ polls, (∀ action ∈ polls, action = .poll 0) ∧
        runFrom (openConfig indexAll) twoRecordsState (polls ++ [.flush 0 accepted]) = some
          { twoRecordsState with
            handover := (batchSend (openConfig indexAll) twoRecordsState.handover accepted).1
            delivered := twoRecordsState.delivered ++
              if (batchSend (openConfig indexAll) twoRecordsState.handover accepted).2.isOk
              then twoRecordsState.handover.take (openConfig indexAll).batchSize else []
            discarded := twoRecordsState.discarded ++
              if (batchSend (openConfig indexAll) twoRecordsState.handover accepted).2.isOk
              then [] else twoRecordsState.handover.take (openConfig indexAll).batchSize } :=
  ⟨rfl, batch_send_is_writer_turn rfl accepted⟩

/-- `batch_send` takes the first `batch_size` records of the handover, and `len` counts two
bodies for each of them; an empty batch is never sent, so `run0` sleeps a second exactly
when the handover was empty or `batch_size` is `0`. -/
theorem run0_sleeps_only_when_nothing_taken (config : SinkConfig) (handover : List Record)
    (response : BulkResponse) :
    (batchSend config handover response).1 = handover.drop config.batchSize ∧
    (∀ len, (batchSend config handover response).2 = .ok len →
      len = 2 * min config.batchSize handover.length) ∧
    (run0Pause (batchSend config handover response).2 = 1000 ↔
      handover = [] ∨ config.batchSize = 0) := by
  rw [batchSend_eq, or_comm, ← List.take_eq_nil_iff, ← List.length_take]
  refine ⟨rfl, ?_, ?_⟩
  · intro len returned
    cases flushed : flush ((handover.take config.batchSize).flatMap
      (recordBodies config.converter)) response <;> simp_all [Except.map]
  · cases handover.take config.batchSize with
    | nil => simp [flush, Except.map, run0Pause]
    | cons record rest =>
      cases flush ((record :: rest).flatMap (recordBodies config.converter)) response with
      | error message => simp [Except.map, run0Pause]
      | ok sent =>
        simp only [Except.map, run0Pause, List.length_cons]
        rw [if_neg (by omega)]
        exact iff_of_false (by decide) (List.cons_ne_nil record rest)

end Rlink.Elasticsearch
