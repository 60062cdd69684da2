import Rlink.Elasticsearch.Delivery

/-! Progress of the sink. While the cluster accepts every bulk request, writer task `0`
alone, polling and flushing, empties the handover and delivers the records in the order
they were handed over; whatever the cluster answers, it still empties the handover, each
record ending delivered or discarded. A second writer task can overtake it, so the sink as
a whole does not keep the handover's order. -/

namespace Rlink.Elasticsearch

def accepted : BulkResponse := .json (some false)

theorem flush_accepted (bodyBulk : List JsonBody) : flush bodyBulk accepted = .ok true := by
  unfold flush accepted
  split <;> rfl

theorem runFrom_append (config : SinkConfig) (state : SinkState) (actions more : List Action) :
    runFrom config state (actions ++ more) =
      (runFrom config state actions).bind fun middle => runFrom config middle more := by
  induction actions generalizing state with
  | nil => rfl
  | cons action actions ih =>
    simp only [List.cons_append, runFrom]
    cases step config state action <;> simp [ih]

section Writer

variable (config : SinkConfig) (written delivered discarded : List Record)

theorem fill_batch {writer : Nat} (handover : List Record) (writers : List Writer)
    (batch : List Record) (found : writers[writer]? = some (.polling batch))
    (room : batch.length ≤ config.batchSize) :
    ∃ actions, (∀ action ∈ actions, action = .poll writer) ∧
      runFrom config ⟨handover, writers, written, delivered, discarded⟩ actions =
        some ⟨handover.drop (config.batchSize - batch.length),
          writers.set writer
            (.flushing (batch ++ handover.take (config.batchSize - batch.length))),
          written, delivered, discarded⟩ := by
  induction handover generalizing writers batch with
  | nil =>
    refine ⟨[.poll writer], by simp, ?_⟩
    simp only [runFrom, step, found, pollStep]
    split <;> simp
  | cons record rest ih =>
    by_cases short : batch.length < config.batchSize
    · have present : writer < writers.length := (List.getElem?_eq_some_iff.mp found).1
      obtain ⟨actions, polls, ran⟩ := ih (writers.set writer (.polling (batch ++ [record])))
        (batch ++ [record]) (List.getElem?_set_self (by simpa using present))
        (by simp only [List.length_append, List.length_singleton]; omega)
      refine ⟨.poll writer :: actions, by simpa using polls, ?_⟩
      have remaining : config.batchSize - batch.length =
          config.batchSize - (batch ++ [record]).length + 1 := by simp; omega
      simp only [runFrom, step, found, pollStep, short, if_true]
      rw [Option.some_bind, ran, remaining, List.drop_succ_cons, List.take_succ_cons, List.set_set,
        List.append_assoc, List.singleton_append]
    · have full : config.batchSize - batch.length = 0 := by omega
      refine ⟨[.poll writer], by simp, ?_⟩
      simp [runFrom, step, found, pollStep, short, full]

theorem poll_front {writer : Nat} (record : Record) (handover : List Record)
    (writers : List Writer) (batch : List Record) (found : writers[writer]? = some (.polling batch))
    (room : batch.length < config.batchSize) :
    step config ⟨record :: handover, writers, written, delivered, discarded⟩ (.poll writer) =
      some ⟨handover, writers.set writer (.polling (batch ++ [record])), written, delivered,
        discarded⟩ := by
  simp [step, found, pollStep, room]

theorem flush_batch {writer : Nat} (handover : List Record) (writers : List Writer)
    (batch : List Record) (found : writers[writer]? = some (.flushing batch)) :
    step config ⟨handover, writers, written, delivered, discarded⟩ (.flush writer accepted) =
      some ⟨handover, writers.set writer (.polling []), written, delivered ++ batch, discarded⟩ := by
  simp [step, found, flushStep, flush_accepted]

theorem accepted_turn {writer : Nat} (handover : List Record) (writers : List Writer)
    (batch : List Record) (found : writers[writer]? = some (.polling batch))
    (room : batch.length ≤ config.batchSize) :
    ∃ actions, runFrom config ⟨handover, writers, written, delivered, discarded⟩
        (actions ++ [.flush writer accepted]) =
      some ⟨handover.drop (config.batchSize - batch.length), writers.set writer (.polling []),
        written, delivered ++ (batch ++ handover.take (config.batchSize - batch.length)),
        discarded⟩ := by
  have present : writer < writers.length := (List.getElem?_eq_some_iff.mp found).1
  obtain ⟨polls, -, filled⟩ :=
    fill_batch config written delivered discarded handover writers batch found room
  refine ⟨polls, ?_⟩
  rw [runFrom_append, filled, Option.some_bind, runFrom, flush_batch config written delivered
    discarded _ _ _ (List.getElem?_set_self (by simpa using present)), Option.some_bind,
    List.set_set]
  rfl

/-- What a drain by writer `0` achieves from the state `⟨handover, writers, ...⟩`: the
handover empties and `delivered` grows by `batch` and then the handover, in order. -/
def Drains (handover : List Record) (writers : List Writer) (batch : List Record) : Prop :=
  ∃ actions later, (∀ action ∈ actions, action = .poll 0 ∨ action = .flush 0 accepted) ∧
    runFrom config ⟨handover, writers, written, delivered, discarded⟩ actions = some later ∧
    later.handover = [] ∧ later.written = written ∧ later.discarded = discarded ∧
    later.delivered = delivered ++ batch ++ handover

variable {config written discarded}

theorem drains_of_polling_empty (batching : 0 < config.batchSize) :
    ∀ (handover : List Record) (writers : List Writer) (delivered : List Record),
      writers[0]? = some (.polling []) →
      Drains config written delivered discarded handover writers []
  | [], _, _, _ => ⟨[], _, by simp, rfl, rfl, rfl, rfl, by simp⟩
  | record :: rest, writers, delivered, found => by
    have nonempty : 0 < writers.length := (List.getElem?_eq_some_iff.mp found).1
    obtain ⟨polls, polled, filled⟩ :=
      fill_batch config written delivered discarded (record :: rest) writers [] found (by simp)
    simp only [List.length_nil, Nat.sub_zero, List.nil_append] at filled
    have flushed := flush_batch config written delivered discarded
      ((record :: rest).drop config.batchSize)
      (writers.set 0 (.flushing ((record :: rest).take config.batchSize))) _
      (List.getElem?_set_self (by simpa using nonempty))
    rw [List.set_set] at flushed
    obtain ⟨more, later, moves, ran, emptied, kept, untouched, delivers⟩ :=
      drains_of_polling_empty batching ((record :: rest).drop config.batchSize)
        (writers.set 0 (.polling [])) (delivered ++ (record :: rest).take config.batchSize)
        (List.getElem?_set_self (by simpa using nonempty))
    refine ⟨polls ++ .flush 0 accepted :: more, later, List.forall_mem_append.mpr
      ⟨fun action early => .inl (polled action early), List.forall_mem_cons.mpr ⟨.inr rfl, moves⟩⟩,
      ?_, emptied, kept, untouched, ?_⟩
    · rw [runFrom_append, filled, Option.some_bind, runFrom, flushed, Option.some_bind, ran]
    · simp only [delivers, List.append_nil, List.append_assoc, List.take_append_drop]
termination_by handover => handover.length
decreasing_by simp only [List.length_drop, List.length_cons]; omega

theorem drains_of_flushing (batching : 0 < config.batchSize) (handover : List Record)
    (writers : List Writer) (batch : List Record) (found : writers[0]? = some (.flushing batch)) :
    Drains config written delivered discarded handover writers batch := by
  have nonempty : 0 < writers.length := (List.getElem?_eq_some_iff.mp found).1
  obtain ⟨more, later, moves, ran, emptied, kept, untouched, delivers⟩ :=
    drains_of_polling_empty batching handover (writers.set 0 (.polling [])) (delivered ++ batch)
      (List.getElem?_set_self (by simpa using nonempty))
  refine ⟨.flush 0 accepted :: more, later, List.forall_mem_cons.mpr ⟨.inr rfl, moves⟩, ?_, emptied,
    kept, untouched, by simpa using delivers⟩
  rw [runFrom, flush_batch config written delivered discarded handover writers batch found,
    Option.some_bind, ran]

theorem drains_of_polling (batching : 0 < config.batchSize) (handover : List Record)
    (writers : List Writer) (batch : List Record) (found : writers[0]? = some (.polling batch))
    (room : batch.length ≤ config.batchSize) :
    Drains config written delivered discarded handover writers batch := by
  have nonempty : 0 < writers.length := (List.getElem?_eq_some_iff.mp found).1
  obtain ⟨polls, polled, filled⟩ :=
    fill_batch config written delivered discarded handover writers batch found room
  obtain ⟨more, later, moves, ran, emptied, kept, untouched, delivers⟩ :=
    drains_of_flushing delivered batching _ _ _ (List.getElem?_set_self (by simpa using nonempty))
  refine ⟨polls ++ more, later, List.forall_mem_append.mpr
    ⟨fun action early => .inl (polled action early), moves⟩, ?_, emptied, kept, untouched, ?_⟩
  · rw [runFrom_append, filled, Option.some_bind, ran]
  · rw [delivers, List.append_assoc, List.append_assoc, List.take_append_drop, List.append_assoc]

end Writer

theorem writer_zero_of_reachable {config : SinkConfig} {state : SinkState}
    (reachable : Reachable config state) (tasks : 0 < config.parallelism) :
    ∃ writer, state.writers[0]? = some writer ∧ writer.batch.length ≤ config.batchSize := by
  have accounted := reachable_accounted reachable
  have present : 0 < state.writers.length := accounted.tasks ▸ tasks
  exact ⟨_, List.getElem?_eq_getElem present, accounted.batchBounded _ (List.getElem_mem _)⟩

/-- While every bulk request succeeds, writer task `0` alone, polling and flushing, empties
the handover of any reachable state and delivers its own batch and then every record of
the handover, in the order they were handed over. -/
theorem sink_delivers_handover_in_order {config : SinkConfig} {state : SinkState}
    (reachable : Reachable config state) (batching : 0 < config.batchSize)
    (tasks : 0 < config.parallelism) :
    ∃ writer, state.writers[0]? = some writer ∧
      Drains config state.written state.delivered state.discarded state.handover state.writers
        writer.batch := by
  obtain ⟨writer, found, room⟩ := writer_zero_of_reachable reachable tasks
  refine ⟨writer, found, ?_⟩
  cases writer with
  | polling batch => exact drains_of_polling _ batching _ _ batch found room
  | flushing batch => exact drains_of_flushing _ batching _ _ batch found

def twoRecordsRun : List Action := [.writeRecord ⟨0, []⟩, .writeRecord ⟨1, []⟩]

def twoRecordsState : SinkState :=
  ⟨[⟨0, []⟩, ⟨1, []⟩], List.replicate 5 (.polling []), [⟨0, []⟩, ⟨1, []⟩], [], []⟩

theorem runFrom_twoRecordsRun :
    runFrom (openConfig indexAll) (.initial (openConfig indexAll)) twoRecordsRun =
      some twoRecordsState := rfl

theorem two_records_drained :
    Reachable (openConfig indexAll) twoRecordsState ∧ 0 < (openConfig indexAll).batchSize ∧
      0 < (openConfig indexAll).parallelism ∧
      ∃ writer, twoRecordsState.writers[0]? = some writer ∧
        Drains (openConfig indexAll) twoRecordsState.written twoRecordsState.delivered
          twoRecordsState.discarded twoRecordsState.handover twoRecordsState.writers writer.batch :=
  have reachable := reachable_runFrom twoRecordsRun .initial runFrom_twoRecordsRun
  ⟨reachable, by decide, by decide,
    sink_delivers_handover_in_order reachable (by decide) (by decide)⟩

def settledAs (converter : Record → ElasticsearchModel) (succeeded : Bool)
    (response : BulkResponse) (sent : List Record) : List Record :=
  if (flush (sent.flatMap (recordBodies converter)) response).isOk = succeeded then sent else []

/-- The records of the batches whose bulk requests, the `k`-th answered by `responses k`,
`flush` reports as `succeeded`, in order. -/
def settledBy (converter : Record → ElasticsearchModel) (succeeded : Bool)
    (responses : Nat → BulkResponse) : List (List Record) → List Record
  | [] => []
  | sent :: later =>
    settledAs converter succeeded (responses 0) sent ++
      settledBy converter succeeded (fun k => responses (k + 1)) later

theorem flushStep_eq (config : SinkConfig) (state : SinkState) (writer : Nat)
    (batch : List Record) (response : BulkResponse) :
    flushStep config state writer batch response =
      { state with
        writers := state.writers.set writer (.polling [])
        delivered := state.delivered ++ settledAs config.converter true response batch
        discarded := state.discarded ++ settledAs config.converter false response batch } := by
  unfold flushStep settledAs
  split <;> simp [Except.isOk, Except.toBool, *]

def flushResponses (actions : List Action) : List BulkResponse :=
  actions.filterMap fun
    | .flush _ response => some response
    | _ => none

section Failures

variable (config : SinkConfig) (written : List Record)

/-- What a drain by writer `0` achieves from `⟨handover, writers, ...⟩` when the cluster
answers its `k`-th bulk request with `responses k`: the handover empties, `batch` and then
the handover are cut into consecutive batches, and each batch is delivered when `flush`
reports its request successful and discarded otherwise. -/
def Settles (responses : Nat → BulkResponse) (delivered discarded handover : List Record)
    (writers : List Writer) (batch : List Record) : Prop :=
  ∃ actions later batches,
    (∀ action ∈ actions, action = .poll 0 ∨ ∃ response, action = .flush 0 response) ∧
    flushResponses actions = (List.range batches.length).map responses ∧
    runFrom config ⟨handover, writers, written, delivered, discarded⟩ actions = some later ∧
    later.handover = [] ∧ later.written = written ∧ batches.flatten = batch ++ handover ∧
    later.delivered = delivered ++ settledBy config.converter true responses batches ∧
    later.discarded = discarded ++ settledBy config.converter false responses batches

variable {config written}

theorem settles_of_flushing (responses : Nat → BulkResponse) {delivered discarded : List Record}
    (handover : List Record) (writers : List Writer) (batch : List Record)
    (found : writers[0]? = some (.flushing batch))
    (rest : ∀ delivered discarded, Settles config written (fun k => responses (k + 1)) delivered
      discarded handover (writers.set 0 (.polling [])) []) :
    Settles config written responses delivered discarded handover writers batch := by
  obtain ⟨more, later, batches, moves, answered, ran, emptied, kept, cut, deliveredLater,
    discardedLater⟩ := rest (delivered ++ settledAs config.converter true (responses 0) batch)
      (discarded ++ settledAs config.converter false (responses 0) batch)
  refine ⟨.flush 0 (responses 0) :: more, later, batch :: batches,
    List.forall_mem_cons.mpr ⟨.inr ⟨_, rfl⟩, moves⟩, ?_, ?_, emptied, kept, by simp [cut],
    by simp [deliveredLater, settledBy], by simp [discardedLater, settledBy]⟩
  · simp only [flushResponses, List.filterMap_cons, List.length_cons, List.range_succ_eq_map,
      List.map_cons, List.map_map]
    exact congrArg _ answered
  · simp only [runFrom, step, found, flushStep_eq, Option.some_bind]
    exact ran

theorem flushResponses_append (actions more : List Action) :
    flushResponses (actions ++ more) = flushResponses actions ++ flushResponses more := by
  simp [flushResponses]

theorem flushResponses_of_polls {actions : List Action}
    (polls : ∀ action ∈ actions, action = .poll 0) : flushResponses actions = [] := by
  refine List.filterMap_eq_nil_iff.mpr fun action member => ?_
  rw [polls action member]

theorem settles_of_filled {responses : Nat → BulkResponse} {delivered discarded handover
    handover' batch batch' : List Record} {writers writers' : List Writer} {polls : List Action}
    (polled : ∀ action ∈ polls, action = .poll 0)
    (filled : runFrom config ⟨handover, writers, written, delivered, discarded⟩ polls =
      some ⟨handover', writers', written, delivered, discarded⟩)
    (moved : batch' ++ handover' = batch ++ handover)
    (after : Settles config written responses delivered discarded handover' writers' batch') :
    Settles config written responses delivered discarded handover writers batch := by
  obtain ⟨more, later, batches, moves, answered, ran, emptied, kept, cut, deliveredLater,
    discardedLater⟩ := after
  refine ⟨polls ++ more, later, batches, List.forall_mem_append.mpr
    ⟨fun action early => .inl (polled action early), moves⟩, ?_, ?_, emptied, kept,
    cut.trans moved, deliveredLater, discardedLater⟩
  · rw [flushResponses_append, flushResponses_of_polls polled, List.nil_append]
    exact answered
  · rw [runFrom_append, filled, Option.some_bind, ran]

theorem settles_of_polling_empty (batching : 0 < config.batchSize) :
    ∀ (handover : List Record) (responses : Nat → BulkResponse) (writers : List Writer)
      (delivered discarded : List Record), writers[0]? = some (.polling []) →
      Settles config written responses delivered discarded handover writers []
  | [], _, _, _, _, _ => ⟨[], _, [], by simp, rfl, rfl, rfl, rfl, rfl, by simp [settledBy],
      by simp [settledBy]⟩
  | record :: rest, responses, writers, delivered, discarded, found => by
    have nonempty : 0 < writers.length := (List.getElem?_eq_some_iff.mp found).1
    obtain ⟨polls, polled, filled⟩ :=
      fill_batch config written delivered discarded (record :: rest) writers [] found (by simp)
    simp only [List.length_nil, Nat.sub_zero, List.nil_append] at filled
    refine settles_of_filled polled filled (by simp) (settles_of_flushing responses _ _ _
      (List.getElem?_set_self (by simpa using nonempty)) fun delivered discarded => ?_)
    simpa only [List.set_set] using settles_of_polling_empty batching
      ((record :: rest).drop config.batchSize) (fun k => responses (k + 1))
      (writers.set 0 (.polling [])) delivered discarded
      (List.getElem?_set_self (by simpa using nonempty))
termination_by handover => handover.length
decreasing_by simp only [List.length_drop, List.length_cons]; omega

theorem settles_of_polling (batching : 0 < config.batchSize) (responses : Nat → BulkResponse)
    {delivered discarded : List Record} (handover : List Record) (writers : List Writer)
    (batch : List Record) (found : writers[0]? = some (.polling batch))
    (room : batch.length ≤ config.batchSize) :
    Settles config written responses delivered discarded handover writers batch := by
  have nonempty : 0 < writers.length := (List.getElem?_eq_some_iff.mp found).1
  obtain ⟨polls, polled, filled⟩ :=
    fill_batch config written delivered discarded handover writers batch found room
  refine settles_of_filled polled filled (by simp) (settles_of_flushing responses _ _ _
    (List.getElem?_set_self (by simpa using nonempty)) fun delivered discarded => ?_)
  simpa only [List.set_set] using settles_of_polling_empty batching _
    (fun k => responses (k + 1)) (writers.set 0 (.polling [])) delivered discarded
    (List.getElem?_set_self (by simpa using nonempty))

end Failures

/-- Whatever the cluster answers, writer task `0` alone, polling and flushing, empties the
handover of any reachable state: each record of its batch and of the handover is delivered
or discarded, exactly once, and on each side the records keep the order they were handed
over in. A failed bulk request never holds the writer back; its batch is dropped. -/
theorem sink_settles_handover_whatever_answers {config : SinkConfig} {state : SinkState}
    (reachable : Reachable config state) (batching : 0 < config.batchSize)
    (tasks : 0 < config.parallelism) (responses : Nat → BulkResponse) :
    ∃ writer, state.writers[0]? = some writer ∧
      Settles config state.written responses state.delivered state.discarded state.handover
        state.writers writer.batch := by
  obtain ⟨writer, found, room⟩ := writer_zero_of_reachable reachable tasks
  have present : 0 < state.writers.length := (List.getElem?_eq_some_iff.mp found).1
  refine ⟨writer, found, ?_⟩
  cases writer with
  | polling batch => exact settles_of_polling batching responses _ _ batch found room
  | flushing batch =>
    exact settles_of_flushing responses _ _ batch found fun _ _ =>
      settles_of_polling_empty batching _ _ _ _ _ (List.getElem?_set_self (by simpa using present))

theorem two_records_settled_on_refusal :
    Reachable (openConfig indexAll) twoRecordsState ∧ 0 < (openConfig indexAll).batchSize ∧
      0 < (openConfig indexAll).parallelism ∧
      ∃ writer, twoRecordsState.writers[0]? = some writer ∧
        Settles (openConfig indexAll) twoRecordsState.written
          (fun _ => .sendError "connection refused") twoRecordsState.delivered
          twoRecordsState.discarded twoRecordsState.handover twoRecordsState.writers
          writer.batch :=
  have reachable := reachable_runFrom twoRecordsRun .initial runFrom_twoRecordsRun
  ⟨reachable, by decide, by decide,
    sink_settles_handover_whatever_answers reachable (by decide) (by decide) _⟩

/-- Two writer tasks wait with empty batches while the handover holds `first` and then
`second`: `early` polls `first`, `late` polls `second`, fills its batch and flushes it, and
then `early` fills its batch and flushes it. With every bulk request accepted, `second`
reaches the cluster before `first`. -/
theorem sink_may_reorder_records {config : SinkConfig} {state : SinkState} {early late : Nat}
    (apart : early ≠ late) (earlyIdle : state.writers[early]? = some (.polling []))
    (lateIdle : state.writers[late]? = some (.polling [])) (batching : 0 < config.batchSize)
    {first second : Record} {rest : List Record}
    (queued : state.handover = first :: second :: rest) :
    ∃ actions later lateBatch earlyBatch, runFrom config state actions = some later ∧
      later.delivered = state.delivered ++ (second :: lateBatch) ++ (first :: earlyBatch) := by
  obtain ⟨handover, writers, written, delivered, discarded⟩ := state
  simp only at earlyIdle lateIdle queued ⊢
  subst queued
  have earlyBelow := (List.getElem?_eq_some_iff.mp earlyIdle).1
  have lateBelow := (List.getElem?_eq_some_iff.mp lateIdle).1
  obtain ⟨lateFill, lateRan⟩ := accepted_turn config written delivered discarded rest
    ((writers.set early (.polling [first])).set late (.polling [second])) [second]
    (List.getElem?_set_self (by simpa using lateBelow)) batching
  obtain ⟨earlyFill, earlyRan⟩ := accepted_turn config written
    (delivered ++ ([second] ++ rest.take (config.batchSize - [second].length))) discarded
    (rest.drop (config.batchSize - [second].length))
    (((writers.set early (.polling [first])).set late (.polling [second])).set late (.polling []))
    [first] ((List.getElem?_set_ne (Ne.symm apart)).trans
      ((List.getElem?_set_ne (Ne.symm apart)).trans (List.getElem?_set_self earlyBelow))) batching
  refine ⟨.poll early :: .poll late ::
    (lateFill ++ [.flush late accepted] ++ (earlyFill ++ [.flush early accepted])), ?_⟩
  rw [runFrom, poll_front config written delivered discarded _ _ _ [] earlyIdle batching,
    Option.some_bind, List.nil_append, runFrom,
    poll_front config written delivered discarded _ _ _ []
      (by rw [List.getElem?_set_ne apart, lateIdle]) batching,
    Option.some_bind, List.nil_append, runFrom_append, lateRan, Option.some_bind, earlyRan]
  exact ⟨_, _, _, rfl, rfl⟩

theorem open_config_reorders :
    Reachable (openConfig indexAll) twoRecordsState ∧ (0 : Nat) ≠ 1 ∧
      twoRecordsState.writers[0]? = some (.polling []) ∧
      twoRecordsState.writers[1]? = some (.polling []) ∧ 0 < (openConfig indexAll).batchSize ∧
      twoRecordsState.handover = ⟨0, []⟩ :: ⟨1, []⟩ :: [] ∧
      ∃ actions later lateBatch earlyBatch,
        runFrom (openConfig indexAll) twoRecordsState actions = some later ∧
        later.delivered = twoRecordsState.delivered ++ (⟨1, []⟩ :: lateBatch) ++
          (⟨0, []⟩ :: earlyBatch) :=
  ⟨reachable_runFrom twoRecordsRun .initial runFrom_twoRecordsRun, by decide, rfl, rfl,
    by decide, rfl, @sink_may_reorder_records (openConfig indexAll) twoRecordsState 0 1
      (by decide) rfl rfl (by decide) ⟨0, []⟩ ⟨1, []⟩ [] rfl⟩

end Rlink.Elasticsearch
