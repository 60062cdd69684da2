import Rlink.Elasticsearch.Sink
import Mathlib.Data.List.Perm.Basic

/-! What the sink does with the records handed to it. Every record is, counted with
multiplicity, in exactly one place: the handover, the batch of a writer task, a bulk
request `flush` reported successful, or one whose flush failed. The last are dropped,
so delivery is at most once, not at least once. -/

namespace Rlink.Elasticsearch

def inFlight (writers : List Writer) : List Record := writers.flatMap Writer.batch

structure Accounted (config : SinkConfig) (state : SinkState) : Prop where
  conserved : state.written.Perm
    (state.handover ++ inFlight state.writers ++ state.delivered ++ state.discarded)
  handoverBounded : state.handover.length ≤ config.capacity
  batchBounded : ∀ writer ∈ state.writers, writer.batch.length ≤ config.batchSize
  tasks : state.writers.length = config.parallelism

@[simp] theorem inFlight_nil : inFlight [] = [] := rfl

@[simp] theorem inFlight_cons (writer : Writer) (writers : List Writer) :
    inFlight (writer :: writers) = writer.batch ++ inFlight writers := rfl

theorem count_inFlight_set (record : Record) {writers : List Writer} {index : Nat}
    {current : Writer} (found : writers[index]? = some current) (writer : Writer) :
    (inFlight (writers.set index writer)).count record + current.batch.count record =
      (inFlight writers).count record + writer.batch.count record := by
  induction writers generalizing index with
  | nil => simp at found
  | cons head tail ih =>
    cases index with
    | zero =>
      simp only [List.getElem?_cons_zero, Option.some.injEq] at found
      subst found
      simp [List.count_append]
      omega
    | succ index =>
      have := ih (by simpa using found)
      simp [List.count_append]
      omega

theorem step_cases {config : SinkConfig} {state next : SinkState} {action : Action}
    (stepped : step config state action = some next) :
    (∃ record, state.handover.length < config.capacity ∧
      next = { state with handover := state.handover ++ [record],
                          written := state.written ++ [record] }) ∨
    (∃ writer batch, state.writers[writer]? = some (.polling batch) ∧
      next = pollStep config state writer batch) ∨
    (∃ writer batch response, state.writers[writer]? = some (.flushing batch) ∧
      next = flushStep config state writer batch response) := by
  cases action with
  | writeRecord record =>
    simp only [step] at stepped
    split at stepped
    · cases stepped; exact .inl ⟨record, ‹_›, rfl⟩
    · cases stepped
  | poll writer =>
    simp only [step] at stepped
    split at stepped
    · cases stepped; exact .inr (.inl ⟨writer, _, ‹_›, rfl⟩)
    · cases stepped
  | flush writer response =>
    simp only [step] at stepped
    split at stepped
    · cases stepped; exact .inr (.inr ⟨writer, _, response, ‹_›, rfl⟩)
    · cases stepped

theorem pollStep_accounts (config : SinkConfig) (state : SinkState) {writer : Nat}
    {batch : List Record} (found : state.writers[writer]? = some (.polling batch))
    (record : Record) :
    (pollStep config state writer batch).handover.count record +
        (inFlight (pollStep config state writer batch).writers).count record =
      state.handover.count record + (inFlight state.writers).count record := by
  unfold pollStep
  split
  · split
    · rename_i taken rest front
      have := count_inFlight_set record found (.polling (batch ++ [taken]))
      simp only [Writer.batch, List.count_append, front, List.count_cons, List.count_nil] at this ⊢
      omega
    · have := count_inFlight_set record found (.flushing batch)
      simp only [Writer.batch] at this ⊢
      omega
  · have := count_inFlight_set record found (.flushing batch)
    simp only [Writer.batch] at this ⊢
    omega

theorem flushStep_accounts (config : SinkConfig) (state : SinkState) {writer : Nat}
    {batch : List Record} (found : state.writers[writer]? = some (.flushing batch))
    (response : BulkResponse) (record : Record) :
    (inFlight (flushStep config state writer batch response).writers).count record +
        (flushStep config state writer batch response).delivered.count record +
        (flushStep config state writer batch response).discarded.count record =
      (inFlight state.writers).count record + state.delivered.count record +
        state.discarded.count record := by
  have := count_inFlight_set record found (.polling [])
  simp only [Writer.batch, List.count_nil] at this
  unfold flushStep
  split <;> simp only [List.count_append] <;> omega

theorem step_conserved {config : SinkConfig} {state next : SinkState} {action : Action}
    (conserved : state.written.Perm
      (state.handover ++ inFlight state.writers ++ state.delivered ++ state.discarded))
    (stepped : step config state action = some next) :
    next.written.Perm (next.handover ++ inFlight next.writers ++ next.delivered ++ next.discarded) := by
  rw [List.perm_iff_count] at conserved ⊢
  intro record
  have before := conserved record
  simp only [List.count_append] at before ⊢
  rcases step_cases stepped with ⟨taken, -, rfl⟩ | ⟨writer, batch, found, rfl⟩ |
    ⟨writer, batch, response, found, rfl⟩
  · simp only [List.count_append]
    omega
  · have := pollStep_accounts config state found record
    simp only [pollStep_written, pollStep_delivered, pollStep_discarded]
    omega
  · have := flushStep_accounts config state found response record
    simp only [flushStep_handover, flushStep_written]
    omega

theorem forall_mem_set_writers {writers : List Writer} {holds : Writer → Prop}
    (all : ∀ writer ∈ writers, holds writer) (index : Nat) {writer : Writer} (new : holds writer) :
    ∀ other ∈ writers.set index writer, holds other := fun other member =>
  (List.mem_or_eq_of_mem_set member).elim (all other) fun same => same ▸ new

theorem Accounted.step {config : SinkConfig} {state next : SinkState} {action : Action}
    (accounted : Accounted config state) (stepped : step config state action = some next) :
    Accounted config next where
  conserved := step_conserved accounted.conserved stepped
  handoverBounded := by
    have bounded := accounted.handoverBounded
    rcases step_cases stepped with ⟨taken, room, rfl⟩ | ⟨writer, batch, found, rfl⟩ |
      ⟨writer, batch, response, found, rfl⟩
    · simp only [List.length_append, List.length_singleton]
      omega
    · exact Nat.le_trans (length_pollStep_handover _ _ _ _) bounded
    · simpa using bounded
  batchBounded := by
    have bounded := accounted.batchBounded
    rcases step_cases stepped with ⟨taken, room, rfl⟩ | ⟨writer, batch, found, rfl⟩ |
      ⟨writer, batch, response, found, rfl⟩
    · exact bounded
    · have current := bounded _ (List.getElem?_mem found)
      unfold pollStep
      split
      · split
        · refine forall_mem_set_writers bounded writer ?_
          simp only [Writer.batch, List.length_append, List.length_singleton]
          omega
        · exact forall_mem_set_writers bounded writer current
      · exact forall_mem_set_writers bounded writer current
    · unfold flushStep
      split <;> exact forall_mem_set_writers bounded writer (by simp [Writer.batch])
  tasks := by
    rcases step_cases stepped with ⟨taken, room, rfl⟩ | ⟨writer, batch, found, rfl⟩ |
      ⟨writer, batch, response, found, rfl⟩ <;> simpa using accounted.tasks

theorem accounted_initial (config : SinkConfig) : Accounted config (.initial config) where
  conserved := by simp [SinkState.initial, inFlight, Writer.batch]
  handoverBounded := by simp [SinkState.initial]
  batchBounded := by
    intro writer member
    simp only [SinkState.initial, List.mem_replicate] at member
    simp [member.2, Writer.batch]
  tasks := by simp [SinkState.initial]

theorem reachable_accounted {config : SinkConfig} {state : SinkState}
    (reachable : Reachable config state) : Accounted config state := by
  induction reachable with
  | initial => exact accounted_initial config
  | step _ stepped ih => exact ih.step stepped

theorem step_histories {config : SinkConfig} {state next : SinkState} {action : Action}
    (stepped : step config state action = some next) :
    state.delivered <+: next.delivered ∧ state.discarded <+: next.discarded := by
  rcases step_cases stepped with ⟨taken, -, rfl⟩ | ⟨writer, batch, -, rfl⟩ |
    ⟨writer, batch, response, -, rfl⟩
  · exact ⟨List.prefix_refl _, List.prefix_refl _⟩
  · simp
  · unfold flushStep
    split
    · exact ⟨List.prefix_append _ _, List.prefix_refl _⟩
    · exact ⟨List.prefix_refl _, List.prefix_append _ _⟩

theorem runFrom_discarded {config : SinkConfig} {state later : SinkState}
    (actions : List Action) (ran : runFrom config state actions = some later) :
    state.discarded <+: later.discarded := by
  induction actions generalizing state with
  | nil => cases ran; exact List.prefix_refl _
  | cons action actions ih =>
    obtain ⟨middle, stepped, rest⟩ := Option.bind_eq_some.mp ran
    exact (step_histories stepped).2.trans (ih rest)

/-- Every record handed over is, counted with multiplicity, in exactly one place; no step
takes back what was delivered or dropped; and a flush whose bulk request failed drops its
batch, leaving the handover and `delivered` as they were. -/
def AtMostOnce (config : SinkConfig) (state : SinkState) : Prop :=
  state.written.Perm
      (state.handover ++ inFlight state.writers ++ state.delivered ++ state.discarded) ∧
    (∀ action next, step config state action = some next →
      state.delivered <+: next.delivered ∧ state.discarded <+: next.discarded) ∧
    ∀ writer batch response message, state.writers[writer]? = some (.flushing batch) →
      flush (batch.flatMap (recordBodies config.converter)) response = .error message →
      step config state (.flush writer response) = some
        { state with
          writers := state.writers.set writer (.polling [])
          discarded := state.discarded ++ batch }

theorem sink_delivers_at_most_once {config : SinkConfig} {state : SinkState}
    (reachable : Reachable config state) : AtMostOnce config state :=
  ⟨(reachable_accounted reachable).conserved, fun _ _ => step_histories,
    fun _ _ _ _ found failed => by simp [step, found, flushStep, failed]⟩

def indexAll : Record → ElasticsearchModel := fun _ => ⟨"records", "_doc", "record"⟩

def droppedRun : List Action :=
  [.writeRecord ⟨0, []⟩, .poll 0, .poll 0, .flush 0 (.sendError "connection refused")]

def droppedState : SinkState := ⟨[], List.replicate 5 (.polling []), [⟨0, []⟩], [], [⟨0, []⟩]⟩

theorem runFrom_droppedRun :
    runFrom (openConfig indexAll) (.initial (openConfig indexAll)) droppedRun =
      some droppedState := rfl

theorem dropped_state_at_most_once :
    Reachable (openConfig indexAll) droppedState ∧ AtMostOnce (openConfig indexAll) droppedState :=
  have reachable := reachable_runFrom droppedRun .initial runFrom_droppedRun
  ⟨reachable, sink_delivers_at_most_once reachable⟩

/-- The record a failed flush dropped is lost for good: in every state reached after it,
fewer copies of it are in the handover, the writers' batches and `delivered` than were
handed over. -/
theorem failed_flush_loses_record :
    Reachable (openConfig indexAll) droppedState ∧
      ∀ actions later, runFrom (openConfig indexAll) droppedState actions = some later →
        (later.handover ++ inFlight later.writers ++ later.delivered).count ⟨0, []⟩ <
          later.written.count ⟨0, []⟩ := by
  have reachable := reachable_runFrom droppedRun .initial runFrom_droppedRun
  refine ⟨reachable, fun actions later ran => ?_⟩
  have conserved := List.perm_iff_count.mp
    (reachable_accounted (reachable_runFrom actions reachable ran)).conserved ⟨0, []⟩
  obtain ⟨dropped, grown⟩ := runFrom_discarded actions ran
  have lost : droppedState.discarded.count ⟨0, []⟩ = 1 := rfl
  rw [← grown] at conserved
  simp only [List.count_append, lost] at conserved ⊢
  omega

end Rlink.Elasticsearch
