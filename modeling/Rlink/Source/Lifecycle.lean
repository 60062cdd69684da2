import Rlink.Source.VecSource

/-! The calls the runtime makes on an `IteratorInputFormat`: `open`, `record_iter` and
`close`. `record_iter` takes the builder, the split and the context out of the format, so
the builder, an `FnOnce`, runs at most once in the format's life. -/

namespace Rlink.Source

inductive IteratorCall where
  | «open» (inputSplit : InputSplit) (context : Context)
  | recordIter
  | close
  deriving DecidableEq, Repr

inductive IteratorReply where
  | done
  | records (records : List Record)
  deriving DecidableEq, Repr

def IteratorCall.opening : IteratorCall → Option (InputSplit × Context)
  | .open inputSplit context => some (inputSplit, context)
  | _ => none

def latestOpen (calls : List IteratorCall) : Option (InputSplit × Context) :=
  calls.foldl (fun latest called => called.opening.or latest) none

@[simp] theorem latestOpen_append_singleton (calls : List IteratorCall) (called : IteratorCall) :
    latestOpen (calls ++ [called]) = called.opening.or (latestOpen calls) := by
  simp [latestOpen]

namespace IteratorInputFormat

/-- A panic of `record_iter`, an `unwrap` or the builder's own, ends the task: `none`. -/
def call (format : IteratorInputFormat) :
    IteratorCall → Option (IteratorInputFormat × IteratorReply)
  | .open inputSplit context => (format.open inputSplit context).toOption.map (·, .done)
  | .recordIter => format.recordIter.toOption.map fun (next, records) => (next, .records records)
  | .close => some (format, .done)

theorem call_cases {format next : IteratorInputFormat} {called : IteratorCall}
    {reply : IteratorReply} (returned : format.call called = some (next, reply)) :
    (∃ inputSplit context, called = .open inputSplit context ∧
      next = { format with inputSplit := some inputSplit, context := some context }) ∨
    (∃ vecBuilder inputSplit context records, called = .recordIter ∧
      format.vecBuilder = some vecBuilder ∧ format.inputSplit = some inputSplit ∧
      format.context = some context ∧ vecBuilder inputSplit context = .ok records ∧
      next = { format with vecBuilder := none, inputSplit := none, context := none }) ∨
    (called = .close ∧ next = format) := by
  cases called with
  | «open» inputSplit context =>
    cases returned
    exact .inl ⟨inputSplit, context, rfl, rfl⟩
  | recordIter =>
    obtain ⟨⟨taken, records⟩, read, same⟩ := Option.map_eq_some'.mp returned
    obtain ⟨rfl, -⟩ := Prod.mk.inj same
    have read : format.recordIter = .ok (taken, records) := by
      revert read; cases format.recordIter <;> simp [Except.toOption]
    obtain ⟨vecBuilder, built, rest⟩ := bind_eq_ok read
    obtain ⟨inputSplit, split, rest⟩ := bind_eq_ok rest
    obtain ⟨context, contexted, rest⟩ := bind_eq_ok rest
    obtain ⟨data, ran, rest⟩ := bind_eq_ok rest
    cases rest
    exact .inr (.inl ⟨vecBuilder, inputSplit, context, records, rfl, unwrap_eq_ok.mp built,
      unwrap_eq_ok.mp split, unwrap_eq_ok.mp contexted, ran, rfl⟩)
  | close =>
    cases returned
    exact .inr (.inr ⟨rfl, rfl⟩)

theorem call_recordIter (format : IteratorInputFormat) :
    (format.call .recordIter).map (·.2) =
      format.vecBuilder.bind fun vecBuilder => format.inputSplit.bind fun inputSplit =>
        format.context.bind fun context =>
          (vecBuilder inputSplit context).toOption.map .records := by
  obtain ⟨parallelism, _ | vecBuilder, _ | inputSplit, _ | context⟩ := format <;> try rfl
  cases built : vecBuilder inputSplit context <;>
    simp [IteratorInputFormat.call, IteratorInputFormat.recordIter, built, unwrap, bind,
      Except.bind, Except.toOption]

end IteratorInputFormat

/-- What every run of calls from `IteratorInputFormat::new` keeps: the builder is there
until a `record_iter` has returned, and until then the format holds the split and the
context of the latest `open`. -/
structure ReadsOnce (vecBuilder : InputSplit → Context → Except Exit (List Record))
    (format : IteratorInputFormat) (calls : List IteratorCall) : Prop where
  builder : format.vecBuilder = if IteratorCall.recordIter ∈ calls then none else some vecBuilder
  opened : IteratorCall.recordIter ∉ calls →
    format.inputSplit = (latestOpen calls).map Prod.fst ∧
      format.context = (latestOpen calls).map Prod.snd

namespace ReadsOnce

variable {vecBuilder : InputSplit → Context → Except Exit (List Record)}

theorem new (parallelism : UInt16) :
    ReadsOnce vecBuilder (.new vecBuilder parallelism) [] :=
  ⟨rfl, fun _ => ⟨rfl, rfl⟩⟩

theorem call {format next : IteratorInputFormat} {done : List IteratorCall}
    {called : IteratorCall} {reply : IteratorReply} (reads : ReadsOnce vecBuilder format done)
    (returned : format.call called = some (next, reply)) :
    ReadsOnce vecBuilder next (done ++ [called]) := by
  rcases IteratorInputFormat.call_cases returned with
    ⟨inputSplit, context, rfl, rfl⟩ | ⟨_, _, _, _, rfl, -, -, -, -, rfl⟩ | ⟨rfl, rfl⟩
  · exact ⟨by simpa using reads.builder, fun _ => by simp [IteratorCall.opening]⟩
  · exact ⟨by simp, fun unread => absurd (List.mem_append_right _ (List.mem_singleton_self _))
      unread⟩
  · refine ⟨by simpa using reads.builder, fun unread => ?_⟩
    simpa [IteratorCall.opening] using
      reads.opened (fun read => unread (List.mem_append_left _ read))

end ReadsOnce

/-- `record_iter` runs the builder at most once in the life of an `IteratorInputFormat`:
after any run of calls, the next `record_iter` panics if one has already returned, or if
no `open` has; otherwise it returns the builder's records for the split and the context
of the latest `open`. -/
theorem iterator_input_format_reads_once
    {vecBuilder : InputSplit → Context → Except Exit (List Record)} {parallelism : UInt16}
    {calls : List IteratorCall} {format : IteratorInputFormat} {replies : List IteratorReply}
    (ran : runCalls IteratorInputFormat.call (.new vecBuilder parallelism) calls =
      some (format, replies)) :
    (format.call .recordIter).map (·.2) =
      if IteratorCall.recordIter ∈ calls then none
      else (latestOpen calls).bind fun (inputSplit, context) =>
        (vecBuilder inputSplit context).toOption.map .records := by
  have reads := runCalls_induction (ReadsOnce vecBuilder) (.new parallelism)
    (fun _ _ _ _ _ reads returned => reads.call returned) ran
  rw [IteratorInputFormat.call_recordIter, reads.builder]
  by_cases read : IteratorCall.recordIter ∈ calls
  · simp [read]
  · obtain ⟨split, contexted⟩ := reads.opened read
    rw [split, contexted, if_neg read, if_neg read]
    cases latestOpen calls <;> rfl

def rereadingCalls : List IteratorCall :=
  [.open ⟨0, .new⟩ (taskContext 0 2), .recordIter, .open ⟨0, .new⟩ (taskContext 0 2)]

def rereadState : IteratorInputFormat := ⟨2, none, some ⟨0, .new⟩, some (taskContext 0 2)⟩

theorem reopened_vec_source_cannot_reread :
    runCalls IteratorInputFormat.call (vecSource (countedRecords 2) 2) rereadingCalls =
        some (rereadState, [.done, .records [⟨0, []⟩], .done]) ∧
      (rereadState.call .recordIter).map (·.2) =
        if IteratorCall.recordIter ∈ rereadingCalls then none
        else (latestOpen rereadingCalls).bind fun (_, context) =>
          (vecSourceTaskData (countedRecords 2) context.taskId).toOption.map .records :=
  have ran : runCalls IteratorInputFormat.call (vecSource (countedRecords 2) 2) rereadingCalls =
      some (rereadState, [.done, .records [⟨0, []⟩], .done]) := rfl
  ⟨ran, iterator_input_format_reads_once ran⟩

end Rlink.Source
