import Rlink.System.InputFormat
import Rlink.System.ChannelIterator
import Rlink.Channel.NamedChannel

/-! The element stream of one task over a whole run. The upstream tasks send on the
channels its subscriptions opened and drop their senders; the task calls `next` on the
iterator `element_iter` built, under any choice of the ready-select and any coordinator
status. The state keeps three histories the code does not: what was sent on each channel,
what `next` took off a channel (tagged with the channel), and what it returned. -/

namespace Rlink.System

/-- The capacity of the channel behind a receiver. `memory::subscribe` and
`network::subscribe` are not under src/: each is taken to open a fresh channel with
`named_channel_with_base` of the call's size and mode, empty and with its senders
connected, and to hand back its receiver. -/
def capacityOf (receiver : ElementReceiver) : Option Nat :=
  Channel.namedChannelWithBase receiver.subscription.channelSize receiver.subscription.channelBaseOn

/-- How the iterator stopped: `next` returned `None` once the coordinator had terminated,
or it panicked. -/
inductive Halt where
  | finished
  | panicked (message : String)
  deriving DecidableEq, Repr

structure ReadState where
  iterator : ElementIterator
  receivers : List ReceiverState
  sent : List (List Element)
  taken : List (Nat × Element)
  returned : List Element
  halt : Option Halt
  deriving DecidableEq, Repr

def ReadState.initial (iterator : ElementIterator) : ReadState :=
  ⟨iterator, iterator.receivers.map fun _ => ⟨[], true⟩, iterator.receivers.map fun _ => [],
    [], [], none⟩

inductive ReadAction where
  | send (channel : Nat) (element : Element)
  | disconnect (channel : Nat)
  | next (terminated : Bool) (ready : List Nat)
  deriving DecidableEq, Repr

def readyIndices (receivers : List ReceiverState) (ready : List Nat) :
    List (Fin receivers.length) :=
  ready.filterMap fun index => if valid : index < receivers.length then some ⟨index, valid⟩ else none

def iteratorNext (iterator : ElementIterator) (terminated : Bool) (receivers : List ReceiverState)
    (ready : List Nat) : Option (NextOutcome × List ReceiverState) :=
  match iterator, receivers with
  | .channel _, [receiver] =>
    (channelIteratorNext terminated receiver).map fun (outcome, receiver) => (outcome, [receiver])
  | .channel _, _ => none
  | .multiChannel _, receivers =>
    multiChannelIteratorNext terminated receivers (readyIndices receivers ready)

/-- The channel a call of `next` took an element off, with the element: the first receiver
whose queue got shorter. -/
def takenBy : List ReceiverState → List ReceiverState → Option (Nat × Element)
  | before :: earlier, after :: later =>
    if after.queue.length < before.queue.length then before.queue.head?.map ((0 : Nat), ·)
    else (takenBy earlier later).map fun (index, element) => (index + 1, element)
  | _, _ => none

def afterNext (state : ReadState) (outcome : NextOutcome) (receivers : List ReceiverState) :
    ReadState :=
  let taken := state.taken ++ (takenBy state.receivers receivers).toList
  match outcome with
  | .element element => { state with receivers, taken, returned := state.returned ++ [element] }
  | .finished => { state with receivers, taken, halt := some .finished }
  | .panic message => { state with receivers, taken, halt := some (.panicked message) }

/-- `none` when the action cannot be taken: a send blocks on a full bounded channel and
needs a connected sender, and `next` blocks, or is not called again once it stopped. -/
def readStep (state : ReadState) : ReadAction → Option ReadState
  | .send channel element =>
    match state.iterator.receivers[channel]?, state.receivers[channel]? with
    | some subscribed, some receiver =>
      if receiver.connected && Channel.hasRoom (capacityOf subscribed) receiver.queue then
        some { state with
          receivers := state.receivers.set channel { receiver with queue := receiver.queue ++ [element] }
          sent := state.sent.modify (· ++ [element]) channel }
      else none
    | _, _ => none
  | .disconnect channel =>
    match state.receivers[channel]? with
    | some receiver =>
      some { state with receivers := state.receivers.set channel { receiver with connected := false } }
    | none => none
  | .next terminated ready =>
    match state.halt with
    | some _ => none
    | none => (iteratorNext state.iterator terminated state.receivers ready).map
        fun (outcome, receivers) => afterNext state outcome receivers

inductive Reads (iterator : ElementIterator) : ReadState → Prop where
  | initial : Reads iterator (.initial iterator)
  | step {state next : ReadState} {action : ReadAction} :
      Reads iterator state → readStep state action = some next → Reads iterator next

def readRun (state : ReadState) : List ReadAction → Option ReadState
  | [] => some state
  | action :: actions => (readStep state action).bind fun next => readRun next actions

theorem reads_readRun {iterator : ElementIterator} {state next : ReadState}
    (actions : List ReadAction) (reachable : Reads iterator state)
    (ran : readRun state actions = some next) : Reads iterator next := by
  induction actions generalizing state with
  | nil => cases ran; exact reachable
  | cons action actions ih =>
    obtain ⟨middle, stepped, rest⟩ := Option.bind_eq_some.mp ran
    exact ih (reachable.step stepped) rest

def takenOn (channel : Nat) (taken : List (Nat × Element)) : List Element :=
  (taken.filter fun entry => entry.1 == channel).map Prod.snd

@[simp] theorem takenOn_append (channel : Nat) (taken more : List (Nat × Element)) :
    takenOn channel (taken ++ more) = takenOn channel taken ++ takenOn channel more := by
  simp [takenOn]

@[simp] theorem takenOn_singleton (channel index : Nat) (element : Element) :
    takenOn channel [(index, element)] = if index = channel then [element] else [] := by
  by_cases same : index = channel <;> simp [takenOn, same]

/-- What every run keeps true of the channels: each channel's history is what `next` took
off it, in order, followed by its queue. -/
structure Channels (iterator : ElementIterator) (receivers : List ReceiverState)
    (sent : List (List Element)) (taken : List (Nat × Element)) : Prop where
  subscribed : receivers.length = iterator.receivers.length
  histories : sent.length = receivers.length
  fifo : ∀ (channel : Nat) receiver, receivers[channel]? = some receiver →
    sent[channel]? = some (takenOn channel taken ++ receiver.queue)
  tagged : ∀ entry ∈ taken, entry.1 < receivers.length

/-- The invariant of every run: the channels keep `Channels`; `next` returned all it took
but the element it took when it found the coordinator terminated; and it panicked only
on a drained receiver. -/
structure Streams (state : ReadState) : Prop where
  channels : Channels state.iterator state.receivers state.sent state.taken
  returnedTaken : state.returned <+: state.taken.map Prod.snd
  dropped : state.taken.length = state.returned.length + if state.halt = some .finished then 1 else 0
  panicked : ∀ message, state.halt = some (.panicked message) →
    ∃ (channel : Nat) (receiver : ReceiverState), state.receivers[channel]? = some receiver ∧
      receiver.Drained

theorem readStep_cases {state next : ReadState} {action : ReadAction}
    (stepped : readStep state action = some next) :
    (∃ channel element subscribed receiver, action = .send channel element ∧
      state.iterator.receivers[channel]? = some subscribed ∧
      state.receivers[channel]? = some receiver ∧ receiver.connected = true ∧
      Channel.hasRoom (capacityOf subscribed) receiver.queue = true ∧
      next = { state with
        receivers := state.receivers.set channel { receiver with queue := receiver.queue ++ [element] }
        sent := state.sent.modify (· ++ [element]) channel }) ∨
    (∃ channel receiver, action = .disconnect channel ∧ state.receivers[channel]? = some receiver ∧
      next = { state with receivers := state.receivers.set channel { receiver with connected := false } }) ∨
    (state.halt = none ∧ ∃ terminated ready outcome receivers, action = .next terminated ready ∧
      iteratorNext state.iterator terminated state.receivers ready = some (outcome, receivers) ∧
      next = afterNext state outcome receivers) := by
  cases action with
  | send channel element =>
    simp only [readStep] at stepped
    split at stepped
    · rename_i subscribed receiver subscribedAt found
      split at stepped
      · rename_i allowed
        simp only [Bool.and_eq_true] at allowed
        cases stepped
        exact .inl ⟨channel, element, subscribed, receiver, rfl, subscribedAt, found, allowed.1,
          allowed.2, rfl⟩
      · cases stepped
    · cases stepped
  | disconnect channel =>
    simp only [readStep] at stepped
    split at stepped
    · cases stepped; exact .inr (.inl ⟨channel, _, rfl, ‹_›, rfl⟩)
    · cases stepped
  | next terminated ready =>
    simp only [readStep] at stepped
    split at stepped
    · cases stepped
    · obtain ⟨⟨outcome, receivers⟩, returned, rfl⟩ := Option.map_eq_some'.mp stepped
      exact .inr (.inr ⟨‹_›, terminated, ready, outcome, receivers, rfl, returned, rfl⟩)

theorem iteratorNext_cases {iterator : ElementIterator} {terminated : Bool}
    {receivers receivers' : List ReceiverState} {ready : List Nat} {outcome : NextOutcome}
    (returned : iteratorNext iterator terminated receivers ready = some (outcome, receivers')) :
    (∃ channel receiver element rest, receivers[channel]? = some receiver ∧
      receiver.queue = element :: rest ∧
      outcome = (if terminated then .finished else .element element) ∧
      receivers' = receivers.set channel { receiver with queue := rest }) ∨
    ((∃ message, outcome = .panic message) ∧ receivers' = receivers ∧
      ∃ (channel : Nat) (receiver : ReceiverState), receivers[channel]? = some receiver ∧
        receiver.Drained) := by
  unfold iteratorNext at returned
  split at returned
  · obtain ⟨⟨outcome', receiver'⟩, ran, equal⟩ := Option.map_eq_some'.mp returned
    cases equal
    rcases channelIteratorNext_cases ran with ⟨element, rest, front, rfl, rfl⟩ | ⟨drained, rfl, rfl⟩
    · exact .inl ⟨0, _, element, rest, rfl, front, rfl, rfl⟩
    · exact .inr ⟨⟨_, rfl⟩, rfl, 0, _, rfl, drained⟩
  · cases returned
  · rcases multiChannelIteratorNext_picks returned with
      ⟨-, index, -, -, -, ⟨element, rest, front, rfl, rfl⟩ | ⟨drained, rfl, rfl⟩⟩
    · exact .inl ⟨index, _, element, rest, List.getElem?_eq_getElem index.isLt, front, rfl, rfl⟩
    · exact .inr ⟨⟨_, rfl⟩, rfl, index, _, List.getElem?_eq_getElem index.isLt, drained⟩

theorem takenBy_set {receivers : List ReceiverState} {channel : Nat} {receiver : ReceiverState}
    {element : Element} {rest : List Element} (found : receivers[channel]? = some receiver)
    (front : receiver.queue = element :: rest) :
    takenBy receivers (receivers.set channel { receiver with queue := rest }) =
      some (channel, element) := by
  induction receivers generalizing channel with
  | nil => cases found
  | cons head tail ih =>
    cases channel with
    | zero =>
      simp only [List.getElem?_cons_zero, Option.some.injEq] at found
      subst found
      simp [takenBy, front]
    | succ channel =>
      simp only [List.getElem?_cons_succ] at found
      simp [takenBy, ih found]

theorem takenBy_self (receivers : List ReceiverState) : takenBy receivers receivers = none := by
  induction receivers with
  | nil => rfl
  | cons head tail ih => simp [takenBy, ih]

theorem drained_set {receivers : List ReceiverState} {channel : Nat}
    {receiver updated : ReceiverState} (found : receivers[channel]? = some receiver)
    (kept : receiver.Drained → updated.Drained)
    (drained : ∃ (index : Nat) (current : ReceiverState),
      receivers[index]? = some current ∧ current.Drained) :
    ∃ (index : Nat) (current : ReceiverState),
      (receivers.set channel updated)[index]? = some current ∧ current.Drained := by
  obtain ⟨other, current, present, isDrained⟩ := drained
  by_cases same : channel = other
  · subst same
    rw [found, Option.some.injEq] at present
    subst present
    exact ⟨channel, updated, List.getElem?_set_self (List.getElem?_eq_some_iff.mp found).1,
      kept isDrained⟩
  · exact ⟨other, current, by rw [List.getElem?_set_ne same, present], isDrained⟩

theorem getElem?_set_cases {receivers : List ReceiverState} {channel other : Nat}
    {receiver updated current : ReceiverState} (found : receivers[channel]? = some receiver)
    (present : (receivers.set channel updated)[other]? = some current) :
    (other = channel ∧ current = updated) ∨ (other ≠ channel ∧ receivers[other]? = some current) := by
  by_cases same : channel = other
  · subst same
    rw [List.getElem?_set_self (List.getElem?_eq_some_iff.mp found).1] at present
    exact .inl ⟨rfl, (Option.some.inj present).symm⟩
  · rw [List.getElem?_set_ne same] at present
    exact .inr ⟨Ne.symm same, present⟩

section Channels

variable {iterator : ElementIterator} {receivers : List ReceiverState}
  {sent : List (List Element)} {taken : List (Nat × Element)} {channel : Nat}
  {receiver : ReceiverState}

theorem Channels.send (channels : Channels iterator receivers sent taken) {element : Element}
    (found : receivers[channel]? = some receiver) :
    Channels iterator (receivers.set channel { receiver with queue := receiver.queue ++ [element] })
      (sent.modify (· ++ [element]) channel) taken where
  subscribed := by rw [List.length_set, channels.subscribed]
  histories := by rw [List.length_modify, List.length_set, channels.histories]
  fifo := by
    intro other current present
    rcases getElem?_set_cases found present with ⟨rfl, rfl⟩ | ⟨apart, present⟩
    · rw [List.getElem?_modify_eq, channels.fifo other receiver found]
      simp
    · rw [List.getElem?_modify_ne _ _ apart.symm, channels.fifo other current present]
  tagged := by simpa only [List.length_set] using channels.tagged

theorem Channels.disconnect (channels : Channels iterator receivers sent taken)
    (found : receivers[channel]? = some receiver) :
    Channels iterator (receivers.set channel { receiver with connected := false }) sent taken where
  subscribed := by rw [List.length_set, channels.subscribed]
  histories := by rw [List.length_set, channels.histories]
  fifo := by
    intro other current present
    rcases getElem?_set_cases found present with ⟨rfl, rfl⟩ | ⟨-, present⟩
    · exact channels.fifo other receiver found
    · exact channels.fifo other current present
  tagged := by simpa only [List.length_set] using channels.tagged

theorem Channels.pop (channels : Channels iterator receivers sent taken) {element : Element}
    {rest : List Element} (found : receivers[channel]? = some receiver)
    (front : receiver.queue = element :: rest) :
    Channels iterator (receivers.set channel { receiver with queue := rest }) sent
      (taken ++ [(channel, element)]) where
  subscribed := by rw [List.length_set, channels.subscribed]
  histories := by rw [List.length_set, channels.histories]
  fifo := by
    intro other current present
    rcases getElem?_set_cases found present with ⟨rfl, rfl⟩ | ⟨apart, present⟩
    · rw [channels.fifo other receiver found, front]
      simp
    · rw [channels.fifo other current present]
      simp [Ne.symm apart]
  tagged := by
    intro entry member
    rw [List.length_set]
    rcases List.mem_append.mp member with old | new
    · exact channels.tagged entry old
    · rw [List.mem_singleton.mp new]
      exact (List.getElem?_eq_some_iff.mp found).1

end Channels

theorem Streams.next {state : ReadState} (streams : Streams state) (running : state.halt = none)
    {terminated : Bool} {ready : List Nat} {outcome : NextOutcome} {receivers : List ReceiverState}
    (returned : iteratorNext state.iterator terminated state.receivers ready =
      some (outcome, receivers)) :
    Streams (afterNext state outcome receivers) := by
  have whole : state.returned = state.taken.map Prod.snd := by
    have dropped := streams.dropped
    simp only [running, reduceCtorEq, if_false, Nat.add_zero] at dropped
    exact streams.returnedTaken.eq_of_length (by rw [List.length_map, dropped])
  rcases iteratorNext_cases returned with
    ⟨channel, receiver, element, rest, found, front, rfl, rfl⟩ | ⟨⟨message, rfl⟩, rfl, drained⟩
  · have popped := streams.channels.pop found front
    have took := takenBy_set found front
    cases terminated
    · simp only [afterNext, took, Option.toList_some, Bool.false_eq_true, ↓reduceIte]
      refine ⟨popped, ?_, ?_, ?_⟩
      · simp [whole]
      · simp [whole, running]
      · intro message stopped; simp [running] at stopped
    · simp only [afterNext, took, Option.toList_some, ↓reduceIte]
      refine ⟨popped, ?_, ?_, ?_⟩
      · rw [whole, List.map_append]
        exact List.prefix_append _ _
      · simp [whole]
      · intro message stopped; cases stopped
  · simp only [afterNext, takenBy_self, Option.toList_none, List.append_nil]
    refine ⟨streams.channels, streams.returnedTaken, ?_, fun _ _ => drained⟩
    simp [whole]

theorem Streams.step {state next : ReadState} {action : ReadAction} (streams : Streams state)
    (stepped : readStep state action = some next) : Streams next := by
  rcases readStep_cases stepped with
    ⟨channel, element, -, receiver, -, -, found, connected, -, rfl⟩ |
    ⟨channel, receiver, -, found, rfl⟩ |
    ⟨running, terminated, ready, outcome, receivers, -, returned, rfl⟩
  · refine ⟨streams.channels.send found, streams.returnedTaken, streams.dropped,
      fun message panicked => drained_set found (fun isDrained => ?_) (streams.panicked message panicked)⟩
    simp [ReceiverState.Drained, connected] at isDrained
  · exact ⟨streams.channels.disconnect found, streams.returnedTaken, streams.dropped,
      fun message panicked => drained_set found (fun isDrained => ⟨isDrained.1, rfl⟩)
        (streams.panicked message panicked)⟩
  · exact streams.next running returned

theorem streams_initial (iterator : ElementIterator) : Streams (.initial iterator) where
  channels := {
    subscribed := by simp [ReadState.initial]
    histories := by simp [ReadState.initial]
    fifo := by
      intro channel receiver present
      simp only [ReadState.initial, List.getElem?_map] at present ⊢
      obtain ⟨subscribed, -, rfl⟩ := Option.map_eq_some'.mp present
      simp_all [takenOn]
    tagged := by simp [ReadState.initial] }
  returnedTaken := List.prefix_refl _
  dropped := rfl
  panicked := fun _ stopped => by cases stopped

theorem reads_streams {iterator : ElementIterator} {state : ReadState}
    (reachable : Reads iterator state) : Streams state := by
  induction reachable with
  | initial => exact streams_initial iterator
  | step _ stepped ih => exact ih.step stepped

theorem readStep_finished {state next : ReadState} {action : ReadAction}
    (stepped : readStep state action = some next) (finished : next.halt = some .finished) :
    state.halt = some .finished ∨ ∃ ready, action = .next true ready := by
  rcases readStep_cases stepped with ⟨_, _, _, _, _, _, _, _, _, rfl⟩ | ⟨_, _, _, _, rfl⟩ |
    ⟨-, terminated, ready, outcome, receivers, rfl, returned, rfl⟩
  · exact .inl finished
  · exact .inl finished
  · rcases iteratorNext_cases returned with ⟨_, _, _, _, _, _, rfl, -⟩ | ⟨⟨message, rfl⟩, -⟩
    · cases terminated
      · exact .inl (by simpa [afterNext] using finished)
      · exact .inr ⟨ready, rfl⟩
    · simp [afterNext] at finished

theorem readRun_finished {state later : ReadState} (actions : List ReadAction)
    (ran : readRun state actions = some later) (finished : later.halt = some .finished) :
    state.halt = some .finished ∨ ∃ ready, .next true ready ∈ actions := by
  induction actions generalizing state with
  | nil => cases ran; exact .inl finished
  | cons action actions ih =>
    obtain ⟨middle, stepped, rest⟩ := Option.bind_eq_some.mp ran
    rcases ih rest with earlier | ⟨ready, member⟩
    · rcases readStep_finished stepped earlier with before | ⟨ready, rfl⟩
      · exact .inl before
      · exact .inr ⟨ready, List.mem_cons_self _ _⟩
    · exact .inr ⟨ready, List.mem_cons_of_mem _ member⟩

/-- Every run of a task's element stream keeps `Streams`: what `next` takes off a channel
is, in order and once, what was sent on it, and `next` returns all it takes but the element
of the call that returned `None`; and `next` returns `None` only at a call that found the
coordinator terminated. -/
theorem element_stream_keeps_fifo {iterator : ElementIterator} {actions : List ReadAction}
    {state : ReadState} (ran : readRun (.initial iterator) actions = some state) :
    Streams state ∧ (state.halt = some .finished → ∃ ready, .next true ready ∈ actions) :=
  ⟨reads_streams (reads_readRun actions .initial ran), fun finished =>
    (readRun_finished actions ran finished).resolve_left (by simp [ReadState.initial])⟩

theorem iteratorNext_front {iterator : ElementIterator} {receivers : List ReceiverState}
    (shaped : receivers.length = iterator.receivers.length) {channel : Nat}
    {receiver : ReceiverState} (found : receivers[channel]? = some receiver) {element : Element}
    {rest : List Element} (front : receiver.queue = element :: rest) :
    iteratorNext iterator false receivers [channel] =
      some (.element element, receivers.set channel { receiver with queue := rest }) := by
  obtain ⟨below, rfl⟩ := List.getElem?_eq_some_iff.mp found
  cases iterator with
  | channel subscribed =>
    match receivers, channel, below, shaped with
    | [receiver], 0, _, _ =>
      simp only [List.getElem_cons_zero] at front
      simp [iteratorNext, channelIteratorNext, ReceiverState.recv, ReceiverState.tryRecv, front]
  | multiChannel subscribed =>
    have ready : readyIndices receivers [channel] = [⟨channel, below⟩] := by
      simp [readyIndices, below]
    simp only [iteratorNext, ready]
    exact multiChannelIteratorNext_front receivers ⟨channel, below⟩ front

theorem readRun_drains {state : ReadState}
    (shaped : state.receivers.length = state.iterator.receivers.length)
    (running : state.halt = none) {channel : Nat} {receiver : ReceiverState}
    (found : state.receivers[channel]? = some receiver) :
    ∃ later, readRun state (receiver.queue.map fun _ => .next false [channel]) = some later ∧
      later.returned = state.returned ++ receiver.queue ∧ later.halt = none := by
  obtain ⟨queue, connected⟩ := receiver
  induction queue generalizing state with
  | nil => exact ⟨state, rfl, by simp, running⟩
  | cons element rest ih =>
    have front : ({ queue := element :: rest, connected } : ReceiverState).queue = element :: rest :=
      rfl
    have below := (List.getElem?_eq_some_iff.mp found).1
    obtain ⟨later, ran, returned, halted⟩ := @ih (afterNext state (.element element)
      (state.receivers.set channel { queue := rest, connected }))
      (by simpa [afterNext] using shaped) (by simp [afterNext, running])
      (by simp [afterNext, List.getElem?_set_self below])
    refine ⟨later, ?_, by simp [returned, afterNext], halted⟩
    simp only [List.map_cons, readRun, readStep, running, iteratorNext_front shaped found front,
      Option.map_some', Option.some_bind]
    exact ran

/-- While the coordinator runs, `next` returns every element queued on a channel, in the
order it was sent, one call per element, when the ready-select picks that channel. -/
theorem element_stream_delivers_queue {iterator : ElementIterator} {state : ReadState}
    (reachable : Reads iterator state) (running : state.halt = none) {channel : Nat}
    {receiver : ReceiverState} (found : state.receivers[channel]? = some receiver) :
    ∃ later, readRun state (receiver.queue.map fun _ => .next false [channel]) = some later ∧
      later.returned = state.returned ++ receiver.queue ∧ later.halt = none :=
  readRun_drains (reads_streams reachable).channels.subscribed running found

def twoParentIterator : ElementIterator :=
  .multiChannel [⟨⟨.memory, [⟨1, 0, 1⟩], ⟨0, 0, 1⟩, 1000, .bounded⟩⟩,
    ⟨⟨.network, [⟨2, 0, 1⟩], ⟨0, 0, 1⟩, 1000, .bounded⟩⟩]

theorem elementIter_twoParentContext :
    (SystemInputFormat.new.«open» 1000 twoParentContext).1.elementIter = .ok twoParentIterator :=
  rfl

def finishingRun : List ReadAction := [.send 0 (.record ⟨0, []⟩), .next true [0]]

def finishedState : ReadState :=
  ⟨twoParentIterator, [⟨[], true⟩, ⟨[], true⟩], [[.record ⟨0, []⟩], []], [(0, .record ⟨0, []⟩)], [],
    some .finished⟩

theorem readRun_finishingRun :
    readRun (.initial twoParentIterator) finishingRun = some finishedState := rfl

theorem finished_state_keeps_fifo :
    (SystemInputFormat.new.«open» 1000 twoParentContext).1.elementIter = .ok twoParentIterator ∧
      readRun (.initial twoParentIterator) finishingRun = some finishedState ∧ Streams finishedState ∧
      (finishedState.halt = some .finished → ∃ ready, .next true ready ∈ finishingRun) :=
  ⟨elementIter_twoParentContext, readRun_finishingRun, element_stream_keeps_fifo readRun_finishingRun⟩

def queuingRun : List ReadAction := [.send 1 (.record ⟨0, []⟩), .send 1 (.record ⟨1, []⟩)]

def queuedState : ReadState :=
  ⟨twoParentIterator, [⟨[], true⟩, ⟨[.record ⟨0, []⟩, .record ⟨1, []⟩], true⟩],
    [[], [.record ⟨0, []⟩, .record ⟨1, []⟩]], [], [], none⟩

theorem readRun_queuingRun :
    readRun (.initial twoParentIterator) queuingRun = some queuedState := rfl

theorem queued_records_delivered :
    Reads twoParentIterator queuedState ∧ queuedState.halt = none ∧
      queuedState.receivers[1]? = some ⟨[.record ⟨0, []⟩, .record ⟨1, []⟩], true⟩ ∧
      ∃ later, readRun queuedState
          (([.record ⟨0, []⟩, .record ⟨1, []⟩] : List Element).map fun _ => .next false [1]) =
            some later ∧
        later.returned = queuedState.returned ++ [.record ⟨0, []⟩, .record ⟨1, []⟩] ∧
        later.halt = none :=
  have reachable := reads_readRun queuingRun .initial readRun_queuingRun
  ⟨reachable, rfl, rfl, @element_stream_delivers_queue _ _ reachable rfl 1
    ⟨[.record ⟨0, []⟩, .record ⟨1, []⟩], true⟩ rfl⟩

end Rlink.System
