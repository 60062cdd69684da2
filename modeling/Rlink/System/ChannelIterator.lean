import Rlink.Core

/-! `ChannelIterator::next` and `MultiChannelIterator::next`, over the channel states of
their receivers. The coordinator status is the flag `terminated`; a call that is still
blocked in `recv` or in `sel.ready()` has no outcome. -/

namespace Rlink.System

/-- A receiver's channel as `next` sees it: its queued elements, and whether a sender
is still connected. -/
structure ReceiverState where
  queue : List Element
  connected : Bool
  deriving DecidableEq, Repr

inductive TryRecvError where
  | empty
  | disconnected
  deriving DecidableEq, Repr

namespace ReceiverState

def tryRecv (receiver : ReceiverState) : Except TryRecvError (Element × ReceiverState) :=
  match receiver.queue with
  | element :: rest => .ok (element, { receiver with queue := rest })
  | [] => .error (if receiver.connected then .empty else .disconnected)

/-- `recv`, which blocks (`none`) while the channel is empty and connected. -/
def recv (receiver : ReceiverState) : Option (Except Unit (Element × ReceiverState)) :=
  match receiver.tryRecv with
  | .ok received => some (.ok received)
  | .error .empty => none
  | .error .disconnected => some (.error ())

/-- Empty, with every sender gone: what `try_recv` reports as `Disconnected`. -/
def Drained (receiver : ReceiverState) : Prop :=
  receiver.queue = [] ∧ receiver.connected = false

end ReceiverState

inductive NextOutcome where
  | element (element : Element)
  | finished
  | panic (message : String)
  deriving DecidableEq, Repr

def channelIteratorNext (terminated : Bool) (receiver : ReceiverState) :
    Option (NextOutcome × ReceiverState) :=
  match receiver.recv with
  | none => none
  | some (.ok (element, receiver)) =>
    some (if terminated then .finished else .element element, receiver)
  | some (.error ()) => some (.panic "network_receiver Disconnected", receiver)

/-- `ready` lists the indices `sel.ready()` returns, one per turn of the loop; it may
return an index spuriously, and when the list runs out the call is still blocked. -/
def multiChannelIteratorNext (terminated : Bool) (receivers : List ReceiverState) :
    List (Fin receivers.length) → Option (NextOutcome × List ReceiverState)
  | [] => none
  | index :: later =>
    match receivers[index].tryRecv with
    | .ok (element, receiver) =>
      some (if terminated then .finished else .element element, receivers.set index receiver)
    | .error .empty => multiChannelIteratorNext terminated receivers later
    | .error .disconnected => some (.panic "the channel is Disconnected", receivers)

theorem tryRecv_eq_ok {receiver next : ReceiverState} {element : Element}
    (received : receiver.tryRecv = .ok (element, next)) :
    ∃ rest, receiver.queue = element :: rest ∧ next = { receiver with queue := rest } := by
  unfold ReceiverState.tryRecv at received
  split at received
  · cases received; exact ⟨_, ‹_›, rfl⟩
  · cases received

theorem tryRecv_eq_disconnected {receiver : ReceiverState}
    (failed : receiver.tryRecv = .error .disconnected) : receiver.Drained := by
  unfold ReceiverState.tryRecv at failed
  split at failed
  · cases failed
  · cases connected : receiver.connected <;> simp_all [ReceiverState.Drained]

theorem tryRecv_eq_empty {receiver : ReceiverState} (failed : receiver.tryRecv = .error .empty) :
    receiver.queue = [] ∧ receiver.connected = true := by
  unfold ReceiverState.tryRecv at failed
  split at failed
  · cases failed
  · cases connected : receiver.connected <;> simp_all

/-- A call of `MultiChannelIterator::next` goes on past the picks of empty receivers whose
senders are connected and ends at the first other pick, whatever the coordinator status:
it takes the front of that receiver, or panics when the receiver is drained. -/
theorem multiChannelIteratorNext_picks {terminated : Bool}
    {receivers receivers' : List ReceiverState} {outcome : NextOutcome}
    {ready : List (Fin receivers.length)}
    (returned : multiChannelIteratorNext terminated receivers ready = some (outcome, receivers')) :
    ∃ (spurious : List (Fin receivers.length)) (index : Fin receivers.length)
      (later : List (Fin receivers.length)),
      ready = spurious ++ index :: later ∧
      (∀ pick ∈ spurious, receivers[pick].queue = [] ∧ receivers[pick].connected = true) ∧
      ((∃ element rest, receivers[index].queue = element :: rest ∧
          outcome = (if terminated then .finished else .element element) ∧
          receivers' = receivers.set index { receivers[index] with queue := rest }) ∨
        (receivers[index].Drained ∧ outcome = .panic "the channel is Disconnected" ∧
          receivers' = receivers)) := by
  induction ready with
  | nil => cases returned
  | cons index later ih =>
    unfold multiChannelIteratorNext at returned
    split at returned
    · rename_i element receiver received
      obtain ⟨rest, front, rfl⟩ := tryRecv_eq_ok received
      cases returned
      exact ⟨[], index, later, rfl, nofun, .inl ⟨element, rest, front, rfl, rfl⟩⟩
    · rename_i empty
      obtain ⟨spurious, ending, after, split, waited, ended⟩ := ih returned
      exact ⟨index :: spurious, ending, after, by rw [split, List.cons_append],
        List.forall_mem_cons.mpr ⟨tryRecv_eq_empty empty, waited⟩, ended⟩
    · rename_i failed
      cases returned
      exact ⟨[], index, later, rfl, nofun, .inr ⟨tryRecv_eq_disconnected failed, rfl, rfl⟩⟩

theorem multiChannelIteratorNext_front (receivers : List ReceiverState)
    (index : Fin receivers.length) {element : Element} {rest : List Element}
    (front : receivers[index].queue = element :: rest) :
    multiChannelIteratorNext false receivers [index] =
      some (.element element, receivers.set index { receivers[index] with queue := rest }) := by
  have received : receivers[index].tryRecv = .ok (element, { receivers[index] with queue := rest }) := by
    simp only [ReceiverState.tryRecv, front]
  unfold multiChannelIteratorNext
  rw [received]
  rfl

theorem channelIteratorNext_cases {terminated : Bool} {receiver receiver' : ReceiverState}
    {outcome : NextOutcome}
    (returned : channelIteratorNext terminated receiver = some (outcome, receiver')) :
    (∃ element rest, receiver.queue = element :: rest ∧
        outcome = (if terminated then .finished else .element element) ∧
        receiver' = { receiver with queue := rest }) ∨
      (receiver.Drained ∧ outcome = .panic "network_receiver Disconnected" ∧
        receiver' = receiver) := by
  unfold channelIteratorNext ReceiverState.recv ReceiverState.tryRecv at returned
  cases front : receiver.queue with
  | cons element rest =>
    simp only [front, Option.some.injEq, Prod.mk.injEq] at returned
    obtain ⟨rfl, rfl⟩ := returned
    exact .inl ⟨element, rest, rfl, rfl, rfl⟩
  | nil =>
    cases connected : receiver.connected <;> simp [front, connected] at returned
    exact .inr ⟨⟨front, connected⟩, returned.1.symm, returned.2.symm⟩

end Rlink.System
