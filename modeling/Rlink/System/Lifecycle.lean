import Rlink.System.InputFormat

/-! The calls the runtime makes on a `SystemInputFormat`: `open`, `record_iter`,
`element_iter` and `close`. Each `open` subscribes to the parents of its context and keeps,
for a transport with no parent there, the receiver an earlier `open` subscribed. -/

namespace Rlink.System

inductive SystemCall where
  | «open» (context : Context)
  | recordIter
  | elementIter
  | close
  deriving DecidableEq, Repr

inductive SystemReply where
  | subscribed (calls : List Subscription)
  | elements (iterator : ElementIterator)
  | done
  deriving DecidableEq, Repr

namespace SystemInputFormat

/-- `record_iter` is `unimplemented!()`, and `element_iter` panics without a receiver:
`none`, which ends the task. -/
def call (defaultChannelSize : Nat) (format : SystemInputFormat) :
    SystemCall → Option (SystemInputFormat × SystemReply)
  | .open context =>
    let (next, calls) := format.open defaultChannelSize context
    some (next, .subscribed calls)
  | .recordIter => none
  | .elementIter => format.elementIter.toOption.map fun iterator => (format, .elements iterator)
  | .close => some (format, .done)

end SystemInputFormat

def SystemCall.subscriptionOn (defaultChannelSize : Nat) (edge : ExecutionEdge) :
    SystemCall → Option Subscription
  | .open context => subscription context
    (context.applicationProperties.pubSubChannelSize.getD defaultChannelSize)
    (context.applicationProperties.pubSubChannelBase.getD .unbounded) edge
  | _ => none

def latestSubscription (defaultChannelSize : Nat) (edge : ExecutionEdge)
    (calls : List SystemCall) : Option Subscription :=
  calls.foldl (fun latest called => (called.subscriptionOn defaultChannelSize edge).or latest) none

@[simp] theorem latestSubscription_append_singleton (defaultChannelSize : Nat)
    (edge : ExecutionEdge) (calls : List SystemCall) (called : SystemCall) :
    latestSubscription defaultChannelSize edge (calls ++ [called]) =
      (called.subscriptionOn defaultChannelSize edge).or
        (latestSubscription defaultChannelSize edge calls) := by
  simp [latestSubscription]

/-- What every run of calls from `SystemInputFormat::new` keeps: each receiver is the one
of the latest subscription over its transport. -/
def LatestReceivers (defaultChannelSize : Nat) (format : SystemInputFormat)
    (calls : List SystemCall) : Prop :=
  format.memoryReceiver = (latestSubscription defaultChannelSize .memory calls).map .mk ∧
    format.networkReceiver = (latestSubscription defaultChannelSize .network calls).map .mk

theorem latestReceivers_call {defaultChannelSize : Nat} {format next : SystemInputFormat}
    {done : List SystemCall} {called : SystemCall} {reply : SystemReply}
    (latest : LatestReceivers defaultChannelSize format done)
    (returned : format.call defaultChannelSize called = some (next, reply)) :
    LatestReceivers defaultChannelSize next (done ++ [called]) := by
  cases called with
  | «open» context =>
    simp only [SystemInputFormat.call, open_eq, Option.some.injEq, Prod.mk.injEq] at returned
    obtain ⟨rfl, -⟩ := returned
    simp [LatestReceivers, SystemCall.subscriptionOn, latest.1, latest.2, Option.map_or']
  | recordIter => cases returned
  | elementIter =>
    obtain ⟨iterator, -, same⟩ := Option.map_eq_some'.mp returned
    cases same
    simpa [LatestReceivers, SystemCall.subscriptionOn] using latest
  | close =>
    cases returned
    simpa [LatestReceivers, SystemCall.subscriptionOn] using latest

/-- After any run of calls, each receiver `element_iter` reads is the one of the last
`open` that subscribed over its transport: an `open` whose context has no parent on a
transport leaves there the receiver an earlier `open` subscribed, for that earlier
context. -/
theorem element_iter_reads_latest_subscriptions {defaultChannelSize : Nat}
    {calls : List SystemCall} {format : SystemInputFormat} {replies : List SystemReply}
    (ran : runCalls (SystemInputFormat.call defaultChannelSize) .new calls =
      some (format, replies)) :
    format.memoryReceiver = (latestSubscription defaultChannelSize .memory calls).map .mk ∧
      format.networkReceiver = (latestSubscription defaultChannelSize .network calls).map .mk :=
  runCalls_induction (LatestReceivers defaultChannelSize) ⟨rfl, rfl⟩
    (fun _ _ _ _ _ latest returned => latestReceivers_call latest returned) ran

def networkOnlyContext : Context :=
  ⟨⟨0, 0, 1⟩, [(⟨⟨3, 0, 1⟩⟩, .network)], ⟨none, some .bounded⟩⟩

def reopeningCalls : List SystemCall := [.open twoParentContext, .open networkOnlyContext]

def reopenedFormat : SystemInputFormat :=
  ⟨some ⟨⟨.memory, [⟨1, 0, 1⟩], ⟨0, 0, 1⟩, 1000, .bounded⟩⟩,
    some ⟨⟨.network, [⟨3, 0, 1⟩], ⟨0, 0, 1⟩, 1000, .bounded⟩⟩, ⟨0, 0, 1⟩⟩

theorem reopened_format_keeps_memory_receiver :
    runCalls (SystemInputFormat.call 1000) .new reopeningCalls =
        some (reopenedFormat,
          [.subscribed [⟨.memory, [⟨1, 0, 1⟩], ⟨0, 0, 1⟩, 1000, .bounded⟩,
            ⟨.network, [⟨2, 0, 1⟩], ⟨0, 0, 1⟩, 1000, .bounded⟩],
           .subscribed [⟨.network, [⟨3, 0, 1⟩], ⟨0, 0, 1⟩, 1000, .bounded⟩]]) ∧
      reopenedFormat.memoryReceiver = (latestSubscription 1000 .memory reopeningCalls).map .mk ∧
      reopenedFormat.networkReceiver = (latestSubscription 1000 .network reopeningCalls).map .mk :=
  have ran : runCalls (SystemInputFormat.call 1000) .new reopeningCalls =
      some (reopenedFormat,
        [.subscribed [⟨.memory, [⟨1, 0, 1⟩], ⟨0, 0, 1⟩, 1000, .bounded⟩,
          ⟨.network, [⟨2, 0, 1⟩], ⟨0, 0, 1⟩, 1000, .bounded⟩],
         .subscribed [⟨.network, [⟨3, 0, 1⟩], ⟨0, 0, 1⟩, 1000, .bounded⟩]]) := rfl
  ⟨ran, element_iter_reads_latest_subscriptions ran⟩

end Rlink.System
