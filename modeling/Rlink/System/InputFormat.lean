import Rlink.Core

/-! `SystemInputFormat`: `open` subscribes the task to its parents, over memory or over
the network as each parent's edge says, and `element_iter` reads the receivers the
subscriptions returned. A subscribe call is recorded with its arguments. -/

namespace Rlink.System

structure Subscription where
  transport : ExecutionEdge
  upstreamTaskIds : List TaskId
  downstreamTaskId : TaskId
  channelSize : Nat
  channelBaseOn : ChannelBaseOn
  deriving DecidableEq, Repr

structure ElementReceiver where
  subscription : Subscription
  deriving DecidableEq, Repr

structure SystemInputFormat where
  memoryReceiver : Option ElementReceiver
  networkReceiver : Option ElementReceiver
  taskId : TaskId
  deriving DecidableEq, Repr

inductive ElementIterator where
  | channel (receiver : ElementReceiver)
  | multiChannel (receivers : List ElementReceiver)
  deriving DecidableEq, Repr

def ElementIterator.receivers : ElementIterator → List ElementReceiver
  | .channel receiver => [receiver]
  | .multiChannel receivers => receivers

namespace SystemInputFormat

def new : SystemInputFormat := ⟨none, none, ⟨0, 0, 0⟩⟩

def splitJobs (parents : List (ExecutionNode × ExecutionEdge)) : List TaskId × List TaskId :=
  parents.foldl (fun jobs parent => match parent.2 with
    | .memory => (jobs.1 ++ [parent.1.taskId], jobs.2)
    | .network => (jobs.1, jobs.2 ++ [parent.1.taskId])) ([], [])

/-- `open`, with `DEFAULT_CHANNEL_SIZE` of `pub_sub` as a parameter. It returns the new
state and the subscribe calls made, in order. -/
def «open» (defaultChannelSize : Nat) (format : SystemInputFormat) (context : Context) :
    SystemInputFormat × List Subscription :=
  let channelSize := context.applicationProperties.pubSubChannelSize.getD defaultChannelSize
  let channelBaseOn := context.applicationProperties.pubSubChannelBase.getD .unbounded
  let (memoryJobs, networkJobs) := splitJobs context.parents
  let memoryCall : Option Subscription := if memoryJobs.length > 0 then
    some ⟨.memory, memoryJobs, context.taskId, channelSize, channelBaseOn⟩ else none
  let networkCall : Option Subscription := if networkJobs.length > 0 then
    some ⟨.network, networkJobs, context.taskId, channelSize, channelBaseOn⟩ else none
  ({ memoryReceiver := (memoryCall.map ElementReceiver.mk).or format.memoryReceiver
     networkReceiver := (networkCall.map ElementReceiver.mk).or format.networkReceiver
     taskId := context.taskId },
   memoryCall.toList ++ networkCall.toList)

def elementIter (format : SystemInputFormat) : Except Exit ElementIterator :=
  match format.memoryReceiver.toList ++ format.networkReceiver.toList with
  | [] => .error (.panic "unsupported")
  | [receiver] => .ok (.channel receiver)
  | receivers => .ok (.multiChannel receivers)

end SystemInputFormat

def jobsOn (edge : ExecutionEdge) (parents : List (ExecutionNode × ExecutionEdge)) :
    List TaskId :=
  parents.filterMap fun parent => if parent.2 = edge then some parent.1.taskId else none

@[simp] theorem jobsOn_nil (edge : ExecutionEdge) : jobsOn edge [] = [] := rfl

@[simp] theorem jobsOn_cons (edge : ExecutionEdge) (parent : ExecutionNode × ExecutionEdge)
    (parents : List (ExecutionNode × ExecutionEdge)) :
    jobsOn edge (parent :: parents) =
      if parent.2 = edge then parent.1.taskId :: jobsOn edge parents else jobsOn edge parents := by
  by_cases same : parent.2 = edge <;> simp [jobsOn, List.filterMap_cons, same]

theorem foldl_splitJobs (parents : List (ExecutionNode × ExecutionEdge))
    (memoryJobs networkJobs : List TaskId) :
    parents.foldl (fun jobs parent => match parent.2 with
      | .memory => (jobs.1 ++ [parent.1.taskId], jobs.2)
      | .network => (jobs.1, jobs.2 ++ [parent.1.taskId])) (memoryJobs, networkJobs) =
      (memoryJobs ++ jobsOn .memory parents, networkJobs ++ jobsOn .network parents) := by
  induction parents generalizing memoryJobs networkJobs with
  | nil => simp
  | cons parent parents ih =>
    obtain ⟨node, edge⟩ := parent
    cases edge <;> simp [ih]

theorem splitJobs_eq (parents : List (ExecutionNode × ExecutionEdge)) :
    SystemInputFormat.splitJobs parents = (jobsOn .memory parents, jobsOn .network parents) := by
  simp [SystemInputFormat.splitJobs, foldl_splitJobs]

theorem length_jobsOn (parents : List (ExecutionNode × ExecutionEdge)) :
    (jobsOn .memory parents).length + (jobsOn .network parents).length = parents.length := by
  induction parents with
  | nil => rfl
  | cons parent parents ih =>
    obtain ⟨node, edge⟩ := parent
    cases edge <;> simp at ih ⊢ <;> omega

theorem map_jobsOn (edge : ExecutionEdge) (parents : List (ExecutionNode × ExecutionEdge)) :
    (jobsOn edge parents).map (·, edge) =
      (parents.map fun parent => (parent.1.taskId, parent.2)).filter (·.2 == edge) := by
  induction parents with
  | nil => rfl
  | cons parent parents ih =>
    obtain ⟨node, other⟩ := parent
    by_cases same : other = edge
    · subst same; simp [ih]
    · simp [same, ih]

def subscription (context : Context) (channelSize : Nat) (channelBaseOn : ChannelBaseOn)
    (edge : ExecutionEdge) : Option Subscription :=
  if jobsOn edge context.parents = [] then none
  else some ⟨edge, jobsOn edge context.parents, context.taskId, channelSize, channelBaseOn⟩

theorem open_eq (defaultChannelSize : Nat) (format : SystemInputFormat) (context : Context) :
    format.«open» defaultChannelSize context =
      let call := subscription context
        (context.applicationProperties.pubSubChannelSize.getD defaultChannelSize)
        (context.applicationProperties.pubSubChannelBase.getD .unbounded)
      ({ memoryReceiver := ((call .memory).map ElementReceiver.mk).or format.memoryReceiver
         networkReceiver := ((call .network).map ElementReceiver.mk).or format.networkReceiver
         taskId := context.taskId },
       (call .memory).toList ++ (call .network).toList) := by
  by_cases memory : jobsOn .memory context.parents = [] <;>
    by_cases network : jobsOn .network context.parents = [] <;>
    simp [SystemInputFormat.«open», splitJobs_eq, subscription, memory, network, List.length_pos]

/-- `calls` subscribes each parent exactly once, over the transport its edge names: per
transport, one call listing that transport's parents in order, made iff it has any. -/
def SubscribesParents (context : Context) (channelSize : Nat) (channelBaseOn : ChannelBaseOn)
    (calls : List Subscription) : Prop :=
  (∀ edge, calls.filter (fun call => call.transport = edge) =
    (subscription context channelSize channelBaseOn edge).toList) ∧
  (calls.flatMap fun call => call.upstreamTaskIds.map (·, call.transport)).Perm
    (context.parents.map fun parent => (parent.1.taskId, parent.2))

theorem flatMap_subscription (context : Context) (channelSize : Nat)
    (channelBaseOn : ChannelBaseOn) (edge : ExecutionEdge) :
    (subscription context channelSize channelBaseOn edge).toList.flatMap
        (fun call => call.upstreamTaskIds.map (·, call.transport)) =
      (jobsOn edge context.parents).map (·, edge) := by
  unfold subscription
  split <;> simp [*]

theorem filter_subscription (context : Context) (channelSize : Nat)
    (channelBaseOn : ChannelBaseOn) (edge other : ExecutionEdge) :
    (subscription context channelSize channelBaseOn edge).toList.filter
        (fun call => call.transport = other) =
      if edge = other then (subscription context channelSize channelBaseOn edge).toList else [] := by
  unfold subscription
  split <;> by_cases same : edge = other <;> simp [same]

theorem subscribes_parents (context : Context) (channelSize : Nat)
    (channelBaseOn : ChannelBaseOn) :
    SubscribesParents context channelSize channelBaseOn
      ((subscription context channelSize channelBaseOn .memory).toList ++
        (subscription context channelSize channelBaseOn .network).toList) := by
  refine ⟨fun edge => ?_, ?_⟩
  · rw [List.filter_append, filter_subscription, filter_subscription]
    cases edge <;> simp
  · rw [List.flatMap_append, flatMap_subscription, flatMap_subscription, map_jobsOn, map_jobsOn]
    have split := List.filter_append_perm (fun parent : TaskId × ExecutionEdge =>
      parent.2 == .memory) (context.parents.map fun parent => (parent.1.taskId, parent.2))
    have other : ∀ edge : ExecutionEdge, (!(edge == .memory)) = (edge == .network) := by
      intro edge; cases edge <;> rfl
    simpa only [other] using split

theorem elementIter_open (defaultChannelSize : Nat) (context : Context)
    (nonempty : context.parents ≠ []) :
    ∃ iterator,
      (SystemInputFormat.new.«open» defaultChannelSize context).1.elementIter = .ok iterator ∧
      iterator.receivers =
        (SystemInputFormat.new.«open» defaultChannelSize context).2.map ElementReceiver.mk ∧
      ((∃ receiver, iterator = .channel receiver) ↔
        (SystemInputFormat.new.«open» defaultChannelSize context).2.length = 1) := by
  have parents := length_jobsOn context.parents
  have positive := List.length_pos.mpr nonempty
  rw [open_eq]
  by_cases memory : jobsOn .memory context.parents = [] <;>
    by_cases network : jobsOn .network context.parents = [] <;>
    simp [subscription, memory, network, SystemInputFormat.new,
      SystemInputFormat.elementIter, ElementIterator.receivers] at parents ⊢
  omega

/-- `open` on a new format subscribes each parent once over its own transport, and
`element_iter` reads exactly the receivers those calls returned, through a
`ChannelIterator` when there is one of them. -/
def OpensAndReads (defaultChannelSize : Nat) (context : Context) : Prop :=
  let opened := SystemInputFormat.new.«open» defaultChannelSize context
  SubscribesParents context
      (context.applicationProperties.pubSubChannelSize.getD defaultChannelSize)
      (context.applicationProperties.pubSubChannelBase.getD .unbounded) opened.2 ∧
    ∃ iterator, opened.1.elementIter = .ok iterator ∧
      iterator.receivers = opened.2.map ElementReceiver.mk ∧
      ((∃ receiver, iterator = .channel receiver) ↔ opened.2.length = 1)

theorem system_input_format_open_subscribes (defaultChannelSize : Nat) (context : Context)
    (nonempty : context.parents ≠ []) : OpensAndReads defaultChannelSize context := by
  refine ⟨?_, elementIter_open defaultChannelSize context nonempty⟩
  rw [open_eq]
  exact subscribes_parents _ _ _

def twoParentContext : Context :=
  ⟨⟨0, 0, 1⟩, [(⟨⟨1, 0, 1⟩⟩, .memory), (⟨⟨2, 0, 1⟩⟩, .network)], ⟨none, some .bounded⟩⟩

theorem two_parents_subscribed :
    twoParentContext.parents ≠ [] ∧ OpensAndReads 1000 twoParentContext :=
  ⟨by decide, system_input_format_open_subscribes 1000 twoParentContext (by decide)⟩

end Rlink.System
