import Mathlib.Data.List.Basic

/-! Data shared by the runtime and the connectors: records and elements, task ids,
the property bag of an `InputSplit`, execution edges and the task `Context`.
Only the fields that a modelled function reads are kept. -/

namespace Rlink

/-- How a Rust function ends without a value: an `Err` it returns, or a panic
(`unwrap` on `None`, `panic!`, or a failed arithmetic check). -/
inductive Exit where
  | error (message : String)
  | panic (message : String)
  deriving DecidableEq, Repr

theorem bind_eq_ok {α β ε : Type} {x : Except ε α} {f : α → Except ε β} {b : β}
    (ran : x >>= f = .ok b) : ∃ a, x = .ok a ∧ f a = .ok b := by
  cases x with
  | error e => cases ran
  | ok a => exact ⟨a, rfl, ran⟩

def unwrap {α : Type} : Option α → Except Exit α
  | some a => .ok a
  | none => .error (.panic "called `Option::unwrap()` on a `None` value")

@[simp] theorem unwrap_eq_ok {α : Type} {option : Option α} {a : α} :
    unwrap option = .ok a ↔ option = some a := by
  cases option <;> simp [unwrap]

structure Record where
  timestamp : Nat
  values : List UInt8
  deriving DecidableEq, Repr

inductive Element where
  | record (record : Record)
  | watermark (timestamp : Nat)
  | barrier (checkpointId : Nat)
  | streamStatus (idle : Bool)
  deriving DecidableEq, Repr

structure TaskId where
  jobId : UInt32
  taskNumber : UInt16
  numTasks : UInt16
  deriving DecidableEq, Repr

inductive PropertyValue where
  | str (value : String)
  | i32 (value : Int)
  | bool (value : Bool)
  deriving DecidableEq, Repr

/-- The property bag of `rlink::core::properties::Properties`: a map from keys to
values, where `set` replaces the previous value of its key. -/
structure Properties where
  entries : List (String × PropertyValue)
  deriving DecidableEq, Repr

namespace Properties

def new : Properties := ⟨[]⟩

def set (properties : Properties) (key : String) (value : PropertyValue) : Properties :=
  ⟨(key, value) :: properties.entries.filter (fun entry => entry.1 != key)⟩

def get (properties : Properties) (key : String) : Option PropertyValue :=
  properties.entries.lookup key

def setStr (properties : Properties) (key value : String) : Properties :=
  properties.set key (.str value)

def setI32 (properties : Properties) (key : String) (value : Int) : Properties :=
  properties.set key (.i32 value)

def setBool (properties : Properties) (key : String) (value : Bool) : Properties :=
  properties.set key (.bool value)

def getString (properties : Properties) (key : String) : Option String :=
  (properties.get key).bind fun
    | .str value => some value
    | _ => none

def getI32 (properties : Properties) (key : String) : Option Int :=
  (properties.get key).bind fun
    | .i32 value => some value
    | _ => none

theorem lookup_filter_ne (entries : List (String × PropertyValue)) {key other : String}
    (distinct : other ≠ key) :
    (entries.filter (fun entry => entry.1 != key)).lookup other = entries.lookup other := by
  induction entries with
  | nil => rfl
  | cons entry entries ih =>
    obtain ⟨name, value⟩ := entry
    by_cases same : name = key
    · subst same
      simp [List.filter_cons, ih, List.lookup_cons, beq_false_of_ne distinct]
    · simp [List.filter_cons, same, ih, List.lookup_cons]

@[simp] theorem get_set_self (properties : Properties) (key : String) (value : PropertyValue) :
    (properties.set key value).get key = some value := by
  simp [set, get, List.lookup_cons]

@[simp] theorem get_set_of_ne (properties : Properties) {key other : String}
    (value : PropertyValue) (distinct : other ≠ key) :
    (properties.set key value).get other = properties.get other := by
  simp [set, get, List.lookup_cons, beq_false_of_ne distinct, lookup_filter_ne _ distinct]

end Properties

structure InputSplit where
  splitNumber : UInt16
  properties : Properties
  deriving DecidableEq, Repr

inductive ExecutionEdge where
  | memory
  | network
  deriving DecidableEq, Repr

structure ExecutionNode where
  taskId : TaskId
  deriving DecidableEq, Repr

inductive ChannelBaseOn where
  | unbounded
  | bounded
  deriving DecidableEq, Repr

/-- The two application properties a task reads at `open`; `none` is a missing or
malformed entry, for which the getter returns `Err`. -/
structure ApplicationProperties where
  pubSubChannelSize : Option Nat
  pubSubChannelBase : Option ChannelBaseOn
  deriving DecidableEq, Repr

structure Context where
  taskId : TaskId
  parents : List (ExecutionNode × ExecutionEdge)
  applicationProperties : ApplicationProperties
  deriving DecidableEq, Repr

/-- The calls the runtime makes on one function value, in order, each on the value the one
before left, with their replies; `none` where a call panics, which ends the task. -/
def runCalls {σ γ ρ : Type} (call : σ → γ → Option (σ × ρ)) (state : σ) :
    List γ → Option (σ × List ρ)
  | [] => some (state, [])
  | first :: rest => (call state first).bind fun (next, reply) =>
    (runCalls call next rest).map fun (last, replies) => (last, reply :: replies)

/-- What holds of the value and the calls made so far, at first and after each call that
returns, holds after every run that returns. -/
theorem runCalls_induction {σ γ ρ : Type} {call : σ → γ → Option (σ × ρ)} {initial : σ}
    (invariant : σ → List γ → Prop) (start : invariant initial [])
    (step : ∀ state done called next reply, invariant state done →
      call state called = some (next, reply) → invariant next (done ++ [called]))
    {calls : List γ} {state : σ} {replies : List ρ}
    (ran : runCalls call initial calls = some (state, replies)) : invariant state calls := by
  suffices general : ∀ (rest done : List γ) (middle : σ) (replies : List ρ),
      invariant middle done → runCalls call middle rest = some (state, replies) →
        invariant state (done ++ rest) from general calls [] initial replies start ran
  intro rest
  induction rest with
  | nil =>
    intro done middle replies holds ran
    cases ran
    simpa using holds
  | cons called rest ih =>
    intro done middle replies holds ran
    obtain ⟨⟨next, reply⟩, stepped, continued⟩ := Option.bind_eq_some.mp ran
    obtain ⟨⟨last, later⟩, remaining, returned⟩ := Option.map_eq_some'.mp continued
    cases returned
    simpa using ih (done ++ [called]) next later
      (step middle done called next reply holds stepped) remaining

end Rlink
