import Rlink.Core

/-! `channel/mod.rs`: the `ChannelBaseOn` mode read from a name by `try_from` and shown by
`Display`, and the crossbeam channel `named_channel_with_base` builds for it, `bounded(cap)`
or `unbounded()`. A channel's flavour is its capacity, `none` for an unbounded one. -/

namespace Rlink.ChannelBaseOn

/-- `try_from`, with `str::to_lowercase` of the standard library, which folds case over the
whole of Unicode, as `toLowercase`. -/
def tryFrom (toLowercase : String → String) (modeStr : String) : Except String ChannelBaseOn :=
  match toLowercase modeStr with
  | "bounded" => .ok .bounded
  | "unbounded" => .ok .unbounded
  | modeStr => .error s!"Unsupported mode {modeStr}"

def fmt : ChannelBaseOn → String
  | .bounded => "Bounded"
  | .unbounded => "Unbounded"

end Rlink.ChannelBaseOn

namespace Rlink.Channel

def namedChannelWithBase (cap : Nat) (baseOn : ChannelBaseOn) : Option Nat :=
  match baseOn with
  | .bounded => some cap
  | .unbounded => none

/-- Whether `Sender::send` on a crossbeam channel (not under src/) of `capacity` completes
now. A `bounded(0)` channel has no buffer: the sender waits until a receiver takes the
element, which the model shows as one element in transit that blocks the next send. -/
def hasRoom (capacity : Option Nat) (queue : List Element) : Bool :=
  match capacity with
  | none => true
  | some cap => queue.length < max cap 1

end Rlink.Channel
