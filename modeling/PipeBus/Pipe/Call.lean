import PipeBus.Frame.Basic
import PipeBus.Retry

/-!
A call of an output pipe while it is under way.

A call is a tree of the steps it takes outside of the pipe's own state: arming
and disarming its waiter, handing a frame over, waiting for the acknowledgement,
giving up its waiter. Only a wait has two continuations. Between any two steps
anything else may happen, and a call can be put aside at every wait.
-/
namespace PipeBus

/-- A pipe call that ends in a value of type `α`. -/
inductive Call (α : Type) where
  | done (value : α)
  /-- Expect the acknowledgement of the frame with this checksum. -/
  | arm (crc : UInt16) (next : Call α)
  | send (frame : Frame) (next : Call α)
  /-- Wait, at most so long, for the acknowledgement. -/
  | wait (delay : Duration) (next : Bool → Call α)
  /-- Expect no acknowledgement any more. -/
  | disarm (next : Call α)
  | release (next : Call α)

namespace Call

variable {α β : Type}

/-- Go on with another call. -/
def bind (call : Call α) (next : α → Call β) : Call β :=
  match call with
  | .done value => next value
  | .arm crc rest => .arm crc (rest.bind next)
  | .send frame rest => .send frame (rest.bind next)
  | .wait delay rest => .wait delay fun acked => (rest acked).bind next
  | .disarm rest => .disarm (rest.bind next)
  | .release rest => .release (rest.bind next)

instance : Monad Call where
  pure := .done
  bind := bind

/-- A call whose current wait has run out. Only a wait is changed. -/
def expire : Call α → Call α
  | .wait _ next => next false
  | call => call

def delay? : Call α → Option Duration
  | .wait delay _ => some delay
  | _ => none

def isWaiting (call : Call α) : Bool := call.delay?.isSome

end Call

end PipeBus
