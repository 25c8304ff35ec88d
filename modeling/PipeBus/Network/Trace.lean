import PipeBus.Registry

/-!
What can be seen of a network from outside: the frames that its members hand
over, and what its services and the receivers of its input pipes are told.
-/
namespace PipeBus

/-- One thing that happened at a member of a network. -/
inductive Occurrence where
  | sent (member : Nat) (frame : Frame)
  | commanded (member : Nat) (serviceClass : UInt32) (packet : Packet)
  | observed (member : Nat) (serviceClass : UInt32) (packet : Packet)
  | processed (member : Nat) (serviceClass : UInt32)
  /-- A service opened the output pipe that a command described, or failed to. -/
  | opened (member : Nat) (result : Except NodeError Nat)
  | delivered (pipe : Nat) (delivery : Delivery)

def Occurrence.isSent : Occurrence → Bool
  | .sent _ _ => true
  | _ => false

/-- What happened, the latest first. -/
abbrev Trace := List Occurrence

namespace Trace

def frames (trace : Trace) : Trace := (trace.filter Occurrence.isSent).reverse

/-- Everything but the frames sent, in order. -/
def events (trace : Trace) : Trace :=
  (trace.filter fun occurrence => !occurrence.isSent).reverse

/-- The data that reached the receiver of an input pipe, metadata left out. -/
def received (trace : Trace) (pipe : Nat) : Bytes :=
  trace.events.flatMap fun
    | .delivered number (.data packet) => if number = pipe then packet.data else []
    | _ => []

/-- The latest metadata that reached the receiver of an input pipe. -/
def metadata? (trace : Trace) (pipe : Nat) : Option Bytes :=
  trace.findSome? fun
    | .delivered number (.metadata packet) => if number = pipe then some packet.data else none
    | _ => none

/-- Whether the receiver of an input pipe was told of its end. -/
def ended (trace : Trace) (pipe : Nat) : Bool :=
  trace.any fun
    | .delivered number .eof => number == pipe
    | _ => false

end Trace

end PipeBus
