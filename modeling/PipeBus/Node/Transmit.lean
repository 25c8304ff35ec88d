import PipeBus.Lens
import PipeBus.Node.Error
import PipeBus.Retry

/-!
The outbound side of a node. Packets are collected in a staging frame, which is
sealed and handed to the transport when it is full or on a flush.

The transport is a function on a larger state, in which the queue is one part:
what a transport does with a frame may reach back to the node.
-/
namespace PipeBus

/-- Packets on their way out, and what became of the frames handed over. Sent and dropped frames are
counted exactly; a count in 64 bits would differ only after 2^64 frames. -/
structure TxQueue where
  device : UInt64
  sendTimeout : Duration := Duration.ofMillis 50
  staging : Option Frame := none
  sent : Nat := 0
  dropped : Nat := 0

/-- A queue and the transport behind it, as parts of one state. -/
structure TxLink (σ : Type) where
  queue : Lens σ TxQueue
  /-- Hand a frame to the transport; false when it refuses the frame. -/
  transmit : Frame → Duration → σ → Bool × σ

namespace TxQueue

/-- The staging frame, a new one if there is none. -/
def stagingFrame (queue : TxQueue) : Frame := queue.staging.getD (Frame.empty queue.device 0)

/-- Add a packet to the staging frame; nothing when it does not fit. -/
def stage? (queue : TxQueue) (service : UInt8) (command : UInt16) (data : Bytes) :
    Option TxQueue :=
  (queue.stagingFrame.push? service command data).map fun frame =>
    { queue with staging := some frame }

def count (queue : TxQueue) (accepted : Bool) : TxQueue :=
  if accepted then { queue with sent := queue.sent + 1 }
  else { queue with dropped := queue.dropped + 1 }

/-- Nothing staged, and nothing waiting in the transport. -/
def isIdle (queue : TxQueue) (transportIdle : Bool) : Bool := queue.staging.isNone && transportIdle

end TxQueue

namespace TxLink

variable {σ : Type}

/-- Hand a sealed frame straight to the transport; a refused frame is gone. -/
def pushFrame (link : TxLink σ) (frame : Frame) (state : σ) : Bool × σ :=
  let (accepted, later) := link.transmit frame (link.queue.get state).sendTimeout state
  (accepted, link.queue.modify (·.count accepted) later)

/-- Seal the staging frame and hand it over. -/
def flush (link : TxLink σ) (state : σ) : σ :=
  match (link.queue.get state).staging with
  | none => state
  | some frame =>
    let taken := link.queue.modify (fun queue => { queue with staging := none }) state
    (link.pushFrame frame.sealed taken).2

/-- Stage a packet, flushing whenever it does not fit, for at most so many turns. -/
def stageWithin (link : TxLink σ) (service : UInt8) (command : UInt16) (data : Bytes) :
    Nat → σ → Option σ
  | 0, _ => none
  | turns + 1, state =>
    match (link.queue.get state).stage? service command data with
    | some queue => some (link.queue.set queue state)
    | none => link.stageWithin service command data turns (link.flush state)

/-- Turns in which a packet is staged. A flush empties the staging frame and an empty frame takes
any packet, so the second turn succeeds unless the transport itself stages packets. -/
def stageTurns : Nat := 8

def push (link : TxLink σ) (service : UInt8) (command : UInt16) (data : Bytes) (state : σ) :
    Except NodeError Unit × σ :=
  if data.length > maxPacketData then (.error (.packetTooLarge data.length), state)
  else (.ok (), (link.stageWithin service command data stageTurns state).getD state)

end TxLink

end PipeBus
