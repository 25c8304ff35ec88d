import PipeBus.Frame.Basic

/-!
Frames received and not yet dispatched. A full queue drops the newest frame.
-/
namespace PipeBus

/-- The inbound side of a node. Dropped frames are counted exactly; a count in 64 bits would differ
only after 2^64 frames. -/
structure RxQueue where
  depth : Nat
  frames : List Frame := []
  dropped : Nat := 0

namespace RxQueue

/-- An empty queue; it holds at least one frame. -/
def ofDepth (depth : Nat) : RxQueue where
  depth := max depth 1

def isFull (queue : RxQueue) : Bool := queue.depth ≤ queue.frames.length

def hasFrame (queue : RxQueue) : Bool := !queue.frames.isEmpty

/-- Queue a received frame; false when there is no room. -/
def received (queue : RxQueue) (frame : Frame) : Bool × RxQueue :=
  if queue.isFull then (false, { queue with dropped := queue.dropped + 1 })
  else (true, { queue with frames := queue.frames ++ [frame] })

/-- Take the oldest frame. -/
def next (queue : RxQueue) : Option Frame × RxQueue :=
  (queue.frames.head?, { queue with frames := queue.frames.drop 1 })

end RxQueue

end PipeBus
