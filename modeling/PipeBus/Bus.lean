import PipeBus.Frame.Codec

/-!
A shared wire in memory. Every frame sent by one endpoint travels as bytes, is
lost when the fault plan says so, and otherwise reaches the inbox of every other
endpoint that is attached. A full inbox loses the frame for its own endpoint.
-/
namespace PipeBus

/-- One connection to the bus, with the frames waiting to be received. -/
structure Endpoint where
  id : Nat
  inbox : List Frame := []

/-- Frames handed to the bus, frames lost on the wire, deliveries lost to full inboxes. The counts
are exact; a count in 64 bits would differ only after 2^64 frames. -/
structure BusStats where
  sent : Nat := 0
  dropped : Nat := 0
  overflows : Nat := 0
  deriving DecidableEq

/-- The wire with everything attached to it. -/
structure Bus where
  depth : Nat := 32
  endpoints : List Endpoint := []
  /-- Exact, so that no number comes up again; in 64 bits one would after 2^64 endpoints. -/
  nextId : Nat := 1
  /-- How many of the next frames are lost. -/
  dropNext : Nat := 0
  /-- Every so many-th frame is lost; zero loses none. -/
  dropEvery : Nat := 0
  stats : BusStats := {}

namespace Bus

/-- Depth of an inbox that is not asked for otherwise. -/
def defaultDepth : Nat := 32

/-- Frames that an inbox holds: at least one. -/
def capacity (bus : Bus) : Nat := max bus.depth 1

def attach (bus : Bus) : Nat × Bus :=
  (bus.nextId, { bus with
    endpoints := bus.endpoints ++ [{ id := bus.nextId }], nextId := bus.nextId + 1 })

def detach (bus : Bus) (id : Nat) : Bus :=
  { bus with endpoints := bus.endpoints.filter fun endpoint => endpoint.id != id }

/-- Whether the plan loses the frame with this number, and the plan after it. -/
def lose (bus : Bus) (sequence : Nat) : Bool × Bus :=
  if bus.dropNext > 0 then (true, { bus with dropNext := bus.dropNext - 1 })
  else (bus.dropEvery > 0 && sequence % bus.dropEvery == 0, bus)

/-- Offer a frame to one endpoint: the endpoint afterwards, and whether its inbox was full. -/
def offer (capacity : Nat) (frame : Frame) (endpoint : Endpoint) : Endpoint × Bool :=
  if endpoint.inbox.length < capacity then
    ({ endpoint with inbox := endpoint.inbox ++ [frame] }, false)
  else (endpoint, true)

/-- Deliver a frame to all endpoints but its sender. -/
def deliver (bus : Bus) (sender : Nat) (frame : Frame) : Bus :=
  let offered := bus.endpoints.map fun endpoint =>
    if endpoint.id = sender then (endpoint, false) else offer bus.capacity frame endpoint
  { bus with
    endpoints := offered.map Prod.fst
    stats := { bus.stats with overflows := bus.stats.overflows + offered.countP Prod.snd } }

/-- Put a frame on the wire. A frame whose bytes do not decode reaches nobody. -/
def send (bus : Bus) (sender : Nat) (frame : Frame) : Bus :=
  let counted := { bus with stats := { bus.stats with sent := bus.stats.sent + 1 } }
  match counted.lose counted.stats.sent with
  | (true, planned) =>
    { planned with stats := { planned.stats with dropped := planned.stats.dropped + 1 } }
  | (false, planned) =>
    match Frame.decode frame.toBytes with
    | .error _ => planned
    | .ok received => planned.deliver sender received

/-- The inbox of an endpoint; nothing when it is not attached. -/
def inbox? (bus : Bus) (id : Nat) : Option (List Frame) :=
  (bus.endpoints.find? fun endpoint => endpoint.id == id).map Endpoint.inbox

/-- Take the oldest frame from an endpoint's inbox. -/
def receive (bus : Bus) (id : Nat) : Option Frame × Bus :=
  ((bus.inbox? id).bind List.head?, { bus with
    endpoints := bus.endpoints.map fun endpoint =>
      if endpoint.id = id then { endpoint with inbox := endpoint.inbox.drop 1 } else endpoint })

end Bus

end PipeBus
