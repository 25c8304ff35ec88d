import PipeBus.Frame.Basic

/-!
What can go wrong in a node and its pipes. Every cause has one message.
-/
namespace PipeBus

/-- Which of a node's two pipe tables. -/
inductive PipeTable where
  | input
  | output
  deriving DecidableEq

def PipeTable.name : PipeTable → String
  | .input => "input"
  | .output => "output"

/-- Why a node refused or gave up an operation. -/
inductive NodeError where
  /-- The peer never acknowledged a flushed frame; the pipe was torn down. -/
  | reset (device : UInt64)
  | closed
  | noFreePort (attempts : Nat)
  | tableFull (table : PipeTable) (capacity : Nat)
  | workerQueueFull
  /-- Packet data longer than any frame carries. -/
  | packetTooLarge (size : Nat)
  /-- An open command's payload is too short. -/
  | invalidOpen (length : Nat)
  /-- Events are numbered with sixteen bits. -/
  | invalidEvent (event : UInt32)
  | tooManyServices (count : Nat)
  deriving DecidableEq

def NodeError.message : NodeError → String
  | .reset device =>
    let target := Text.hex 16 device.toNat
    s!"pipe to {target} reset: no acknowledgement"
  | .closed => "pipe closed"
  | .noFreePort attempts => s!"no free pipe port after {attempts} attempts"
  | .tableFull table capacity => s!"{table.name} pipe table full ({capacity} slots)"
  | .workerQueueFull => "worker queue full"
  | .packetTooLarge size => s!"packet data of {size} bytes exceeds {maxPacketData}"
  | .invalidOpen length => s!"invalid pipe open payload ({length} bytes)"
  | .invalidEvent event =>
    let number := Text.hex 1 event.toNat
    s!"event id 0x{number} out of range"
  | .tooManyServices count => s!"too many services: {count}"

end PipeBus
