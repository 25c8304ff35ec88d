import PipeBus.Pipe.Call
import PipeBus.Registry

/-!
The sending end of a pipe.

Packets are staged in a command frame to the receiver that asks for an
acknowledgement. A flush seals the frame and sends copies of it, with longer and
longer waits, until the acknowledgement arrives. A pipe that never gets one is
torn down. All operations are calls, because each of them may have to wait.
-/
namespace PipeBus

/-- What a pipe packet carries. -/
inductive PacketKind where
  | data
  | metadata
  | close
  deriving DecidableEq

/-- The word of a packet of some kind. -/
def PipeWord.ofKind (word : PipeWord) : PacketKind → PipeWord
  | .data => word
  | .metadata => word.withMeta
  | .close => word.withClose

/-- The sending end of a pipe. -/
structure OutputPipe where
  device : UInt64
  port : UInt16
  ack : AckHandle
  retry : RetryPolicy
  next : PipeWord
  staging : Option Frame := none
  isOpen : Bool := true

namespace OutputPipe

/-- A fresh pipe to a port of a device, with a registered waiter. -/
def create (device : UInt64) (port : UInt16) (ack : AckHandle) (retry : RetryPolicy) :
    OutputPipe where
  device
  port
  ack
  retry
  next := PipeWord.ofPort port

/-- The staging frame, a new one if there is none. -/
def stagingFrame (pipe : OutputPipe) : Frame :=
  pipe.staging.getD (Frame.empty pipe.device (Flag.command ||| Flag.ackRequested))

/-- Send a frame once per wait until one of the waits succeeds. -/
def resend {α : Type} (frame : Frame) (finish : Bool → Call α) : List Duration → Call α
  | [] => finish false
  | delay :: rest =>
    .send frame (.wait delay fun acked => if acked then finish true else resend frame finish rest)

/-- Send the staging frame until it is acknowledged. -/
def flushStaging (pipe : OutputPipe) : Call (Except NodeError Unit × OutputPipe) :=
  match pipe.staging with
  | none => .done (.ok (), pipe)
  | some frame =>
    let emptied := { pipe with staging := none }
    .arm frame.sealed.crc (resend frame.sealed (fun acked =>
      .disarm (.done (if acked then .ok () else .error (.reset pipe.device), emptied)))
      pipe.retry.delays)

/-- Tear the pipe down, if it is open. -/
def free (pipe : OutputPipe) : Call OutputPipe :=
  if pipe.isOpen then .release (.done { pipe with isOpen := false, staging := none })
  else .done pipe

/-- Add a packet to the staging frame; nothing when it does not fit. -/
def stage? (pipe : OutputPipe) (data : Bytes) (kind : PacketKind) : Option OutputPipe :=
  (pipe.stagingFrame.push? ServiceNumber.pipe (pipe.next.ofKind kind).raw data).map fun frame =>
    { pipe with staging := some frame, next := pipe.next.advance }

/-- Stage a packet, flushing whenever it does not fit, for at most so many turns. -/
def stageWithin (pipe : OutputPipe) (data : Bytes) (kind : PacketKind) :
    Nat → Call (Except NodeError Unit × OutputPipe)
  | 0 => .done (.ok (), pipe)
  | turns + 1 =>
    match pipe.stage? data kind with
    | some staged => .done (.ok (), staged)
    | none =>
      pipe.flushStaging.bind fun
        | (.ok (), flushed) => flushed.stageWithin data kind turns
        | (.error error, flushed) => flushed.free.bind fun freed => .done (.error error, freed)

/-- Turns in which a packet is staged: an empty frame takes every packet there is. -/
def stageTurns : Nat := 2

def pushPacket (pipe : OutputPipe) (data : Bytes) (kind : PacketKind) :
    Call (Except NodeError Unit × OutputPipe) := pipe.stageWithin data kind stageTurns

/-- Queue packets, up to the first that fails. -/
def pushAll (pipe : OutputPipe) (kind : PacketKind) :
    List Bytes → Call (Except NodeError Unit × OutputPipe)
  | [] => .done (.ok (), pipe)
  | chunk :: rest =>
    (pipe.pushPacket chunk kind).bind fun
      | (.ok (), pushed) => pushed.pushAll kind rest
      | (.error error, failed) => .done (.error error, failed)

/-- The packets that a write is cut into; a write without bytes is one packet. -/
def pieces (data : Bytes) : List Bytes := if data.isEmpty then [[]] else data.chunks maxPacketData

/-- Queue data or metadata. -/
def writeKind (pipe : OutputPipe) (data : Bytes) (kind : PacketKind) :
    Call (Except NodeError Unit × OutputPipe) :=
  if pipe.isOpen then pipe.pushAll kind (pieces data) else .done (.error .closed, pipe)

/-- Queue data; what is longer than one packet is cut. -/
def write (pipe : OutputPipe) (data : Bytes) : Call (Except NodeError Unit × OutputPipe) :=
  pipe.writeKind data .data

def writeMeta (pipe : OutputPipe) (data : Bytes) : Call (Except NodeError Unit × OutputPipe) :=
  pipe.writeKind data .metadata

/-- Send what is staged and wait for the acknowledgement. A pipe that fails is torn down. -/
def flush (pipe : OutputPipe) : Call (Except NodeError Unit × OutputPipe) :=
  if pipe.isOpen then
    pipe.flushStaging.bind fun
      | (.ok (), flushed) => .done (.ok (), flushed)
      | (.error error, flushed) => flushed.free.bind fun freed => .done (.error error, freed)
  else .done (.error .closed, pipe)

/-- Send a close packet, then tear the pipe down. A closed pipe stays as it is. -/
def close (pipe : OutputPipe) : Call (Except NodeError Unit × OutputPipe) :=
  if pipe.isOpen then
    (pipe.pushPacket [] .close).bind fun
      | (.ok (), pushed) =>
        pushed.flushStaging.bind fun (result, flushed) =>
          flushed.free.bind fun freed => .done (result, freed)
      | (.error error, failed) => failed.free.bind fun freed => .done (.error error, freed)
  else .done (.ok (), pipe)

def writeThrough (pipe : OutputPipe) (data : Bytes) :
    Call (Except NodeError Unit × OutputPipe) :=
  (pipe.write data).bind fun
    | (.ok (), written) => written.flush
    | (.error error, failed) => .done (.error error, failed)

end OutputPipe

end PipeBus
