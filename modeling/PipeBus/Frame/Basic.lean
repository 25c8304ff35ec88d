import PipeBus.Crc
import PipeBus.Frame.Error

/-!
Frames and the packets packed into their payload.

A packet is a size byte, a service number, a two-byte command and `size` bytes of
data, filled with zeros to a multiple of four. A frame carries packets up to
`maxPayload` bytes. `Frame.packets` reads all packets at once; `Frame.front?` and
`Frame.shift?` take them off one by one.
-/
namespace PipeBus

/-- Header bytes of a frame: checksum (2), size (1), flags (1), device (8). -/
def frameHeader : Nat := 12

/-- Header bytes of a packet: size (1), service number (1), command (2). -/
def packetHeader : Nat := 4

/-- Longest packet data that fits in an empty frame. -/
def maxPacketData : Nat := maxPayload - packetHeader

/-- The next multiple of four. -/
def align4 (length : Nat) : Nat := (length + 3) / 4 * 4

namespace Flag

/-- The frame is a command, addressed to its device field. -/
def command : UInt8 := 1

/-- The receiver must acknowledge the frame. -/
def ackRequested : UInt8 := 2

/-- The device field holds a service class rather than a device. -/
def serviceClass : UInt8 := 4

def has (flags bit : UInt8) : Bool := flags &&& bit != 0

end Flag

/-- A packet together with the frame header it arrived in. -/
structure Packet where
  device : UInt64
  flags : UInt8
  service : UInt8
  command : UInt16
  data : Bytes
  deriving DecidableEq

namespace Packet

def isCommand (packet : Packet) : Bool := Flag.has packet.flags Flag.command

def targetsClass (packet : Packet) : Bool := Flag.has packet.flags Flag.serviceClass

end Packet

/-- One frame on the bus. The device is the sender of a report and the target of a command. -/
structure Frame where
  device : UInt64
  flags : UInt8
  crc : UInt16 := 0
  payload : Bytes := []
  deriving DecidableEq

namespace Frame

def empty (device : UInt64) (flags : UInt8) : Frame := ⟨device, flags, 0, []⟩

instance : Inhabited Frame := ⟨empty 0 0⟩

/-- The size field: the payload length, of which one byte is kept. -/
def size (frame : Frame) : UInt8 := UInt8.ofNat frame.payload.length

def isEmpty (frame : Frame) : Bool := frame.payload.isEmpty

def isCommand (frame : Frame) : Bool := Flag.has frame.flags Flag.command

def ackRequested (frame : Frame) : Bool := Flag.has frame.flags Flag.ackRequested

def targetsClass (frame : Frame) : Bool := Flag.has frame.flags Flag.serviceClass

def wireSize (frame : Frame) : Nat := frameHeader + frame.payload.length

/-- Payload bytes left for further packets, their headers included. -/
def remaining (frame : Frame) : Nat := maxPayload - frame.payload.length

/-- Everything that the checksum covers: the frame on the wire without the checksum itself. -/
def checked (frame : Frame) : Bytes :=
  [frame.size, frame.flags] ++ Wire.word64 frame.device ++ frame.payload

/-- Checksum of the contents, whatever checksum is stored. -/
def computeCrc (frame : Frame) : UInt16 := Crc.ofBytes frame.checked

/-- The frame with its checksum stored, ready to send. -/
def sealed (frame : Frame) : Frame := { frame with crc := frame.computeCrc }

/-- A packet as it stands in a payload, zeros up to a multiple of four included. -/
def packetBytes (service : UInt8) (command : UInt16) (data : Bytes) : Bytes :=
  let unpadded := packetHeader + data.length
  [UInt8.ofNat data.length, service] ++ Wire.word16 command ++ data ++
    List.replicate (align4 unpadded - unpadded) 0

/-- Append a packet; nothing when it does not fit. -/
def push? (frame : Frame) (service : UInt8) (command : UInt16) (data : Bytes) : Option Frame :=
  if packetHeader + data.length > frame.remaining then none
  else some { frame with payload := frame.payload ++ packetBytes service command data }

/-- The packet at the front of payload bytes, if a complete one stands there. -/
def packetAt? (device : UInt64) (flags : UInt8) : Bytes → Option Packet
  | size :: service :: low :: high :: rest =>
    if size.toNat ≤ rest.length then
      some ⟨device, flags, service, Wire.toWord16 [low, high], rest.take size.toNat⟩
    else none
  | _ => none

def front? (frame : Frame) : Option Packet := packetAt? frame.device frame.flags frame.payload

/-- Payload bytes that a packet with this much data takes. -/
def stride (dataLength : Nat) : Nat := align4 (packetHeader + dataLength)

theorem stride_pos (dataLength : Nat) : 4 ≤ stride dataLength := by
  unfold stride align4 packetHeader
  omega

theorem packetAt?_length {device : UInt64} {flags : UInt8} {payload : Bytes} {packet : Packet}
    (found : packetAt? device flags payload = some packet) : 4 ≤ payload.length := by
  match payload, found with
  | _ :: _ :: _ :: _ :: _, _ => simp
  | [], found | [_], found | [_, _], found | [_, _, _], found => simp [packetAt?] at found

/-- The packets of payload bytes, up to the first place where none stands. -/
def packetsOf (device : UInt64) (flags : UInt8) (payload : Bytes) : List Packet :=
  match _found : packetAt? device flags payload with
  | none => []
  | some packet => packet :: packetsOf device flags (payload.drop (stride packet.data.length))
termination_by payload.length
decreasing_by
  have := stride_pos packet.data.length
  have := packetAt?_length _found
  simp only [List.length_drop]
  omega

def packets (frame : Frame) : List Packet := packetsOf frame.device frame.flags frame.payload

/-- Drop the front packet when another complete one follows. The acknowledgement request goes
with it: it has been answered for the frame. -/
def shift? (frame : Frame) : Option Frame :=
  match frame.payload with
  | [] => none
  | first :: _ =>
    let rest := frame.payload.drop (stride first.toNat)
    if (packetAt? frame.device frame.flags rest).isSome then
      some { frame with flags := frame.flags &&& ~~~Flag.ackRequested, payload := rest }
    else none

theorem shift?_length {frame next : Frame} (shifted : frame.shift? = some next) :
    next.payload.length < frame.payload.length := by
  unfold shift? at shifted
  split at shifted
  · cases shifted
  · rename_i first rest found
    simp only at shifted
    split at shifted
    · cases shifted
      have := stride_pos first.toNat
      simp only [List.length_drop, found, List.length_cons]
      omega
    · cases shifted

end Frame

end PipeBus
