import PipeBus.CommandLine.Arguments
import PipeBus.CommandLine.Exit
import PipeBus.Stream.Reader
import PipeBus.Text.HexInput
import PipeBus.Text.Json
import PipeBus.Text.Table

/-!
The decode command: every packet of a stream of frames becomes one record. A
stream with anything in it that is not a frame gives no records at all.
-/
namespace PipeBus.CommandLine

/-- One packet of a decoded stream. -/
structure PacketRecord where
  /-- Number of the frame in the stream, from zero. -/
  frame : Nat
  crc : UInt16
  packet : Packet
  deriving DecidableEq

namespace PacketRecord

/-- Records of the packets of one frame. Flags are shown as the frame has them. -/
def ofFrame (index : Nat) (frame : Frame) : List PacketRecord :=
  frame.packets.map fun packet => ⟨index, frame.crc, packet⟩

def previewLength : Nat := 16

/-- The data shown: its first bytes, and how many more there are. -/
def preview (data : Bytes) : String :=
  let shown := Text.hexOfBytes (data.take previewLength)
  if data.length > previewLength then s!"{shown}..(+{data.length - previewLength})" else shown

def device (record : PacketRecord) : String := Text.hex 16 record.packet.device.toNat

def crcText (record : PacketRecord) : String := Text.hex 4 record.crc.toNat

def service (record : PacketRecord) : String := ServiceNumber.name record.packet.service

def command (record : PacketRecord) : String := "0x" ++ Text.hex 4 record.packet.command.toNat

/-- The pipe word that is the command of a pipe packet. -/
def word? (record : PacketRecord) : Option PipeWord :=
  if record.packet.service = ServiceNumber.pipe then some ⟨record.packet.command⟩ else none

/-- The command as text: a pipe word in its parts, any other as a number. -/
def commandText (record : PacketRecord) : String :=
  match record.word? with
  | some word => word.text
  | none => record.command

def data (record : PacketRecord) : String := preview record.packet.data

def wordJson (word : PipeWord) : String :=
  Text.Json.object [
    ("port", toString word.port.toNat), ("counter", toString word.counter.toNat),
    ("meta", toString word.isMeta), ("close", toString word.isClose)]

def json (record : PacketRecord) : String :=
  Text.Json.object ([
    ("frame", toString record.frame),
    ("device", Text.Json.string record.device),
    ("flags", Text.Json.string (Flag.names record.packet.flags)),
    ("crc", Text.Json.string record.crcText),
    ("service_number", toString record.packet.service.toNat),
    ("service", Text.Json.string record.service),
    ("command", Text.Json.string record.command)]
    ++ (record.word?.map fun word => ("pipe", wordJson word)).toList ++ [
    ("size", toString record.packet.data.length),
    ("data", Text.Json.string record.data)])

def serviceText (record : PacketRecord) : String :=
  s!"{record.packet.service.toNat} ({record.service})"

/-- A record on one line. -/
def pretty (record : PacketRecord) : String :=
  let flags := Flag.names record.packet.flags
  s!"frame={record.frame} device={record.device} flags={flags} crc={record.crcText} " ++
    s!"service={record.serviceText} {record.commandText} " ++
    s!"size={record.packet.data.length} data={record.data}"

def row (record : PacketRecord) : List String :=
  [toString record.frame, record.device, Flag.names record.packet.flags, record.serviceText,
    record.commandText, toString record.packet.data.length, record.data]

def table (records : List PacketRecord) : Text.Table where
  header := ["FRAME", "DEVICE", "FLAGS", "SERVICE", "COMMAND", "SIZE", "DATA"]
  rows := records.map row

def lines (format : Format) (records : List PacketRecord) : List String :=
  match format with
  | .json => records.map json
  | .pretty => records.map pretty
  | .table => (table records).lines

end PacketRecord

/-- Records of all frames of a stream, or what is wrong with the first that is none. -/
def decodeStream (source : Source) : Except Failure (List PacketRecord) :=
  match FrameReader.collect { source } with
  | (frames, some error) => .error (Failure.ofFrameError s!"frame {frames.length}" error)
  | (frames, none) =>
    .ok (frames.zipIdx.flatMap fun (frame, index) => PacketRecord.ofFrame index frame)

def DecodeInput.source (files : Files) : DecodeInput → Except Failure Source
  | .hex text =>
    match HexInput.parse text with
    | .ok bytes => .ok [.bytes bytes]
    | .error problem => .error ⟨.usage, problem.message⟩
  | .file path =>
    match files path with
    | .refused fault =>
      .error (Failure.within s!"failed opening {path}" (Exit.ofOpenFault fault) fault.message)
    | .directory => .ok [.fault .isDirectory]
    | .content bytes => .ok [.bytes bytes]

/-- Decode a stream of frames and print its packets. -/
def runDecode (files : Files) (input : DecodeInput) (format : Format) :
    Except Failure (Exit × List String) := do
  let records ← decodeStream (← input.source files)
  return (.success, PacketRecord.lines format records)

end PipeBus.CommandLine
