import PipeBus.Frame.Basic

/-!
Service numbers with a fixed meaning, the commands every device knows, and the
names under which numbers and flags are shown. Numbers below the reserved ones
index the services that a device hosts.
-/
namespace PipeBus

namespace ServiceNumber

/-- The device itself: announce. -/
def control : UInt8 := 0x00

/-- Pipe data; the command is a pipe word. -/
def pipe : UInt8 := 0x3e

/-- Acknowledgement; the command is the checksum of the acknowledged frame. -/
def crcAck : UInt8 := 0x3f

def maxHosted : Nat := 0x3b

def name (number : UInt8) : String :=
  if number = control then "CONTROL"
  else if number = pipe then "PIPE"
  else if number = crcAck then "CRC_ACK"
  else if number = 0x3c ∨ number = 0x3d then "RESERVED"
  else "SERVICE"

end ServiceNumber

namespace Command

/-- Control service: the list of hosted service classes. -/
def advertisement : UInt16 := 0x00

/-- An event report: event and argument, four bytes each. -/
def event : UInt16 := 0x81

end Command

/-- Names of the flags that are set, joined by bars; a dash for none. -/
def Flag.names (flags : UInt8) : String :=
  let set :=
    (if Flag.has flags Flag.command then ["COMMAND"] else []) ++
    (if Flag.has flags Flag.ackRequested then ["ACK_REQUESTED"] else []) ++
    (if Flag.has flags Flag.serviceClass then ["SERVICE_CLASS"] else [])
  if set.isEmpty then "-" else String.intercalate "|" set

end PipeBus
