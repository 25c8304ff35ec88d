import PipeBus.Wire

/-!
What the echo service and its clients agree on: the class of the service, the
command that opens a connection, and the report sent before a connection is
closed because of an error.
-/
namespace PipeBus

namespace Echo

def serviceClass : UInt32 := 0x1e7c4c03

/-- Opens a connection; the data says where the client listens. -/
def openCommand : UInt16 := 0x80

/-- Metadata of at least four bytes: no such command is known. -/
def unknownCommand : Int32 := 1

/-- Metadata too short to hold a command. -/
def malformedCommand : Int32 := 2

/-- A packet was lost to a full queue. -/
def overrun : Int32 := 3

end Echo

/-- The report before a connection is closed on an error. -/
structure EchoStatus where
  tag : UInt32
  error : Int32
  deriving DecidableEq

namespace EchoStatus

def length : Nat := 8

/-- Tag, then error code, four bytes each. -/
def encode (status : EchoStatus) : Bytes :=
  Wire.word32 status.tag ++ Wire.word32 status.error.toUInt32

/-- Read a report; what follows it is ignored. -/
def parse? (bytes : Bytes) : Option EchoStatus :=
  if bytes.length < length then none
  else some ⟨Wire.toWord32 bytes, (Wire.toWord32 (bytes.drop 4)).toInt32⟩

end EchoStatus

end PipeBus
