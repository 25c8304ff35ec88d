import PipeBus.Frame.Error

/-!
The command word of a pipe packet, and the payload that opens a pipe.

A word holds a port (9 bits), a metadata flag, a close flag and a counter
(5 bits), from the high end down. Advancing a word moves its counter and nothing
else.
-/
namespace PipeBus

/-- Largest port number; port 0 is never assigned. -/
def maxPort : UInt16 := 0x1ff

/-- The command word of one pipe packet. -/
structure PipeWord where
  raw : UInt16
  deriving DecidableEq

namespace PipeWord

/-- First word of a pipe: counter zero, no flags. Only the low nine bits of the port count. -/
def ofPort (port : UInt16) : PipeWord := ⟨(port &&& maxPort) <<< 7⟩

def port (word : PipeWord) : UInt16 := word.raw >>> 7

def counter (word : PipeWord) : UInt16 := word.raw &&& 0x1f

def isMeta (word : PipeWord) : Bool := word.raw &&& 0x40 != 0

def isClose (word : PipeWord) : Bool := word.raw &&& 0x20 != 0

/-- The same port and counter with the metadata flag set. -/
def withMeta (word : PipeWord) : PipeWord := ⟨word.raw ||| 0x40⟩

/-- The same port and counter with the close flag set. -/
def withClose (word : PipeWord) : PipeWord := ⟨word.raw ||| 0x20⟩

/-- The next counter value; the counter wraps within its five bits. -/
def advance (word : PipeWord) : PipeWord :=
  ⟨((word.raw + 1) &&& 0x1f) ||| (word.raw &&& ~~~(0x1f : UInt16))⟩

/-- Text of a word: port and counter, then the flags that are set. -/
def text (word : PipeWord) : String :=
  s!"port={word.port} counter={word.counter}" ++
    (if word.isMeta then " meta" else "") ++ (if word.isClose then " close" else "")

end PipeWord

/-- Payload of an open command: where the opener listens. -/
structure PipeOpen where
  device : UInt64
  port : UInt16
  deriving DecidableEq

namespace PipeOpen

/-- Bytes of an open payload: device (8), port (2), two reserved zeros. -/
def length : Nat := 12

def encode (opening : PipeOpen) : Bytes :=
  Wire.word64 opening.device ++ Wire.word16 opening.port ++ [0, 0]

/-- Read an open payload; the reserved bytes and all that follows are ignored. -/
def parse (bytes : Bytes) : Except FrameError PipeOpen :=
  if bytes.length < length then .error (.invalidPipeOpen bytes.length)
  else .ok ⟨Wire.toWord64 bytes, Wire.toWord16 (bytes.drop 8)⟩

end PipeOpen

end PipeBus
