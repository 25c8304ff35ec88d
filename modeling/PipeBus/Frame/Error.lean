import PipeBus.Text.Digits

/-!
What can go wrong between bytes and frames. Every cause has one message.
-/
namespace PipeBus

/-- Why a byte stream refused to read, write or flush. -/
inductive Fault where
  | interrupted
  | wouldBlock
  | timedOut
  | brokenPipe
  | unexpectedEnd
  | permissionDenied
  | connectionReset
  | isDirectory
  deriving DecidableEq

def Fault.message : Fault → String
  | .interrupted => "operation interrupted"
  | .wouldBlock => "operation would block"
  | .timedOut => "timed out"
  | .brokenPipe => "broken pipe"
  | .unexpectedEnd => "unexpected end of file"
  | .permissionDenied => "permission denied"
  | .connectionReset => "connection reset"
  | .isDirectory => "Is a directory (os error 21)"

/-- Why bytes are not a frame, or a frame did not get through a stream. -/
inductive FrameError where
  /-- Fewer bytes than a frame header. -/
  | tooShort (length : Nat)
  /-- The size field claims more payload than a frame can carry. -/
  | sizeOutOfRange (size : Nat)
  /-- The bytes end before the payload announced by the size field. -/
  | truncated (expected actual : Nat)
  | crcMismatch (stored computed : UInt16)
  /-- A pipe open payload is shorter than its fixed layout. -/
  | invalidPipeOpen (length : Nat)
  | stream (fault : Fault)
  /-- The stream ended inside a frame. -/
  | connectionClosed
  deriving DecidableEq

def maxPayload : Nat := 236

def FrameError.message : FrameError → String
  | .tooShort length => s!"frame too short ({length} bytes, header is 12)"
  | .sizeOutOfRange size => s!"frame size {size} exceeds payload capacity {maxPayload}"
  | .truncated expected actual => s!"frame truncated (expected {expected} bytes, got {actual})"
  | .crcMismatch stored computed =>
    let storedText := Text.hex 4 stored.toNat
    let computedText := Text.hex 4 computed.toNat
    s!"crc mismatch (stored 0x{storedText}, computed 0x{computedText})"
  | .invalidPipeOpen length => s!"invalid pipe open payload ({length} bytes, need 12)"
  | .stream fault => s!"frame I/O error: {fault.message}"
  | .connectionClosed => "connection closed (incomplete frame)"

end PipeBus
