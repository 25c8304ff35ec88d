import PipeBus.Frame.Basic

/-!
Frames as bytes. `toBytes` writes a frame, `Frame.decode` reads exactly one, and
`Frame.scan` looks at the front of a stream buffer, of which it says what stands
there and what is left after it. What is left is shorter than the buffer
(`scan_frame_length`, `scan_mismatch_length`), so that a buffer holds finitely many
frames (`scanAll`).
-/
namespace PipeBus.Frame

/-- A frame on the wire: checksum, size, flags, device, payload. -/
def toBytes (frame : Frame) : Bytes := Wire.word16 frame.crc ++ frame.checked

/-- What a header announces: nothing yet, too large a payload, or the bytes of the whole frame. -/
inductive Announced where
  | incomplete
  | outOfRange (size : Nat)
  | total (length : Nat)
  deriving DecidableEq

/-- Read the size field, once all of the header is there. -/
def announced (bytes : Bytes) : Announced :=
  if bytes.length < frameHeader then .incomplete
  else
    let size := (bytes.getD 2 0).toNat
    if size > maxPayload then .outOfRange size else .total (frameHeader + size)

/-- The frame in bytes that are one frame long; its checksum is taken as stored. -/
def ofBytes (bytes : Bytes) : Frame where
  device := Wire.toWord64 (bytes.drop 4)
  flags := bytes.getD 3 0
  crc := Wire.toWord16 bytes
  payload := bytes.drop frameHeader

/-- A frame whose stored checksum is that of its contents. -/
def verify (frame : Frame) : Except FrameError Frame :=
  if frame.computeCrc = frame.crc then .ok frame
  else .error (.crcMismatch frame.crc frame.computeCrc)

/-- Decode the frame at the front of received bytes; what follows it is ignored. -/
def decode (bytes : Bytes) : Except FrameError Frame :=
  match announced bytes with
  | .incomplete => .error (.tooShort bytes.length)
  | .outOfRange size => .error (.sizeOutOfRange size)
  | .total total =>
    if bytes.length < total then .error (.truncated total bytes.length)
    else verify (ofBytes (bytes.take total))

/-- What stands at the front of a stream buffer, with the bytes left after it. -/
inductive Scan where
  | incomplete
  /-- A size field that no frame has; nothing is consumed. -/
  | outOfRange (size : Nat)
  | frame (found : Frame) (rest : Bytes)
  /-- A frame with the wrong checksum; it is consumed, so that reading can go on after it. -/
  | mismatch (stored computed : UInt16) (rest : Bytes)

def scan (verifyCrc : Bool) (buffer : Bytes) : Scan :=
  match announced buffer with
  | .incomplete => .incomplete
  | .outOfRange size => .outOfRange size
  | .total total =>
    if buffer.length < total then .incomplete
    else
      let found := ofBytes (buffer.take total)
      let rest := buffer.drop total
      if verifyCrc && found.computeCrc != found.crc then
        .mismatch found.crc found.computeCrc rest
      else .frame found rest

theorem announced_total {bytes : Bytes} {total : Nat}
    (found : announced bytes = .total total) : frameHeader ≤ total := by
  unfold announced at found
  split at found
  · cases found
  · simp only at found
    split at found <;> cases found
    omega

theorem scan_frame_length {verifyCrc : Bool} {buffer rest : Bytes} {found : Frame}
    (scanned : scan verifyCrc buffer = .frame found rest) : rest.length < buffer.length := by
  unfold scan at scanned
  split at scanned
  · cases scanned
  · cases scanned
  · rename_i total header
    have := announced_total header
    split at scanned
    · cases scanned
    · simp only at scanned
      split at scanned <;> cases scanned
      simp only [List.length_drop, frameHeader] at *
      omega

theorem scan_mismatch_length {verifyCrc : Bool} {buffer rest : Bytes}
    {stored computed : UInt16} (scanned : scan verifyCrc buffer = .mismatch stored computed rest) :
    rest.length < buffer.length := by
  unfold scan at scanned
  split at scanned
  · cases scanned
  · cases scanned
  · rename_i total header
    have := announced_total header
    split at scanned
    · cases scanned
    · simp only at scanned
      split at scanned <;> cases scanned
      simp only [List.length_drop, frameHeader] at *
      omega

theorem scan_outOfRange_length {verifyCrc : Bool} {buffer : Bytes} {size : Nat}
    (scanned : scan verifyCrc buffer = .outOfRange size) : frameHeader ≤ buffer.length := by
  unfold scan at scanned
  split at scanned
  · cases scanned
  · rename_i header
    unfold announced at header
    split at header
    · cases header
    · omega
  · split at scanned
    · cases scanned
    · simp only at scanned
      split at scanned <;> cases scanned

/-- Take frames off the front of a stream buffer until none is complete there. A size that no frame
has ends it as well, and stays in the buffer. -/
def scanAll (verifyCrc : Bool) (buffer : Bytes) : List (Except FrameError Frame) × Bytes :=
  match _scanned : scan verifyCrc buffer with
  | .incomplete => ([], buffer)
  | .outOfRange size => ([.error (.sizeOutOfRange size)], buffer)
  | .frame found rest =>
    let (results, left) := scanAll verifyCrc rest
    (.ok found :: results, left)
  | .mismatch stored computed rest =>
    let (results, left) := scanAll verifyCrc rest
    (.error (.crcMismatch stored computed) :: results, left)
termination_by buffer.length
decreasing_by
  · exact scan_frame_length _scanned
  · exact scan_mismatch_length _scanned

end PipeBus.Frame
