import PipeBus.Frame.Codec
import PipeBus.Stream.Source

/-!
Frames out of a byte stream. Frames are delimited by their own size field; a
reader buffers what it has read and looks for the next frame at the front.

`turn` is one round of looking and reading, `next` repeats it up to the next
result, `collect` takes frames until the stream ends or fails. Every round
without a result uses up a part of the stream or of the buffer (`turn_again`),
so `next` ends on every stream.
-/
namespace PipeBus

/-- A stream with the bytes read from it but not yet taken as frames. -/
structure FrameReader where
  source : Source
  buffer : Bytes := []
  /-- Report frames whose stored checksum does not match. -/
  verifyCrc : Bool := true
  /-- Skip what is no frame instead of reporting it. -/
  skipInvalid : Bool := false

namespace FrameReader

def readSize : Nat := 1024

/-- What one round of reading comes to. -/
inductive Turn where
  | again
  | frame (found : Frame)
  | failed (error : FrameError)
  /-- The stream ended between two frames. -/
  | finished

def fill (reader : FrameReader) : Turn × FrameReader :=
  match reader.source.read readSize with
  | (.error .interrupted, rest) => (.again, { reader with source := rest })
  | (.error fault, rest) => (.failed (.stream fault), { reader with source := rest })
  | (.ok [], rest) =>
    (if reader.buffer.isEmpty then .finished else .failed .connectionClosed,
      { reader with source := rest })
  | (.ok (first :: others), rest) =>
    (.again, { reader with source := rest, buffer := reader.buffer ++ first :: others })

/-- Look at the front of the buffer, and read on when no frame is complete there. -/
def turn (reader : FrameReader) : Turn × FrameReader :=
  match Frame.scan reader.verifyCrc reader.buffer with
  | .incomplete => reader.fill
  | .frame found rest => (.frame found, { reader with buffer := rest })
  | .mismatch stored computed rest =>
    (if reader.skipInvalid then .again else .failed (.crcMismatch stored computed),
      { reader with buffer := rest })
  | .outOfRange size =>
    if reader.skipInvalid then (.again, { reader with buffer := reader.buffer.drop 1 })
    else (.failed (.sizeOutOfRange size), reader)

/-- Work left in the stream and in the buffer. -/
def pending (reader : FrameReader) : Nat := reader.source.weight + reader.buffer.length

theorem fill_again {reader later : FrameReader} (turned : reader.fill = (.again, later)) :
    later.pending < reader.pending := by
  unfold fill at turned
  split at turned
  · rename_i found
    cases turned
    have := Source.weight_read_fault found
    simp only [pending]; omega
  · cases turned
  · split at turned <;> cases turned
  · rename_i found
    cases turned
    have := Source.weight_read_bytes found (by simp)
    simp only [pending, List.length_append, List.length_cons] at this ⊢
    omega

theorem turn_again {reader later : FrameReader} (turned : reader.turn = (.again, later)) :
    later.pending < reader.pending := by
  unfold turn at turned
  split at turned
  · exact fill_again turned
  · cases turned
  · rename_i scanned
    have := Frame.scan_mismatch_length scanned
    split at turned <;> cases turned
    simp only [pending]; omega
  · rename_i scanned
    have := Frame.scan_outOfRange_length scanned
    split at turned <;> cases turned
    simp only [pending, List.length_drop, frameHeader] at *
    omega

theorem turn_frame {reader later : FrameReader} {found : Frame}
    (turned : reader.turn = (.frame found, later)) : later.pending < reader.pending := by
  unfold turn at turned
  split at turned
  · unfold fill at turned
    split at turned <;> try cases turned
    split at turned <;> cases turned
  · rename_i scanned
    have := Frame.scan_frame_length scanned
    cases turned
    simp only [pending]; omega
  · split at turned <;> cases turned
  · split at turned <;> cases turned

/-- The next frame, nothing at the end of the stream, or what went wrong. -/
def next (reader : FrameReader) : Except FrameError (Option Frame) × FrameReader :=
  match _turned : reader.turn with
  | (.again, later) => later.next
  | (.frame found, later) => (.ok (some found), later)
  | (.failed error, later) => (.error error, later)
  | (.finished, later) => (.ok none, later)
termination_by reader.pending
decreasing_by exact turn_again _turned

/-- The next frame, where the end of the stream counts as an error. -/
def read (reader : FrameReader) : Except FrameError Frame × FrameReader :=
  match reader.next with
  | (.ok (some found), later) => (.ok found, later)
  | (.ok none, later) => (.error .connectionClosed, later)
  | (.error error, later) => (.error error, later)

/-- All frames up to the end of the stream or the first error, and that error. -/
def collect (reader : FrameReader) : List Frame × Option FrameError :=
  match _turned : reader.turn with
  | (.again, later) => later.collect
  | (.frame found, later) =>
    let (frames, error) := later.collect
    (found :: frames, error)
  | (.failed error, _) => ([], some error)
  | (.finished, _) => ([], none)
termination_by reader.pending
decreasing_by
  · exact turn_again _turned
  · exact turn_frame _turned

end FrameReader

end PipeBus
