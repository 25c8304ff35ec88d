import PipeBus.Proofs.Encoding

/-! Which bytes are a frame. Whatever bytes come in, they are too few for a header, or claim a size
that no frame has, or end before the payload does, or begin with the bytes of just one frame
(`Frame.decodes`). Main statement: decoding them as one frame and taking them off a stream agree on
which of these it is, and differ only in what they leave behind (`Frame.decoders_agree`). -/

namespace PipeBus.Frame

def sizeField (bytes : Bytes) : Nat := (bytes.getD 2 0).toNat

/-- Bytes of the whole frame that a header announces. -/
def span (bytes : Bytes) : Nat := frameHeader + sizeField bytes

/-- Bytes that begin with a complete frame and its right checksum. -/
structure WellFormed (bytes : Bytes) : Prop where
  header : frameHeader ≤ bytes.length
  size : sizeField bytes ≤ maxPayload
  complete : span bytes ≤ bytes.length
  checksum : Wire.toWord16 bytes = Crc.ofBytes ((bytes.take (span bytes)).drop 2)

/-- What a scan says to whoever reads frames. -/
def Scan.result : Scan → Except FrameError (Option Frame)
  | .incomplete => .ok none
  | .outOfRange size => .error (.sizeOutOfRange size)
  | .frame found _ => .ok (some found)
  | .mismatch stored computed _ => .error (.crcMismatch stored computed)

def Scan.left (buffer : Bytes) : Scan → Bytes
  | .incomplete | .outOfRange _ => buffer
  | .frame _ rest | .mismatch _ _ rest => rest

/-- Take one frame off a stream buffer: what comes of it, and the buffer afterwards. -/
def takeFrame (verifyCrc : Bool) (buffer : Bytes) : Except FrameError (Option Frame) × Bytes :=
  let scanned := scan verifyCrc buffer
  (scanned.result, scanned.left buffer)

/-- Taking all frames off a buffer is taking one after the other. -/
theorem scanAll_eq (verifyCrc : Bool) (buffer : Bytes) :
    scanAll verifyCrc buffer =
      match takeFrame verifyCrc buffer with
      | (.ok none, left) => ([], left)
      | (.ok (some found), left) =>
        (.ok found :: (scanAll verifyCrc left).1, (scanAll verifyCrc left).2)
      | (.error (.sizeOutOfRange size), left) => ([.error (.sizeOutOfRange size)], left)
      | (.error error, left) =>
        (.error error :: (scanAll verifyCrc left).1, (scanAll verifyCrc left).2) := by
  rw [scanAll]
  unfold takeFrame
  split <;> rename_i scanned <;> rw [scanned] <;> rfl

variable {bytes rest : Bytes} {frame : Frame}

theorem announced_short (header : bytes.length < frameHeader) : announced bytes = .incomplete := by
  rw [announced, if_pos header]

theorem announced_oversized (header : frameHeader ≤ bytes.length)
    (large : maxPayload < sizeField bytes) : announced bytes = .outOfRange (sizeField bytes) := by
  rw [announced, if_neg (Nat.not_lt.mpr header)]
  exact if_pos large

theorem announced_span (header : frameHeader ≤ bytes.length) (size : sizeField bytes ≤ maxPayload) :
    announced bytes = .total (span bytes) := by
  rw [announced, if_neg (Nat.not_lt.mpr header)]
  exact if_neg (Nat.not_lt.mpr size)

/-- Bytes that are as long as their header says are those of the frame that is read from them. -/
theorem toBytes_ofBytes (header : frameHeader ≤ bytes.length) (whole : bytes.length = span bytes) :
    (ofBytes bytes).toBytes = bytes := by
  match bytes, header, whole with
  | low :: high :: size :: flags :: rest, header, whole =>
    have enough : 8 ≤ rest.length := by
      simp only [frameHeader, List.length_cons] at header
      omega
    have length : rest.length - 8 = size.toNat := by
      simp only [span, sizeField, frameHeader, List.length_cons, List.getD_cons_succ,
        List.getD_cons_zero] at whole
      omega
    have crc : Wire.word16 (Wire.toWord16 (low :: high :: size :: flags :: rest)) = [low, high] :=
      Wire.word16_toWord16 (by simp)
    have device : Wire.word64 (Wire.toWord64 rest) = rest.take 8 := Wire.word64_toWord64 enough
    simp only [toBytes, checked, Frame.size, ofBytes, crc]
    simp [frameHeader, device, length]

theorem span_toBytes (room : frame.payload.length ≤ maxPayload) (rest : Bytes) :
    span (frame.toBytes ++ rest) = frame.toBytes.length ∧
      sizeField (frame.toBytes ++ rest) = frame.payload.length := by
  have size : sizeField (frame.toBytes ++ rest) = frame.payload.length :=
    size_toBytes (Nat.lt_of_le_of_lt room (by decide)) rest
  constructor
  · rw [span, size, length_toBytes]
  · exact size

theorem front_of_complete (size : sizeField bytes ≤ maxPayload)
    (complete : span bytes ≤ bytes.length) :
    ∃ (frame : Frame) (rest : Bytes), bytes = frame.toBytes ++ rest ∧
      frame.payload.length ≤ maxPayload := by
  have length : (bytes.take (span bytes)).length = span bytes := List.length_take_of_le complete
  have long : frameHeader ≤ span bytes := Nat.le_add_right ..
  have same : sizeField (bytes.take (span bytes)) = sizeField bytes := by
    have inside : 2 < span bytes := Nat.lt_of_lt_of_le (by decide) long
    simp only [sizeField, List.getD_eq_getElem?_getD, List.getElem?_take_of_lt inside]
  refine ⟨ofBytes (bytes.take (span bytes)), bytes.drop (span bytes), ?_, ?_⟩
  · rw [toBytes_ofBytes (length.symm ▸ long), List.take_append_drop]
    rw [length]
    exact congrArg (frameHeader + ·) same.symm
  · rw [ofBytes, List.length_drop, length, span, Nat.add_sub_cancel_left]
    exact size

/-- What bytes are to everyone who decodes them: as one frame, as the front of a stream, and as the
front of a stream whose checksums are not verified. -/
inductive Decodes (bytes : Bytes) : Except FrameError Frame →
    Except FrameError (Option Frame) × Bytes → Except FrameError (Option Frame) × Bytes → Prop where
  | short (header : bytes.length < frameHeader) :
      Decodes bytes (.error (.tooShort bytes.length)) (.ok none, bytes) (.ok none, bytes)
  | oversized (large : maxPayload < sizeField bytes) :
      Decodes bytes (.error (.sizeOutOfRange (sizeField bytes)))
        (.error (.sizeOutOfRange (sizeField bytes)), bytes)
        (.error (.sizeOutOfRange (sizeField bytes)), bytes)
  | cut (missing : bytes.length < span bytes) :
      Decodes bytes (.error (.truncated (span bytes) bytes.length)) (.ok none, bytes)
        (.ok none, bytes)
  | corrupt {frame : Frame} {rest : Bytes} (layout : bytes = frame.toBytes ++ rest)
      (room : frame.payload.length ≤ maxPayload) (wrong : frame.computeCrc ≠ frame.crc) :
      Decodes bytes (.error (.crcMismatch frame.crc frame.computeCrc))
        (.error (.crcMismatch frame.crc frame.computeCrc), rest) (.ok (some frame), rest)
  | sound {frame : Frame} {rest : Bytes} (layout : bytes = frame.toBytes ++ rest)
      (room : frame.payload.length ≤ maxPayload) (right : frame.computeCrc = frame.crc) :
      Decodes bytes (.ok frame) (.ok (some frame), rest) (.ok (some frame), rest)

theorem decodes_front (room : frame.payload.length ≤ maxPayload) (rest : Bytes) :
    Decodes (frame.toBytes ++ rest) (decode (frame.toBytes ++ rest))
      (takeFrame true (frame.toBytes ++ rest)) (takeFrame false (frame.toBytes ++ rest)) := by
  rw [decode_front room, takeFrame, takeFrame, scan_toBytes room, scan_toBytes room, verify]
  by_cases right : frame.computeCrc = frame.crc
  · simp only [right, bne_self_eq_false, Bool.and_false, Bool.false_eq_true, ↓reduceIte]
    exact .sound rfl room right
  · have wrong : (frame.computeCrc != frame.crc) = true := bne_iff_ne.mpr right
    simp only [right, wrong, Bool.and_true, Bool.false_eq_true, ↓reduceIte]
    exact .corrupt rfl room right

theorem decodes (bytes : Bytes) :
    Decodes bytes (decode bytes) (takeFrame true bytes) (takeFrame false bytes) := by
  by_cases header : bytes.length < frameHeader
  · simp only [decode, takeFrame, scan, announced_short header]
    exact .short header
  have header := Nat.not_lt.mp header
  by_cases large : maxPayload < sizeField bytes
  · simp only [decode, takeFrame, scan, announced_oversized header large]
    exact .oversized large
  have size := Nat.not_lt.mp large
  by_cases missing : bytes.length < span bytes
  · simp only [decode, takeFrame, scan, announced_span header size, if_pos missing]
    exact .cut missing
  · obtain ⟨frame, rest, rfl, room⟩ := front_of_complete size (Nat.not_lt.mp missing)
    exact decodes_front room rest

/-- Bytes that begin with those of a frame are well formed just when its checksum is right. -/
theorem wellFormed_toBytes (room : frame.payload.length ≤ maxPayload) (rest : Bytes) :
    WellFormed (frame.toBytes ++ rest) ↔ frame.computeCrc = frame.crc := by
  obtain ⟨span, size⟩ := span_toBytes room rest
  have stored : Wire.toWord16 (frame.toBytes ++ rest) = frame.crc := by
    rw [toBytes, List.append_assoc, Wire.toWord16_append]
  have covered : ((frame.toBytes ++ rest).take frame.toBytes.length).drop 2 = frame.checked := by
    rw [List.take_left]
    exact List.drop_left' (Wire.length_encode ..)
  constructor
  · intro formed
    have checksum := formed.checksum
    rw [stored, span, covered] at checksum
    exact checksum.symm
  · intro right
    constructor
    · rw [List.length_append, length_toBytes]
      omega
    · rw [size]
      exact room
    · rw [span, List.length_append]
      omega
    · rw [stored, span, covered]
      exact right.symm

/-- A buffer of which just the bytes of the announced frame have been taken. -/
def Consumed (bytes left : Bytes) : Prop :=
  bytes = bytes.take (span bytes) ++ left ∧ (bytes.take (span bytes)).length = span bytes

theorem consumed_toBytes (room : frame.payload.length ≤ maxPayload) (rest left : Bytes) :
    Consumed (frame.toBytes ++ rest) left ↔ left = rest := by
  have span := (span_toBytes room rest).1
  rw [Consumed, span, List.take_left]
  constructor
  · intro consumed
    exact (List.append_cancel_left consumed.1).symm
  · rintro rfl
    exact ⟨rfl, rfl⟩

namespace Decodes

variable {result : Except FrameError Frame}
  {strict lenient : Except FrameError (Option Frame) × Bytes}

theorem wellFormed_iff (decodes : Decodes bytes result strict lenient) :
    (∃ frame, result = .ok frame) ↔ WellFormed bytes := by
  cases decodes with
  | short header =>
    constructor
    · simp
    · intro formed
      exact absurd header (Nat.not_lt.mpr formed.header)
  | oversized large =>
    constructor
    · simp
    · intro formed
      exact absurd large (Nat.not_lt.mpr formed.size)
  | cut missing =>
    constructor
    · simp
    · intro formed
      exact absurd missing (Nat.not_lt.mpr formed.complete)
  | corrupt layout room wrong =>
    rw [layout, wellFormed_toBytes room]
    simp [wrong]
  | sound layout room right =>
    rw [layout, wellFormed_toBytes room]
    simp [right]

theorem toBytes_eq (decodes : Decodes bytes result strict lenient) (found : result = .ok frame) :
    frame.toBytes = bytes.take (span bytes) := by
  cases decodes with
  | short | oversized | cut | corrupt => cases found
  | sound layout room =>
    cases found
    rw [layout, (span_toBytes room _).1, List.take_left]

/-- Only frames of a size that frames have are ever read. -/
theorem room (decodes : Decodes bytes result strict lenient)
    (found : result = .ok frame ∨ strict.1 = .ok (some frame) ∨ lenient.1 = .ok (some frame)) :
    frame.payload.length ≤ maxPayload := by
  cases decodes with
  | short | oversized | cut => simp at found
  | corrupt layout room | sound layout room =>
    rcases found with same | same | same <;> cases same <;> exact room

theorem frame_iff (decodes : Decodes bytes result strict lenient) (frame : Frame) (left : Bytes) :
    strict = (.ok (some frame), left) ↔ result = .ok frame ∧ Consumed bytes left := by
  cases decodes with
  | short | oversized | cut | corrupt => simp
  | sound layout room =>
    rw [layout, consumed_toBytes room]
    simp [eq_comm]

theorem none_iff (decodes : Decodes bytes result strict lenient) (left : Bytes) :
    strict = (.ok none, left) ↔
      ((∃ length, result = .error (.tooShort length)) ∨
        ∃ expected actual, result = .error (.truncated expected actual)) ∧ left = bytes := by
  cases decodes with
  | short | oversized | cut | corrupt | sound => simp [eq_comm]

theorem outOfRange_iff (decodes : Decodes bytes result strict lenient) (size : Nat)
    (left : Bytes) :
    strict = (.error (.sizeOutOfRange size), left) ↔
      result = .error (.sizeOutOfRange size) ∧ left = bytes := by
  cases decodes with
  | short | oversized | cut | corrupt | sound => simp [eq_comm]

theorem mismatch_iff (decodes : Decodes bytes result strict lenient) (stored computed : UInt16)
    (left : Bytes) :
    strict = (.error (.crcMismatch stored computed), left) ↔
      result = .error (.crcMismatch stored computed) ∧ Consumed bytes left := by
  cases decodes with
  | short | oversized | cut | sound => simp
  | corrupt layout room =>
    rw [layout, consumed_toBytes room]
    simp [eq_comm]

theorem kept_of_mismatch (decodes : Decodes bytes result strict lenient) {stored computed : UInt16}
    (wrong : result = .error (.crcMismatch stored computed)) :
    ∃ frame left, lenient = (.ok (some frame), left) ∧ Consumed bytes left ∧
      frame.toBytes = bytes.take (span bytes) ∧ frame.crc = stored := by
  cases decodes with
  | short | oversized | cut | sound => cases wrong
  | @corrupt frame rest layout room =>
    cases wrong
    refine ⟨frame, rest, rfl, ?_, ?_, rfl⟩
    · rw [layout, consumed_toBytes room]
    · rw [layout, (span_toBytes room rest).1, List.take_left]

theorem same_of_right (decodes : Decodes bytes result strict lenient)
    (right : ∀ stored computed, result ≠ .error (.crcMismatch stored computed)) :
    lenient = strict := by
  cases decodes with
  | short | oversized | cut | sound => rfl
  | corrupt => exact absurd rfl (right _ _)

end Decodes

/-- How the ways of decoding the same bytes agree. -/
structure Agreement (bytes : Bytes) : Prop where
  accepts : (∃ frame, decode bytes = .ok frame) ↔ WellFormed bytes
  /-- Writing the frame gives back the bytes that it was read from. -/
  restores : ∀ frame, decode bytes = .ok frame → frame.toBytes = bytes.take (span bytes)
  takes : ∀ frame left, takeFrame true bytes = (.ok (some frame), left) ↔
    decode bytes = .ok frame ∧ Consumed bytes left
  waits : ∀ left, takeFrame true bytes = (.ok none, left) ↔
    ((∃ length, decode bytes = .error (.tooShort length)) ∨
      ∃ expected actual, decode bytes = .error (.truncated expected actual)) ∧ left = bytes
  refuses : ∀ size left, takeFrame true bytes = (.error (.sizeOutOfRange size), left) ↔
    decode bytes = .error (.sizeOutOfRange size) ∧ left = bytes
  reports : ∀ stored computed left,
    takeFrame true bytes = (.error (.crcMismatch stored computed), left) ↔
      decode bytes = .error (.crcMismatch stored computed) ∧ Consumed bytes left
  /-- Without verification a wrong checksum is not reported but kept in the frame. -/
  keeps : ∀ stored computed, decode bytes = .error (.crcMismatch stored computed) →
    ∃ frame left, takeFrame false bytes = (.ok (some frame), left) ∧ Consumed bytes left ∧
      frame.toBytes = bytes.take (span bytes) ∧ frame.crc = stored
  /-- Nothing else depends on verification. -/
  otherwise : (∀ stored computed, decode bytes ≠ .error (.crcMismatch stored computed)) →
    takeFrame false bytes = takeFrame true bytes

/-- Decoding one frame accepts just the wire format, and taking frames off a stream agrees with it
about every byte string. -/
theorem decoders_agree (bytes : Bytes) : Agreement bytes := by
  have decodes := decodes bytes
  constructor
  · exact decodes.wellFormed_iff
  · intro frame found
    exact decodes.toBytes_eq found
  · exact decodes.frame_iff
  · exact decodes.none_iff
  · exact decodes.outOfRange_iff
  · exact decodes.mismatch_iff
  · intro stored computed wrong
    exact decodes.kept_of_mismatch wrong
  · exact decodes.same_of_right

/-- Two bytes follow a frame whose checksum is right, and do not belong to it. -/
example : takeFrame true [57, 225, 0, 0, 0, 0, 0, 0, 0, 0, 0, 0, 7, 7] =
    (.ok (some { device := 0, flags := 0, crc := 0xe139, payload := [] }), [7, 7]) := by
  rfl

end PipeBus.Frame
