import PipeBus.Frame.Codec

/-! Frames as they cross a stream. The bytes of a frame announce just their own number, and what is
read at the front of them is that frame again, whatever follows it. -/

namespace PipeBus.Frame

variable {frame : Frame}

@[simp] theorem length_checked (frame : Frame) :
    frame.checked.length = frame.payload.length + 10 := by
  simp only [checked, Wire.word64, List.length_append, List.length_cons, List.length_nil,
    Wire.length_encode]
  omega

@[simp] theorem length_toBytes (frame : Frame) :
    frame.toBytes.length = frameHeader + frame.payload.length := by
  rw [toBytes, List.length_append, length_checked, Wire.word16, Wire.length_encode, frameHeader]
  omega

theorem drop_toBytes (frame : Frame) : frame.toBytes.drop 2 = frame.checked :=
  List.drop_left' (Wire.length_encode ..)

/-- Two bytes of checksum, the size, the flags, eight bytes of device, then the payload. -/
theorem toBytes_append (frame : Frame) (rest : Bytes) :
    ∃ low high, frame.toBytes ++ rest = low :: high :: frame.size :: frame.flags ::
      (Wire.word64 frame.device ++ (frame.payload ++ rest)) := by
  refine ⟨UInt8.ofNat frame.crc.toNat, UInt8.ofNat (frame.crc.toNat / 256), ?_⟩
  simp [toBytes, checked, Wire.word16, Wire.encode]

/-- The size field tells how long the payload is, as long as one byte can tell it. -/
theorem size_toBytes (small : frame.payload.length < 256) (rest : Bytes) :
    ((frame.toBytes ++ rest).getD 2 0).toNat = frame.payload.length := by
  obtain ⟨low, high, layout⟩ := frame.toBytes_append rest
  rw [layout]
  exact (UInt8.toNat_ofNat' ..).trans (Nat.mod_eq_of_lt small)

theorem announced_toBytes (room : frame.payload.length ≤ maxPayload) (rest : Bytes) :
    announced (frame.toBytes ++ rest) = .total frame.toBytes.length := by
  have small : frame.payload.length < 256 := Nat.lt_of_le_of_lt room (by decide)
  have enough : ¬ (frame.toBytes ++ rest).length < frameHeader := by
    rw [List.length_append, length_toBytes]
    omega
  rw [announced, if_neg enough, length_toBytes]
  simp only [size_toBytes small rest]
  rw [if_neg (Nat.not_lt.mpr room)]

theorem ofBytes_toBytes (frame : Frame) : ofBytes frame.toBytes = frame := by
  obtain ⟨low, high, layout⟩ := frame.toBytes_append []
  rw [List.append_nil, List.append_nil] at layout
  have wide : (Wire.word64 frame.device).length = 8 := Wire.length_encode ..
  have front : Wire.toWord16 frame.toBytes = frame.crc := by
    rw [toBytes, Wire.toWord16_append]
  have payload : frame.toBytes.drop frameHeader = frame.payload := by
    rw [layout]
    exact List.drop_left' wide
  have device : Wire.toWord64 (frame.toBytes.drop 4) = frame.device := by
    rw [layout]
    exact Wire.toWord64_append frame.device frame.payload
  have flags : frame.toBytes.getD 3 0 = frame.flags := by
    rw [layout]
    rfl
  rw [ofBytes, front, payload, device, flags]

/-- A scan finds the frame at the front of a buffer, and says whether its checksum is right. -/
theorem scan_toBytes (room : frame.payload.length ≤ maxPayload) (verifyCrc : Bool)
    (rest : Bytes) :
    scan verifyCrc (frame.toBytes ++ rest) =
      if verifyCrc && frame.computeCrc != frame.crc then
        .mismatch frame.crc frame.computeCrc rest
      else .frame frame rest := by
  have enough : ¬ (frame.toBytes ++ rest).length < frame.toBytes.length := by
    rw [List.length_append]
    omega
  simp only [scan, announced_toBytes room rest, if_neg enough, List.take_left, List.drop_left,
    ofBytes_toBytes]

theorem crc_sealed (frame : Frame) : frame.sealed.crc = frame.sealed.computeCrc := by
  simp only [sealed, computeCrc, checked, size]

/-- Decoding reads off the front what encoding has written, and looks at its checksum. -/
theorem decode_front (room : frame.payload.length ≤ maxPayload) (rest : Bytes) :
    decode (frame.toBytes ++ rest) = verify frame := by
  have enough : ¬ (frame.toBytes ++ rest).length < frame.toBytes.length := by
    rw [List.length_append]
    omega
  rw [decode, announced_toBytes room rest]
  simp only [if_neg enough, List.take_left, ofBytes_toBytes]

theorem decode_toBytes (room : frame.payload.length ≤ maxPayload) (rest : Bytes) :
    decode (frame.sealed.toBytes ++ rest) = .ok frame.sealed := by
  have same : frame.sealed.payload.length ≤ maxPayload := room
  rw [decode_front same, verify, if_pos frame.crc_sealed.symm]

end PipeBus.Frame
