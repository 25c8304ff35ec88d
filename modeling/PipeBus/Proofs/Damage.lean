import PipeBus.Proofs.Decoding
import PipeBus.Proofs.Division

/-! Frames that were damaged on the wire. Two adjacent bytes enter the division as one register,
which later bytes cannot restore. Main statement: whatever frame is sent, a decoder refuses its
bytes when two neighbours among them are not what they were, unless the size is one of the two
(`Frame.detects_burst`). -/

namespace PipeBus

/-- Bytes that differ from those that were sent in no other place than this one and the next. -/
structure Burst (place : Nat) (sent damaged : Bytes) : Prop where
  length : damaged.length = sent.length
  outside : ∀ index, index ≠ place → index ≠ place + 1 → damaged[index]? = sent[index]?

namespace Burst

variable {place : Nat} {sent damaged : Bytes}

theorem drop {count : Nat} (burst : Burst (count + place) sent damaged) :
    Burst place (sent.drop count) (damaged.drop count) where
  length := by rw [List.length_drop, List.length_drop, burst.length]
  outside index before after := by
    rw [List.getElem?_drop, List.getElem?_drop]
    exact burst.outside _ (by omega) (by omega)

theorem take_eq {count : Nat} (burst : Burst place sent damaged) (early : count ≤ place) :
    damaged.take count = sent.take count := by
  apply List.ext_getElem?
  intro index
  rcases Nat.lt_or_ge index count with inside | beyond
  · rw [List.getElem?_take_of_lt inside, List.getElem?_take_of_lt inside]
    exact burst.outside _ (by omega) (by omega)
  · rw [List.getElem?_eq_none (by simp; omega), List.getElem?_eq_none (by simp; omega)]

theorem drop_eq {count : Nat} (burst : Burst place sent damaged) (late : place + 2 ≤ count) :
    damaged.drop count = sent.drop count := by
  apply List.ext_getElem?
  intro index
  rw [List.getElem?_drop, List.getElem?_drop]
  exact burst.outside _ (by omega) (by omega)

theorem of_set (sent : Bytes) (place : Nat) (first second : UInt8) :
    Burst place sent ((sent.set place first).set (place + 1) second) where
  length := by rw [List.length_set, List.length_set]
  outside index before after := by
    rw [List.getElem?_set_ne after.symm, List.getElem?_set_ne before.symm]

end Burst

namespace Crc

theorem updateBits_injective (byte : UInt8) : Function.Injective (updateBits · byte) := by
  intro left right same
  exact (UInt16.xor_left_inj _).mp (shiftBits_injective 8 same)

theorem divide_cons (crc : UInt16) (byte : UInt8) (rest : Bytes) :
    divide crc (byte :: rest) = divide (updateBits crc byte) rest := rfl

theorem divide_injective (bytes : Bytes) : Function.Injective (divide · bytes) := by
  induction bytes with
  | nil => exact Function.injective_id
  | cons byte rest ih => exact ih.comp (updateBits_injective byte)

theorem eq_of_updateBits {crc : UInt16} {byte other : UInt8}
    (same : updateBits crc byte = updateBits crc other) : byte = other := by
  have added := shiftBits_injective 8 same
  have words : word byte 0 = word other 0 :=
    (UInt16.xor_right_inj crc).mp (by simpa [word] using added)
  exact (eq_of_word words).1

/-- Two bytes are divided as one register. -/
theorem updateBits_updateBits (crc : UInt16) (first second : UInt8) :
    updateBits (updateBits crc first) second = shiftBits 16 (crc ^^^ word first second) := by
  rw [updateBits_eq, updateBits_eq, ← shiftBits_low second, ← shiftBits_xor, ← shiftBits_add, word,
    UInt16.xor_assoc]

theorem eq_of_updateBits_twice {crc : UInt16} {first second one other : UInt8}
    (same : updateBits (updateBits crc first) second = updateBits (updateBits crc one) other) :
    first = one ∧ second = other := by
  rw [updateBits_updateBits, updateBits_updateBits] at same
  have added := shiftBits_injective 16 same
  exact eq_of_word ((UInt16.xor_right_inj crc).mp added)

/-- No two byte lists that differ by a burst leave the same remainder. -/
theorem eq_of_divide {crc : UInt16} {place : Nat} {sent damaged : Bytes}
    (burst : Burst place sent damaged) (same : divide crc damaged = divide crc sent) :
    damaged = sent := by
  induction place generalizing crc sent damaged with
  | zero =>
    have behind := burst.drop_eq (Nat.le_refl _)
    match sent, damaged, burst.length with
    | [], [], _ => rfl
    | [byte], [other], _ =>
      rw [divide_cons, divide_cons] at same
      rw [eq_of_updateBits same]
    | first :: second :: rest, one :: other :: left, _ =>
      obtain rfl : left = rest := behind
      simp only [divide_cons] at same
      obtain ⟨rfl, rfl⟩ := eq_of_updateBits_twice (divide_injective left same)
      rfl
  | succ place ih =>
    match sent, damaged, burst.length with
    | [], [], _ => rfl
    | byte :: rest, other :: left, _ =>
      obtain rfl : other = byte := Option.some.inj (burst.outside 0 (by omega) (by omega))
      have shifted : Burst (1 + place) (other :: rest) (other :: left) :=
        Nat.add_comm place 1 ▸ burst
      have further : Burst place rest left := shifted.drop
      rw [divide_cons, divide_cons] at same
      rw [ih further same]

end Crc

/-- A burst that spares the size does not leave a right checksum behind: it either damages only the
checksum, or the checksum tells what was damaged behind it. -/
theorem Burst.eq_of_checksums {place : Nat} {sent damaged : Bytes}
    (burst : Burst place sent damaged) (spared : place ≠ 2 ∧ place + 1 ≠ 2)
    (header : 2 ≤ sent.length)
    (right : Wire.toWord16 sent = Crc.ofBytes (sent.drop 2))
    (still : Wire.toWord16 damaged = Crc.ofBytes (damaged.drop 2)) : damaged = sent := by
  have halves : damaged.take 2 = sent.take 2 ∧ damaged.drop 2 = sent.drop 2 := by
    rcases Nat.eq_zero_or_pos place with rfl | later
    · have covered := burst.drop_eq (Nat.le_refl _)
      have stored : Wire.toWord16 damaged = Wire.toWord16 sent := by rw [still, covered, right]
      refine ⟨?_, covered⟩
      rw [← Wire.word16_toWord16 header, ← stored, Wire.word16_toWord16 (burst.length ▸ header)]
    · obtain ⟨behind, rfl⟩ : ∃ behind, place = 2 + behind := ⟨place - 2, by omega⟩
      have stored := burst.take_eq (Nat.le_add_right 2 behind)
      have same : Crc.divide Crc.initial (damaged.drop 2) =
          Crc.divide Crc.initial (sent.drop 2) := by
        rw [← Crc.extend_eq_divide, ← Crc.extend_eq_divide]
        exact still.symm.trans ((congrArg (UInt16.ofNat ∘ Wire.decode) stored).trans right)
      exact ⟨stored, Crc.eq_of_divide burst.drop same⟩
  rw [← damaged.take_append_drop 2, halves.1, halves.2, List.take_append_drop]

namespace Frame

/-- Whatever a sealed frame holds, its bytes are refused for their checksum once a burst has changed
them anywhere but in the size. -/
theorem detects_burst (frame : Frame) (room : frame.payload.length ≤ maxPayload) {place : Nat}
    {damaged : Bytes} (burst : Burst place frame.sealed.toBytes damaged)
    (spared : place ≠ 2 ∧ place + 1 ≠ 2) (different : damaged ≠ frame.sealed.toBytes) :
    decode damaged =
      .error (.crcMismatch (Wire.toWord16 damaged) (Crc.ofBytes (damaged.drop 2))) := by
  have length : damaged.length = frameHeader + frame.payload.length :=
    burst.length.trans (length_toBytes _)
  have size : sizeField damaged = frame.payload.length := by
    have short : frame.sealed.payload.length ≤ maxPayload := room
    have field : sizeField (frame.sealed.toBytes ++ []) = frame.payload.length :=
      (span_toBytes short []).2
    rw [List.append_nil] at field
    rw [← field, sizeField, sizeField, List.getD_eq_getElem?_getD, List.getD_eq_getElem?_getD,
      burst.outside 2 spared.1.symm spared.2.symm]
  have header : frameHeader ≤ damaged.length := by omega
  have layout : (ofBytes damaged).toBytes = damaged :=
    toBytes_ofBytes header (by rw [span, size, length])
  have computed : (ofBytes damaged).computeCrc = Crc.ofBytes (damaged.drop 2) := by
    rw [computeCrc, ← drop_toBytes, layout]
  have read : decode damaged = verify (ofBytes damaged) := by
    have short : (ofBytes damaged).payload.length ≤ maxPayload := by
      rw [ofBytes, List.length_drop, length, Nat.add_sub_cancel_left]
      exact room
    have front := decode_front short []
    rwa [List.append_nil, layout] at front
  have wrong : (ofBytes damaged).computeCrc ≠ (ofBytes damaged).crc := by
    intro same
    refine different (burst.eq_of_checksums spared ?_ ?_ ?_)
    · rw [length_toBytes]
      exact Nat.le_add_right_of_le (by decide)
    · rw [drop_toBytes, toBytes, Wire.toWord16_append]
      exact frame.crc_sealed
    · exact (computed.symm.trans same).symm
  rw [read, verify, if_neg wrong, computed]
  rfl

/-- The last byte of the device and the first one of the payload are written over. -/
theorem detects_burst_overwritten :
    let frame : Frame :=
      { device := 0x0807060504030201, flags := 3, payload := [0, 0x3f, 0xfb, 0xd3] }
    let sent := frame.sealed.toBytes
    let damaged := (sent.set 11 0xff).set 12 4
    frame.payload.length ≤ maxPayload ∧ Burst 11 sent damaged ∧ damaged ≠ sent ∧
      decode damaged =
        .error (.crcMismatch (Wire.toWord16 damaged) (Crc.ofBytes (damaged.drop 2))) := by
  intro frame sent damaged
  have burst : Burst 11 sent damaged := .of_set sent 11 0xff 4
  have different : damaged ≠ sent := by decide
  exact ⟨by decide, burst, different, detects_burst frame (by decide) burst (by decide) different⟩

end Frame

end PipeBus
