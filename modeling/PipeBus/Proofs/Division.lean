import Mathlib.Data.Nat.Bitwise
import PipeBus.Proofs.Encoding

/-! The checksum as the remainder of a division. A step of the division is linear in the register,
and no register but the empty one is emptied by it, so that the steps that a byte takes can be taken
at once. Main statement: the checksum of a frame is the remainder of all that follows it on the wire
(`Crc.divides_bit_by_bit`). -/

namespace PipeBus.Crc

/-- So many steps of the division. -/
def shiftBits (steps : Nat) (crc : UInt16) : UInt16 := Nat.repeat shiftBit steps crc

/-- The register after the division has gone on through so many bytes. -/
def divide (crc : UInt16) (bytes : Bytes) : UInt16 := bytes.foldl updateBits crc

/-- Whether the next step shifts a one out. -/
def carries (crc : UInt16) : Bool := crc.toBitVec.msb

def subtrahend (crc : UInt16) : UInt16 := if carries crc then 0x1021 else 0

/-- A register made of two bytes, the first one in its high half. -/
def word (high low : UInt8) : UInt16 := (high.toUInt16 <<< 8) ^^^ low.toUInt16

/-! One step. -/

theorem carries_iff (crc : UInt16) : carries crc = true ↔ 2 ^ 15 ≤ crc.toNat := by
  rw [carries, BitVec.msb_eq_decide, decide_eq_true_eq]
  rfl

theorem land_high (crc : UInt16) : crc &&& 0x8000 = 0 ↔ carries crc = false := by
  have mask : (0x8000 : UInt16).toBitVec = BitVec.twoPow 16 15 := rfl
  rw [← UInt16.toBitVec_inj, UInt16.toBitVec_and, mask, BitVec.and_twoPow, carries,
    BitVec.msb_eq_getLsbD_last]
  cases crc.toBitVec.getLsbD 15 <;> simp

theorem shiftBit_eq (crc : UInt16) : shiftBit crc = (crc <<< 1) ^^^ subtrahend crc := by
  rw [shiftBit, subtrahend]
  simp only [land_high]
  cases carries crc <;> simp

theorem subtrahend_xor (left right : UInt16) :
    subtrahend (left ^^^ right) = subtrahend left ^^^ subtrahend right := by
  have carry : carries (left ^^^ right) = (carries left ^^ carries right) := by
    rw [carries, UInt16.toBitVec_xor, BitVec.msb_xor]
    rfl
  simp only [subtrahend, carry]
  cases carries left <;> cases carries right <;> simp

theorem shiftBit_xor (left right : UInt16) :
    shiftBit (left ^^^ right) = shiftBit left ^^^ shiftBit right := by
  simp only [shiftBit_eq, subtrahend_xor, UInt16.shiftLeft_xor]
  ac_rfl

/-- The polynomial is odd, so that it does not cancel what a step has shifted. -/
theorem eq_zero_of_shiftBit {crc : UInt16} (emptied : shiftBit crc = 0) : crc = 0 := by
  rw [shiftBit_eq, UInt16.xor_eq_zero_iff] at emptied
  have doubled := congrArg UInt16.toNat emptied
  have carry := carries_iff crc
  apply UInt16.toNat_inj.mp
  rw [UInt16.toNat_shiftLeft, subtrahend] at doubled
  cases high : carries crc <;> simp [high, Nat.shiftLeft_eq] at doubled carry ⊢ <;> omega

theorem shiftBit_injective : Function.Injective shiftBit := by
  intro left right same
  apply UInt16.xor_eq_zero_iff.mp
  apply eq_zero_of_shiftBit
  rw [shiftBit_xor, same, UInt16.xor_self]

/-! Many steps. -/

theorem shiftBits_succ (steps : Nat) (crc : UInt16) :
    shiftBits (steps + 1) crc = shiftBit (shiftBits steps crc) := rfl

theorem shiftBits_add (more steps : Nat) (crc : UInt16) :
    shiftBits (more + steps) crc = shiftBits more (shiftBits steps crc) := by
  induction more with
  | zero =>
    rw [Nat.zero_add]
    rfl
  | succ more ih => rw [Nat.add_right_comm, shiftBits_succ, ih, shiftBits_succ]

theorem shiftBits_xor (steps : Nat) (left right : UInt16) :
    shiftBits steps (left ^^^ right) = shiftBits steps left ^^^ shiftBits steps right := by
  induction steps with
  | zero => rfl
  | succ steps ih => simp only [shiftBits_succ, ih, shiftBit_xor]

theorem shiftBits_injective (steps : Nat) : Function.Injective (shiftBits steps) := by
  induction steps with
  | zero => exact Function.injective_id
  | succ steps ih => exact shiftBit_injective.comp ih

/-- As long as nothing is shifted out, steps only shift. -/
theorem toNat_shiftBits {steps : Nat} {crc : UInt16} (small : crc.toNat * 2 ^ steps < 2 ^ 16) :
    (shiftBits steps crc).toNat = crc.toNat * 2 ^ steps := by
  induction steps with
  | zero => exact (Nat.mul_one _).symm
  | succ steps ih =>
    rw [Nat.pow_succ, ← Nat.mul_assoc] at small ⊢
    have before := ih (by omega)
    have low : carries (shiftBits steps crc) = false := by
      rw [← Bool.not_eq_true, carries_iff]
      omega
    rw [shiftBits_succ, shiftBit_eq, subtrahend, low, if_neg Bool.false_ne_true, UInt16.xor_zero,
      UInt16.toNat_shiftLeft, before]
    simp [Nat.shiftLeft_eq]
    omega

theorem shiftBits_low (byte : UInt8) : shiftBits 8 byte.toUInt16 = byte.toUInt16 <<< 8 := by
  have small := byte.toNat_lt
  apply UInt16.toNat_inj.mp
  rw [toNat_shiftBits (by simp; omega)]
  simp [Nat.shiftLeft_eq]
  omega

/-! Whole bytes. -/

theorem toNat_word (high low : UInt8) : (word high low).toNat = high.toNat * 256 + low.toNat := by
  have small := high.toNat_lt
  have short := low.toNat_lt
  have shifted : (high.toUInt16 <<< 8).toNat = high.toNat * 256 := by
    simp [Nat.shiftLeft_eq]
    omega
  rw [word, UInt16.toNat_xor, shifted, UInt8.toNat_toUInt16]
  have upper : (high.toNat * 256 ^^^ low.toNat) / 2 ^ 8 = high.toNat := by
    rw [Nat.xor_div_two_pow, Nat.mul_div_cancel _ (by decide), Nat.div_eq_of_lt short, Nat.xor_zero]
  have lower : (high.toNat * 256 ^^^ low.toNat) % 2 ^ 8 = low.toNat := by
    rw [Nat.xor_mod_two_pow, Nat.mul_mod_left, Nat.mod_eq_of_lt short, Nat.zero_xor]
  omega

theorem word_halves (crc : UInt16) : word (crc >>> 8).toUInt8 crc.toUInt8 = crc := by
  have small := crc.toNat_lt
  apply UInt16.toNat_inj.mp
  rw [toNat_word]
  simp [Nat.shiftRight_eq_div_pow]
  omega

theorem eq_of_word {high low otherHigh otherLow : UInt8}
    (same : word high low = word otherHigh otherLow) : high = otherHigh ∧ low = otherLow := by
  have numbers := congrArg UInt16.toNat same
  have short := low.toNat_lt
  have otherShort := otherLow.toNat_lt
  rw [toNat_word, toNat_word] at numbers
  constructor
  · apply UInt8.toNat_inj.mp
    omega
  · apply UInt8.toNat_inj.mp
    omega

theorem word_xor (high low byte : UInt8) :
    word high low ^^^ (byte.toUInt16 <<< 8) = word (high ^^^ byte) low := by
  simp only [word, UInt8.toUInt16_xor, UInt16.shiftLeft_xor]
  ac_rfl

theorem updateBits_eq (crc : UInt16) (byte : UInt8) :
    updateBits crc byte = shiftBits 8 (crc ^^^ (byte.toUInt16 <<< 8)) := rfl

/-- What the high half of a register turns into when the low half is empty: a table of 256 words. -/
theorem update_zero (byte : UInt8) : update 0 byte = shiftBits 8 (byte.toUInt16 <<< 8) := by
  have table : ∀ byte : Fin 256,
      update 0 (UInt8.ofFin byte) = shiftBits 8 ((UInt8.ofFin byte).toUInt16 <<< 8) := by
    decide +kernel
  exact table byte.toFin

/-- The step of a whole byte looks the high half up and moves the low half there. -/
theorem update_eq (crc : UInt16) (byte : UInt8) :
    update crc byte = update 0 ((crc >>> 8).toUInt8 ^^^ byte) ^^^ (crc.toUInt8.toUInt16 <<< 8) := by
  have low : crc <<< 8 = crc.toUInt8.toUInt16 <<< 8 := by
    apply UInt16.toNat_inj.mp
    simp [Nat.shiftLeft_eq]
    omega
  have empty : (0 : UInt16).toUInt8 = 0 := rfl
  simp only [update, low, UInt16.zero_shiftRight, UInt16.zero_shiftLeft, empty, UInt8.zero_xor,
    UInt16.zero_xor]
  ac_rfl

theorem update_eq_updateBits (crc : UInt16) (byte : UInt8) :
    update crc byte = updateBits crc byte := by
  calc
    update crc byte =
        shiftBits 8 (((crc >>> 8).toUInt8 ^^^ byte).toUInt16 <<< 8) ^^^
          shiftBits 8 crc.toUInt8.toUInt16 := by rw [update_eq, update_zero, shiftBits_low]
    _ = shiftBits 8 (word ((crc >>> 8).toUInt8 ^^^ byte) crc.toUInt8) := by
      rw [← shiftBits_xor, ← word]
    _ = updateBits crc byte := by rw [← word_xor, word_halves, updateBits_eq]

theorem extend_eq_divide (crc : UInt16) (bytes : Bytes) : extend crc bytes = divide crc bytes := by
  induction bytes generalizing crc with
  | nil => rfl
  | cons byte rest ih =>
    rw [extend, divide, List.foldl_cons, List.foldl_cons, update_eq_updateBits]
    exact ih _

/-- Taking bytes at once is dividing bit by bit. The checksum of a frame is fed in three pieces, and
is the remainder of what its encoding has behind the stored checksum, whatever is stored there. -/
theorem divides_bit_by_bit :
    (∀ (crc : UInt16) (bytes : Bytes), extend crc bytes = divide crc bytes) ∧
      ∀ frame : Frame,
        frame.computeCrc = extend (extend (extend 0xffff [frame.size, frame.flags])
          (Wire.word64 frame.device)) frame.payload ∧
        frame.computeCrc = divide 0xffff (frame.toBytes.drop 2) ∧
        ∀ stored, { frame with crc := stored }.computeCrc = frame.computeCrc := by
  refine ⟨extend_eq_divide, fun frame => ⟨?_, ?_, fun stored => rfl⟩⟩
  · rw [Frame.computeCrc, Frame.checked, ofBytes, extend_append, extend_append]
    rfl
  · rw [frame.drop_toBytes, ← extend_eq_divide]
    rfl

/-- The nine digits, whose checksum tells this division from its relatives. -/
example : divide 0xffff [0x31, 0x32, 0x33, 0x34, 0x35, 0x36, 0x37, 0x38, 0x39] = 0x29b1 := by
  decide +kernel

end PipeBus.Crc
