import Mathlib.Data.Nat.Bitwise
import PipeBus.Pipe.Output

/-! Arithmetic of pipe words. Every field of a word is a quotient or a remainder of the
number it holds, and advancing a word moves its counter modulo 32 and nothing else. -/

namespace PipeBus.PipeWord

theorem eq_of_toNat {first second : PipeWord} (same : first.raw.toNat = second.raw.toNat) :
    first = second := by
  cases first
  cases second
  exact congrArg mk (UInt16.toNat_inj.mp same)

/-- Keeping all but the low five bits rounds down to a multiple of 32. -/
private theorem land_high (value : Nat) (small : value < 2 ^ 16) :
    value &&& 0xffe0 = 2 ^ 5 * (value / 2 ^ 5) := by
  have mask : 0xffe0 = 2 ^ 5 * (2 ^ 11 - 1) := by decide
  have quotient : value / 2 ^ 5 &&& (2 ^ 11 - 1) = value / 2 ^ 5 := by
    apply Nat.and_two_pow_sub_one_of_lt_two_pow
    omega
  apply Nat.eq_of_testBit_eq
  intro bit
  rw [mask, Nat.testBit_and, Nat.testBit_two_pow_mul, Nat.testBit_two_pow_mul]
  by_cases low : 5 ≤ bit
  · have shifted : value.testBit bit = (value / 2 ^ 5).testBit (bit - 5) := by
      rw [Nat.testBit_div_two_pow, Nat.sub_add_cancel low]
    rw [shifted, Bool.and_left_comm, ← Nat.testBit_and, quotient]
  · simp [low]

theorem toNat_port (word : PipeWord) : word.port.toNat = word.raw.toNat / 128 := by
  rw [port, UInt16.toNat_shiftRight]
  exact Nat.shiftRight_eq_div_pow word.raw.toNat 7

theorem toNat_counter (word : PipeWord) : word.counter.toNat = word.raw.toNat % 32 := by
  rw [counter, UInt16.toNat_and]
  exact Nat.and_two_pow_sub_one_eq_mod word.raw.toNat 5

private theorem flag_eq (raw flag : UInt16) (place : Nat) (single : flag.toNat = 2 ^ place) :
    (raw &&& flag != 0) = decide (raw.toNat / 2 ^ place % 2 = 1) := by
  have bit : (raw &&& flag).toNat = (raw.toNat.testBit place).toNat * 2 ^ place := by
    rw [UInt16.toNat_and, single, Nat.and_two_pow]
  rw [← Nat.testBit_eq_decide_div_mod_eq, bne, Bool.eq_iff_iff, Bool.not_eq_true',
    beq_eq_false_iff_ne, Ne, ← UInt16.toNat_inj, bit]
  cases raw.toNat.testBit place <;> simp

theorem isMeta_eq (word : PipeWord) : word.isMeta = decide (word.raw.toNat / 64 % 2 = 1) :=
  flag_eq word.raw 0x40 6 rfl

theorem isClose_eq (word : PipeWord) : word.isClose = decide (word.raw.toNat / 32 % 2 = 1) :=
  flag_eq word.raw 0x20 5 rfl

theorem toNat_advance (word : PipeWord) :
    word.advance.raw.toNat = 32 * (word.raw.toNat / 32) + (word.raw.toNat + 1) % 32 := by
  have low : ((word.raw + 1) &&& 0x1f).toNat = (word.raw.toNat + 1) % 32 := by
    rw [UInt16.toNat_and, UInt16.toNat_add]
    apply (Nat.and_two_pow_sub_one_eq_mod _ 5).trans
    simp only [UInt16.toNat_one]
    omega
  have high : (word.raw &&& ~~~(0x1f : UInt16)).toNat = 32 * (word.raw.toNat / 32) := by
    rw [UInt16.toNat_and]
    exact land_high word.raw.toNat word.raw.toNat_lt
  rw [advance, UInt16.toNat_or, low, high, Nat.lor_comm]
  exact (Nat.two_pow_add_eq_or_of_lt (i := 5) (Nat.mod_lt _ (by decide)) _).symm

theorem port_advance (word : PipeWord) : word.advance.port = word.port := by
  apply UInt16.toNat_inj.mp
  rw [toNat_port, toNat_port, toNat_advance]
  omega

theorem counter_advance (word : PipeWord) :
    word.advance.counter.toNat = (word.counter.toNat + 1) % 32 := by
  rw [toNat_counter, toNat_counter, toNat_advance]
  omega

/-- The word of the packet with this number on a port, counted from zero. -/
def numbered (port : UInt16) (number : Nat) : PipeWord :=
  ⟨UInt16.ofNat (128 * (port.toNat % 512) + number % 32)⟩

theorem toNat_numbered (port : UInt16) (number : Nat) :
    (numbered port number).raw.toNat = 128 * (port.toNat % 512) + number % 32 := by
  simp only [numbered, UInt16.toNat_ofNat']
  omega

theorem numbered_zero (port : UInt16) : numbered port 0 = ofPort port := by
  apply eq_of_toNat
  have masked : (port &&& maxPort).toNat = port.toNat % 512 := by
    rw [UInt16.toNat_and]
    exact Nat.and_two_pow_sub_one_eq_mod port.toNat 9
  rw [toNat_numbered, ofPort, UInt16.toNat_shiftLeft, masked]
  have amount : UInt16.toNat 7 % 16 = 7 := rfl
  rw [amount, Nat.shiftLeft_eq]
  omega

theorem advance_numbered (port : UInt16) (number : Nat) :
    (numbered port number).advance = numbered port (number + 1) := by
  apply eq_of_toNat
  rw [toNat_advance, toNat_numbered, toNat_numbered]
  omega

/-- What a kind of packet adds to the number that its word holds. -/
def kindValue : PacketKind → Nat
  | .data => 0
  | .metadata => 64
  | .close => 32

/-- A flag above the counter and below the port is added to both. -/
private theorem lor_flag (port counter place : Nat) (low : counter < 2 ^ place) (high : place < 7) :
    (2 ^ 7 * port + counter) ||| 2 ^ place = 2 ^ 7 * port + (2 ^ place + counter) := by
  have flag : 2 ^ (place + 1) ≤ 2 ^ 7 := Nat.pow_le_pow_right (by decide) high
  have double : 2 ^ (place + 1) = 2 * 2 ^ place := by rw [Nat.pow_succ, Nat.mul_comm]
  have both : counter ||| 2 ^ place = 2 ^ place + counter := by
    have sum := Nat.two_pow_add_eq_or_of_lt low 1
    rw [Nat.mul_one] at sum
    rw [Nat.lor_comm, sum]
  rw [Nat.two_pow_add_eq_or_of_lt (i := 7) (by omega), Nat.lor_assoc, both,
    ← Nat.two_pow_add_eq_or_of_lt (i := 7) (by omega)]

theorem toNat_ofKind (port : UInt16) (number : Nat) (kind : PacketKind) :
    ((numbered port number).ofKind kind).raw.toNat =
      128 * (port.toNat % 512) + (kindValue kind + number % 32) := by
  cases kind with
  | data =>
    rw [ofKind, toNat_numbered, kindValue]
    omega
  | metadata =>
    rw [ofKind, withMeta, UInt16.toNat_or, toNat_numbered]
    exact lor_flag _ _ 6 (by omega) (by decide)
  | close =>
    rw [ofKind, withClose, UInt16.toNat_or, toNat_numbered]
    exact lor_flag _ _ 5 (by omega) (by decide)

theorem kindValue_le (kind : PacketKind) : kindValue kind ≤ 64 := by
  cases kind <;> decide

theorem port_ofKind (port : UInt16) (number : Nat) (kind : PacketKind) :
    ((numbered port number).ofKind kind).port = (numbered port number).port := by
  have small := kindValue_le kind
  apply UInt16.toNat_inj.mp
  rw [toNat_port, toNat_port, toNat_ofKind, toNat_numbered]
  omega

theorem counter_ofKind (port : UInt16) (number : Nat) (kind : PacketKind) :
    ((numbered port number).ofKind kind).counter.toNat = number % 32 := by
  have multiple : kindValue kind % 32 = 0 := by cases kind <;> rfl
  rw [toNat_counter, toNat_ofKind]
  omega

theorem isMeta_ofKind (port : UInt16) (number : Nat) (kind : PacketKind) :
    ((numbered port number).ofKind kind).isMeta = decide (kind = .metadata) := by
  rw [isMeta_eq, toNat_ofKind]
  cases kind <;> simp only [kindValue] <;> grind

theorem isClose_ofKind (port : UInt16) (number : Nat) (kind : PacketKind) :
    ((numbered port number).ofKind kind).isClose = decide (kind = .close) := by
  rw [isClose_eq, toNat_ofKind]
  cases kind <;> simp only [kindValue] <;> grind

theorem port_numbered (port : UInt16) (number : Nat) :
    (numbered port number).port = port &&& maxPort := by
  apply UInt16.toNat_inj.mp
  rw [toNat_port, toNat_numbered, UInt16.toNat_and]
  refine Eq.trans ?_ (Nat.and_two_pow_sub_one_eq_mod port.toNat 9).symm
  omega

theorem counter_numbered (port : UInt16) (number : Nat) :
    (numbered port number).counter.toNat = number % 32 := by
  rw [toNat_counter, toNat_numbered]
  omega

end PipeBus.PipeWord
