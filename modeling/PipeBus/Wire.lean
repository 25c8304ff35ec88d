/-!
Bytes and little-endian words, the byte order of every number on the bus.
Main statements: reading back the bytes of a number gives the number modulo the
width written, and a byte list is the writing of the number it denotes.
-/
namespace PipeBus

/-- Bytes in the order in which they cross the bus. -/
abbrev Bytes := List UInt8

namespace Wire

/-- The `width` low bytes of a number, least significant first. -/
def encode : Nat → Nat → Bytes
  | 0, _ => []
  | width + 1, value => UInt8.ofNat value :: encode width (value / 256)

/-- The number that a byte list denotes, least significant byte first. -/
def decode : Bytes → Nat
  | [] => 0
  | byte :: rest => byte.toNat + 256 * decode rest

@[simp] theorem length_encode (width value : Nat) : (encode width value).length = width := by
  induction width generalizing value with
  | zero => rfl
  | succ width ih => simp [encode, ih]

theorem decode_encode (width value : Nat) :
    decode (encode width value) = value % Nat.pow 256 width := by
  induction width generalizing value with
  | zero => exact (Nat.mod_one value).symm
  | succ width ih =>
    have byte : (UInt8.ofNat value).toNat = value % 256 := by simp
    have power : Nat.pow 256 (width + 1) = 256 * Nat.pow 256 width := Nat.pow_succ'
    rw [encode, decode, ih, byte, power, Nat.mod_mul]

theorem decode_encode_of_lt {width value : Nat} (small : value < Nat.pow 256 width) :
    decode (encode width value) = value := by
  rw [decode_encode, Nat.mod_eq_of_lt small]

theorem encode_decode (bytes : Bytes) : encode bytes.length (decode bytes) = bytes := by
  induction bytes with
  | nil => rfl
  | cons byte rest ih =>
    have small : byte.toNat < 256 := byte.toNat_lt
    have low : UInt8.ofNat (byte.toNat + 256 * decode rest) = byte := by
      apply UInt8.toNat_inj.mp
      simp
    have high : (byte.toNat + 256 * decode rest) / 256 = decode rest := by omega
    simp [decode, encode, low, high, ih]

theorem decode_lt (bytes : Bytes) : decode bytes < Nat.pow 256 bytes.length := by
  induction bytes with
  | nil => exact Nat.one_pos
  | cons byte rest ih =>
    have small : byte.toNat < 256 := byte.toNat_lt
    have power : Nat.pow 256 (rest.length + 1) = 256 * Nat.pow 256 rest.length := Nat.pow_succ'
    rw [decode, List.length_cons, power]
    omega

def word16 (value : UInt16) : Bytes := encode 2 value.toNat

def word32 (value : UInt32) : Bytes := encode 4 value.toNat

def word64 (value : UInt64) : Bytes := encode 8 value.toNat

/-- The 16-bit word at the front of a byte list; absent bytes count as zero. -/
def toWord16 (bytes : Bytes) : UInt16 := UInt16.ofNat (decode (bytes.take 2))

/-- The 32-bit word at the front of a byte list; absent bytes count as zero. -/
def toWord32 (bytes : Bytes) : UInt32 := UInt32.ofNat (decode (bytes.take 4))

/-- The 64-bit word at the front of a byte list; absent bytes count as zero. -/
def toWord64 (bytes : Bytes) : UInt64 := UInt64.ofNat (decode (bytes.take 8))

theorem toWord16_append (value : UInt16) (rest : Bytes) :
    toWord16 (word16 value ++ rest) = value := by
  have wide : (word16 value).length = 2 := length_encode ..
  rw [toWord16, List.take_left' wide, word16, decode_encode_of_lt value.toNat_lt,
    UInt16.ofNat_toNat]

theorem toWord32_append (value : UInt32) (rest : Bytes) :
    toWord32 (word32 value ++ rest) = value := by
  have wide : (word32 value).length = 4 := length_encode ..
  rw [toWord32, List.take_left' wide, word32, decode_encode_of_lt value.toNat_lt,
    UInt32.ofNat_toNat]

theorem toWord64_append (value : UInt64) (rest : Bytes) :
    toWord64 (word64 value ++ rest) = value := by
  have wide : (word64 value).length = 8 := length_encode ..
  rw [toWord64, List.take_left' wide, word64, decode_encode_of_lt value.toNat_lt,
    UInt64.ofNat_toNat]

/-- A number read off the front is written as the bytes that stand there. -/
theorem encode_decode_take {width : Nat} {bytes : Bytes} (enough : width ≤ bytes.length) :
    encode width (decode (bytes.take width)) = bytes.take width := by
  have same := encode_decode (bytes.take width)
  rwa [List.length_take_of_le enough] at same

theorem decode_take_lt {width : Nat} {bytes : Bytes} (enough : width ≤ bytes.length) :
    decode (bytes.take width) < Nat.pow 256 width := by
  have small := decode_lt (bytes.take width)
  rwa [List.length_take_of_le enough] at small

theorem word16_toWord16 {bytes : Bytes} (enough : 2 ≤ bytes.length) :
    word16 (toWord16 bytes) = bytes.take 2 := by
  have small : decode (bytes.take 2) < 2 ^ 16 := decode_take_lt enough
  rw [word16, toWord16, UInt16.toNat_ofNat_of_lt' small, encode_decode_take enough]

theorem word64_toWord64 {bytes : Bytes} (enough : 8 ≤ bytes.length) :
    word64 (toWord64 bytes) = bytes.take 8 := by
  have small : decode (bytes.take 8) < 2 ^ 64 := decode_take_lt enough
  rw [word64, toWord64, UInt64.toNat_ofNat_of_lt' small, encode_decode_take enough]

end Wire

/-- Consecutive runs of `size` bytes, the last one possibly shorter; a size of zero counts as one. -/
def Bytes.chunks (size : Nat) (bytes : Bytes) : List Bytes :=
  if bytes.length = 0 then [] else
    bytes.take (max size 1) :: Bytes.chunks size (bytes.drop (max size 1))
termination_by bytes.length
decreasing_by simp only [List.length_drop]; omega

end PipeBus
