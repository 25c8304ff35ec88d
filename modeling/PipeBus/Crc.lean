import PipeBus.Wire

/-!
The checksum of a frame: CRC-16 with polynomial `0x1021`, most significant bit
first, started at all ones. `update` takes a whole byte at once; `updateBits` is
the polynomial division itself, one bit at a time.
-/
namespace PipeBus.Crc

/-- Register value before the first byte. -/
def initial : UInt16 := 0xffff

def update (crc : UInt16) (byte : UInt8) : UInt16 :=
  let head := (crc >>> 8).toUInt8 ^^^ byte
  let mixed := (head ^^^ (head >>> 4)).toUInt16
  (crc <<< 8) ^^^ (mixed <<< 12) ^^^ (mixed <<< 5) ^^^ mixed

def extend (crc : UInt16) (bytes : Bytes) : UInt16 := bytes.foldl update crc

def ofBytes (bytes : Bytes) : UInt16 := extend initial bytes

/-- One step of the division: shift left, and subtract the polynomial when a one fell out. -/
def shiftBit (crc : UInt16) : UInt16 :=
  if crc &&& 0x8000 = 0 then crc <<< 1 else (crc <<< 1) ^^^ 0x1021

/-- Divide eight further bits, after adding the byte to the high half of the register. -/
def updateBits (crc : UInt16) (byte : UInt8) : UInt16 :=
  Nat.repeat shiftBit 8 (crc ^^^ (byte.toUInt16 <<< 8))

theorem extend_append (crc : UInt16) (left right : Bytes) :
    extend crc (left ++ right) = extend (extend crc left) right := List.foldl_append

end PipeBus.Crc
