import PipeBus.Text.Quoted

/-!
Bytes typed in as hexadecimal digits. Blanks and colons anywhere are ignored, and
every two of the bytes left over are one byte: two digits in either case, or a
plus sign and a digit.
-/
namespace PipeBus.HexInput

/-- Why a text is not a sequence of bytes. -/
inductive Problem where
  | oddLength
  /-- Two bytes that denote none; what they spell is kept, if it is text. -/
  | invalidByte (piece : String)
  deriving DecidableEq

def Problem.message : Problem → String
  | .oddLength => "hex input has an odd number of digits"
  | .invalidByte piece => s!"invalid hex byte: {Text.quoted piece}"

/-- Bytes between digits: blank, tab, line feed, form feed, carriage return, colon. -/
def isSeparator (byte : UInt8) : Bool :=
  byte == 0x20 || byte == 0x09 || byte == 0x0a || byte == 0x0c || byte == 0x0d || byte == 0x3a

/-- Value of a hexadecimal digit in either case. -/
def digitValue? (byte : UInt8) : Option Nat :=
  if 0x30 ≤ byte ∧ byte ≤ 0x39 then some (byte.toNat - 0x30)
  else if 0x61 ≤ byte ∧ byte ≤ 0x66 then some (byte.toNat - 0x57)
  else if 0x41 ≤ byte ∧ byte ≤ 0x46 then some (byte.toNat - 0x37)
  else none

/-- The byte that two bytes of text denote. A plus sign counts for nothing. -/
def pairValue? (high low : UInt8) : Option UInt8 :=
  match digitValue? high, digitValue? low with
  | some first, some second => some (UInt8.ofNat (16 * first + second))
  | none, some second => if high = 0x2b then some (UInt8.ofNat second) else none
  | _, none => none

/-- What two bytes spell: two characters, one, or none if they are no text by themselves. -/
def spelled (high low : UInt8) : String :=
  if high < 0x80 ∧ low < 0x80 then
    String.ofList [Char.ofNat high.toNat, Char.ofNat low.toNat]
  else if 0xc2 ≤ high ∧ high ≤ 0xdf ∧ 0x80 ≤ low ∧ low ≤ 0xbf then
    String.ofList [Char.ofNat ((high.toNat - 0xc0) * 64 + (low.toNat - 0x80))]
  else ""

def pairs : Bytes → Except Problem Bytes
  | high :: low :: rest =>
    match pairValue? high low with
    | none => .error (.invalidByte (spelled high low))
    | some byte => (pairs rest).map (byte :: ·)
  | _ => .ok []

/-- What is left of a text without separators. -/
def significant (text : String) : Bytes :=
  (text.toList.flatMap String.utf8EncodeChar).filter fun byte => !isSeparator byte

def parse (text : String) : Except Problem Bytes :=
  if (significant text).length % 2 ≠ 0 then .error .oddLength else pairs (significant text)

end PipeBus.HexInput
