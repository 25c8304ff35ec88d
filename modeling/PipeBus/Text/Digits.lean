import PipeBus.Wire

/-!
Lowercase hexadecimal text of numbers and bytes.
-/
namespace PipeBus.Text

/-- The digit of a number below sixteen, in lowercase. -/
def hexDigit (value : Nat) : Char :=
  if value < 10 then Char.ofNat (48 + value) else Char.ofNat (87 + value)

/-- Hexadecimal digits of a number, without leading zeros; zero is `0`. -/
def hexDigits (value : Nat) : List Char :=
  if value < 16 then [hexDigit value] else hexDigits (value / 16) ++ [hexDigit (value % 16)]

/-- Hexadecimal text of a number, filled with zeros on the left to at least `width` digits. -/
def hex (width value : Nat) : String :=
  let digits := hexDigits value
  String.ofList (List.replicate (width - digits.length) '0' ++ digits)

def hexOfBytes (bytes : Bytes) : String :=
  String.ofList (bytes.flatMap fun byte => [hexDigit (byte.toNat / 16), hexDigit (byte.toNat % 16)])

end PipeBus.Text
