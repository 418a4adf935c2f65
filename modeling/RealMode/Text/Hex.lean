/-!
# Hexadecimal numbers in messages

`lower` and `upper` pad with zeros to a least number of digits; a larger number
keeps all of its digits.
-/

namespace RealMode.Text.Hex

def lower (width n : Nat) : String :=
  let digits := Nat.toDigits 16 n
  String.ofList (List.replicate (width - digits.length) '0' ++ digits)

def upper (width n : Nat) : String :=
  String.ofList ((lower width n).toList.map Char.toUpper)

/-- A byte with its marker, as in `0x1a`. -/
def byte (b : UInt8) : String := "0x" ++ lower 2 b.toNat

/-- A word with its marker, as in `0x00ff`. -/
def word (w : UInt16) : String := "0x" ++ lower 4 w.toNat

end RealMode.Text.Hex
