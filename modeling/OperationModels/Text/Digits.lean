-- The numbers that digits write, in base ten and in base sixteen.
namespace OperationModels.Text

/-- The number that decimal digits write. -/
def decimalValue (digits : List Char) : Nat :=
  digits.foldl (fun known c => 10 * known + (c.toNat - '0'.toNat)) 0

def hexDigit? (c : Char) : Option Nat :=
  if c.isDigit then some (c.toNat - '0'.toNat)
  else if 'a' ≤ c && c ≤ 'f' then some (c.toNat - 'a'.toNat + 10)
  else if 'A' ≤ c && c ≤ 'F' then some (c.toNat - 'A'.toNat + 10)
  else none

/-- The number that hexadecimal digits write, if all of them are such digits. -/
def hexValue? (digits : List Char) : Option Nat :=
  digits.foldlM (fun known c => (hexDigit? c).map (16 * known + ·)) 0

/-- Is the number one of the two halves of a pair, which is no character? -/
def isSurrogate (n : Nat) : Bool := 0xd800 ≤ n && n ≤ 0xdfff

end OperationModels.Text
