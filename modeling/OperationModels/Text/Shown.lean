-- A text shown for reading: between quotes, with every character spelled out
-- that would not be seen or would end the quotes.
import OperationModels.Text.Letters
import OperationModels.Text.HiddenRuns

namespace OperationModels.Text

/-- Does the character leave no mark of its own? -/
def isHidden (c : Char) : Bool :=
  if isAscii c then c.toNat < 0x20 || c.toNat == 0x7f else inRuns hiddenRuns c.toNat

/-- A code point in hexadecimal between braces. -/
def codePointEscape (c : Char) : String :=
  "\\u\x7b" ++ String.ofList (Nat.toDigits 16 c.toNat) ++ "\x7d"

def showChar (c : Char) : String :=
  match c with
  | '\x00' => "\\0"
  | '\t' => "\\t"
  | '\r' => "\\r"
  | '\n' => "\\n"
  | '"' => "\\\""
  | '\\' => "\\\\"
  | _ => if isHidden c then codePointEscape c else String.singleton c

/-- The text between quotes, with hidden characters spelled out. -/
def shown (text : String) : String :=
  "\"" ++ String.join (text.toList.map showChar) ++ "\""

end OperationModels.Text
