-- String literals between two quotes: a backslash before every quote and
-- every backslash, and the scanner that reads such a literal back.
namespace OperationModels.Text.Quoted

/-- One character as it stands inside a literal. -/
def encodeChar (c : Char) : List Char :=
  if c = '\\' || c = '"' then ['\\', c] else [c]

/-- The inside of a literal. -/
def encode (text : List Char) : List Char := text.flatMap encodeChar

def escape (text : String) : String := String.ofList (encode text.toList)

/-- Read a literal whose opening quote is already taken: a backslash takes
the next character with it, and the first quote without one ends the
literal. Gives the text and what follows the closing quote. -/
def scan : List Char → Option (List Char × List Char)
  | [] => none
  | '"' :: rest => some ([], rest)
  | '\\' :: c :: rest => (scan rest).map (fun (text, after) => (c :: text, after))
  | c :: rest => (scan rest).map (fun (text, after) => (c :: text, after))

end OperationModels.Text.Quoted
