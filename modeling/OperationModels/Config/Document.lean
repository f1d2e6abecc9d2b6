-- Configuration texts, in the part of TOML that a configuration can use:
-- keys with a string or a list of strings. A text with anything else is
-- refused, since no key of a configuration takes it.
import OperationModels.Text.Digits

namespace OperationModels.Config

/-- The value of a key. -/
inductive Value
  | text (value : String)
  | texts (values : List String)
deriving DecidableEq, Repr

/-- The keys of a text with their values, in order. -/
abbrev Document := List (String × Value)

/-! ## Blanks and comments -/

/-- A blank inside a line. -/
def isBlank (c : Char) : Bool := c = ' ' || c = '\t'

def skipBlanks (text : List Char) : List Char := text.dropWhile isBlank

/-- May the character stand in a comment or a literal string? Controls other
than the tab may not. -/
def isPlain (c : Char) : Bool := c = '\t' || (0x20 ≤ c.toNat && c.toNat ≠ 0x7f)

/-- What follows a line break. -/
def lineBreak? : List Char → Option (List Char)
  | '\n' :: rest => some rest
  | '\r' :: '\n' :: rest => some rest
  | _ => none

/-- Drop a comment, if one stands at the front, up to the end of its line. -/
def skipComment (text : List Char) : List Char :=
  match text with
  | '#' :: rest => rest.dropWhile isPlain
  | _ => text

/-- Drop blanks, comments and line breaks. -/
def skipLines : Nat → List Char → List Char
  | 0, text => text
  | bound + 1, text =>
    let front := skipComment (skipBlanks text)
    match lineBreak? front with
    | some rest => skipLines bound rest
    | none => front

/-- What follows the end of a line, blanks and a comment before it dropped;
the end of the text ends a line too. -/
def lineEnd? (text : List Char) : Option (List Char) :=
  match skipComment (skipBlanks text) with
  | [] => some []
  | front => lineBreak? front

/-! ## Strings -/

/-- The character of a code point in hexadecimal digits. -/
def codePoint? (digits : List Char) : Option Char := do
  let n ← Text.hexValue? digits
  if n < 0x110000 && !Text.isSurrogate n then some (.ofNat n) else none

/-- The character of an escape behind its backslash, and what follows it. -/
def escape? : List Char → Option (Char × List Char)
  | 'b' :: rest => some ('\x08', rest)
  | 't' :: rest => some ('\t', rest)
  | 'n' :: rest => some ('\n', rest)
  | 'f' :: rest => some ('\x0c', rest)
  | 'r' :: rest => some ('\r', rest)
  | '"' :: rest => some ('"', rest)
  | '\\' :: rest => some ('\\', rest)
  | 'u' :: a :: b :: c :: d :: rest => (codePoint? [a, b, c, d]).map (fun char => (char, rest))
  | 'U' :: a :: b :: c :: d :: e :: f :: g :: h :: rest =>
    (codePoint? [a, b, c, d, e, f, g, h]).map (fun char => (char, rest))
  | _ => none

/-- One character in front of the text of a string. -/
def consChar (c : Char) (read : Option (List Char × List Char)) :
    Option (List Char × List Char) :=
  read.map (fun (text, rest) => (c :: text, rest))

/-- The text of a string with escapes on one line, behind its opening quote. -/
def readBasic : Nat → List Char → Option (List Char × List Char)
  | 0, _ => none
  | _, [] => none
  | _ + 1, '"' :: rest => some ([], rest)
  | bound + 1, '\\' :: rest =>
    match escape? rest with
    | some (char, after) => consChar char (readBasic bound after)
    | none => none
  | bound + 1, c :: rest => if isPlain c then consChar c (readBasic bound rest) else none

/-- The text of a string without escapes on one line, behind its opening
quote. -/
def readLiteral : List Char → Option (List Char × List Char)
  | [] => none
  | '\x27' :: rest => some ([], rest)
  | c :: rest => if isPlain c then consChar c (readLiteral rest) else none

/-- Quotes in a string over lines: three of them end it, and up to two more
before those belong to it. -/
def closing? (quote : Char) (text : List Char) : Option (List Char × List Char) :=
  let quotes := (text.takeWhile (· = quote)).length
  if 3 ≤ quotes && quotes ≤ 5 then some (List.replicate (quotes - 3) quote, text.drop quotes)
  else none

def skipBreaks : Nat → List Char → List Char
  | 0, text => text
  | bound + 1, text =>
    let front := skipBlanks text
    match lineBreak? front with
    | some rest => skipBreaks bound rest
    | none => front

/-- The text of a string over lines, behind its opening quotes. With escapes,
a backslash at the end of a line takes all blanks and line breaks with it. -/
def readLong (quote : Char) (escapes : Bool) : Nat → List Char → Option (List Char × List Char)
  | 0, _ => none
  | _, [] => none
  | bound + 1, c :: rest =>
    if c = quote then
      match closing? quote (c :: rest) with
      | some found => some found
      | none =>
        if 5 < ((c :: rest).takeWhile (· = quote)).length then none
        else consChar c (readLong quote escapes bound rest)
    else if escapes && c = '\\' then
      match escape? rest with
      | some (char, after) => consChar char (readLong quote escapes bound after)
      | none =>
        match lineBreak? (skipBlanks rest) with
        | some after => readLong quote escapes bound (skipBreaks after.length after)
        | none => none
    else
      match lineBreak? (c :: rest) with
      | some after => consChar '\n' (readLong quote escapes bound after)
      | none => if isPlain c then consChar c (readLong quote escapes bound rest) else none

/-- A line break right behind the opening quotes is no part of a string. -/
def dropFirstBreak (text : List Char) : List Char := (lineBreak? text).getD text

/-- A string of any of the four forms, and what follows it. -/
def readString? (text : List Char) : Option (String × List Char) :=
  let read := match text with
    | '"' :: '"' :: '"' :: rest => readLong '"' true (rest.length + 1) (dropFirstBreak rest)
    | '\x27' :: '\x27' :: '\x27' :: rest =>
      readLong '\x27' false (rest.length + 1) (dropFirstBreak rest)
    | '"' :: rest => readBasic (rest.length + 1) rest
    | '\x27' :: rest => readLiteral rest
    | _ => none
  read.map (fun (inside, after) => (String.ofList inside, after))

/-! ## Values and keys -/

/-- The strings of a list behind its bracket, and what follows the list. A
comma may stand behind the last one. -/
def readStrings : Nat → List Char → Option (List String × List Char)
  | 0, _ => none
  | bound + 1, text =>
    match skipLines text.length text with
    | ']' :: after => some ([], after)
    | front =>
      match readString? front with
      | none => none
      | some (first, rest) =>
        match skipLines rest.length rest with
        | ']' :: after => some ([first], after)
        | ',' :: after =>
          (readStrings bound after).map (fun (others, later) => (first :: others, later))
        | _ => none

/-- A value, and what follows it. -/
def readValue? (text : List Char) : Option (Value × List Char) :=
  match text with
  | '[' :: rest =>
    (readStrings (rest.length + 1) rest).map (fun (values, after) => (.texts values, after))
  | _ => (readString? text).map (fun (value, after) => (.text value, after))

/-- A letter, a digit, an underscore or a hyphen. -/
def isKeyChar (c : Char) : Bool := c.isAlphanum || c = '_' || c = '-'

/-- A key, bare or quoted on one line, and what follows it. -/
def readKey? (text : List Char) : Option (String × List Char) :=
  match text with
  | '"' :: rest =>
    (readBasic (rest.length + 1) rest).map (fun (inside, after) => (String.ofList inside, after))
  | '\x27' :: rest =>
    (readLiteral rest).map (fun (inside, after) => (String.ofList inside, after))
  | _ =>
    let key := text.takeWhile isKeyChar
    if key.isEmpty then none else some (String.ofList key, text.dropWhile isKeyChar)

/-- The lines of a text: a key with its value on each that is not empty. -/
def readLines : Nat → List Char → Option Document
  | 0, _ => none
  | bound + 1, text =>
    match skipLines text.length text with
    | [] => some []
    | front => do
      let (key, rest) ← readKey? front
      match skipBlanks rest with
      | '=' :: rest =>
        let (value, rest) ← readValue? (skipBlanks rest)
        let later ← lineEnd? rest
        let others ← readLines bound later
        pure ((key, value) :: others)
      | _ => none

/-- The keys of a text with their values. A byte order mark may come first. -/
def Document.parse? (text : String) : Option Document :=
  let chars := match text.toList with
    | '\ufeff' :: rest => rest
    | chars => chars
  readLines (chars.length + 1) chars

end OperationModels.Config
