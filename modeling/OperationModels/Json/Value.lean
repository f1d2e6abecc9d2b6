-- JSON texts and the values that they write. A string whose escapes name no
-- character is read but has no text, so that it can be passed over but not
-- used.
import OperationModels.Text.Digits

namespace OperationModels.Json

/-- A JSON value. Numbers and the literals carry nothing that is used here. -/
inductive Value
  | scalar
  | string (text : Option String)
  | array (items : List Value)
  | object (entries : List (Option String × Value))

/-! ## Strings -/

/-- A unit that opens a pair. -/
def isLeading (n : Nat) : Bool := 0xd800 ≤ n && n ≤ 0xdbff

/-- A unit that closes a pair. -/
def isTrailing (n : Nat) : Bool := 0xdc00 ≤ n && n ≤ 0xdfff

/-- The character behind a backslash, for the escapes of one letter. -/
def escaped? : Char → Option Char
  | '"' => some '"'
  | '\\' => some '\\'
  | '/' => some '/'
  | 'b' => some '\x08'
  | 'f' => some '\x0c'
  | 'n' => some '\n'
  | 'r' => some '\r'
  | 't' => some '\t'
  | _ => none

/-- One character in front of the text of a string. -/
def consChar (c : Char) (read : Option (Option (List Char) × List Char)) :
    Option (Option (List Char) × List Char) :=
  read.map (fun (text, rest) => (text.map (c :: ·), rest))

/-- An escape that names no character: the string goes on but has no text. -/
def noChar (read : Option (Option (List Char) × List Char)) :
    Option (Option (List Char) × List Char) :=
  read.map (fun (_, rest) => (none, rest))

/-- The text of a string whose opening quote is taken, and what follows it.
`bound` is a bound for the characters. -/
def readString : Nat → List Char → Option (Option (List Char) × List Char)
  | 0, _ => none
  | _, [] => none
  | _ + 1, '"' :: rest => some (some [], rest)
  | bound + 1, '\\' :: 'u' :: a :: b :: c :: d :: rest =>
    match Text.hexValue? [a, b, c, d] with
    | none => none
    | some unit =>
      if isLeading unit then
        match rest with
        | '\\' :: 'u' :: e :: f :: g :: h :: after =>
          match Text.hexValue? [e, f, g, h] with
          | none => none
          | some second =>
            if isTrailing second then
              consChar (.ofNat (0x10000 + (unit - 0xd800) * 0x400 + (second - 0xdc00)))
                (readString bound after)
            else noChar (readString bound rest)
        | _ => noChar (readString bound rest)
      else if isTrailing unit then noChar (readString bound rest)
      else consChar (.ofNat unit) (readString bound rest)
  | bound + 1, '\\' :: c :: rest =>
    match escaped? c with
    | some char => consChar char (readString bound rest)
    | none => none
  | bound + 1, c :: rest =>
    if c.toNat < 0x20 then none else consChar c (readString bound rest)

/-! ## Numbers and literals -/

/-- Blanks are dropped before a value and behind it. -/
def skipBlanks (text : List Char) : List Char :=
  text.dropWhile (fun c => c = ' ' || c = '\n' || c = '\t' || c = '\r')

/-- At least one digit, and what follows the digits. -/
def digits? (text : List Char) : Option (List Char) :=
  if text.head?.any Char.isDigit then some (text.dropWhile Char.isDigit) else none

/-- What follows the whole part of a number: a zero, or digits that start
with another one. -/
def wholePart? : List Char → Option (List Char)
  | '0' :: rest => some rest
  | text => digits? text

/-- What follows the fraction, if there is one. -/
def fraction? : List Char → Option (List Char)
  | '.' :: rest => digits? rest
  | text => some text

/-- What follows the exponent, if there is one. -/
def exponent? : List Char → Option (List Char)
  | 'e' :: '+' :: rest | 'e' :: '-' :: rest | 'E' :: '+' :: rest | 'E' :: '-' :: rest =>
    digits? rest
  | 'e' :: rest | 'E' :: rest => digits? rest
  | text => some text

/-- What follows a number. -/
def number? (text : List Char) : Option (List Char) :=
  let unsigned := match text with
    | '-' :: rest => rest
    | _ => text
  ((wholePart? unsigned).bind fraction?).bind exponent?

/-- What follows a word. -/
def word? (word : String) (text : List Char) : Option (List Char) :=
  if word.toList.isPrefixOf text then some (text.drop word.length) else none

/-! ## Values -/

mutual

/-- A value, and what follows it. `bound` is a bound for the characters. -/
def readValue : Nat → List Char → Option (Value × List Char)
  | 0, _ => none
  | bound + 1, text =>
    match skipBlanks text with
    | [] => none
    | '"' :: rest =>
      (readString (rest.length + 1) rest).map
        (fun (inside, after) => (.string (inside.map String.ofList), after))
    | '[' :: rest =>
      match skipBlanks rest with
      | ']' :: after => some (.array [], after)
      | inner => (readItems bound inner).map (fun (items, after) => (.array items, after))
    | '\x7b' :: rest =>
      match skipBlanks rest with
      | '\x7d' :: after => some (.object [], after)
      | inner => (readEntries bound inner).map (fun (entries, after) => (.object entries, after))
    | 't' :: rest => (word? "rue" rest).map (fun after => (.scalar, after))
    | 'f' :: rest => (word? "alse" rest).map (fun after => (.scalar, after))
    | 'n' :: rest => (word? "ull" rest).map (fun after => (.scalar, after))
    | front => (number? front).map (fun after => (.scalar, after))

/-- Items up to the bracket that closes them, and what follows it. -/
def readItems : Nat → List Char → Option (List Value × List Char)
  | 0, _ => none
  | bound + 1, text =>
    match readValue bound text with
    | none => none
    | some (first, rest) =>
      match skipBlanks rest with
      | ']' :: after => some ([first], after)
      | ',' :: after =>
        (readItems bound after).map (fun (items, later) => (first :: items, later))
      | _ => none

/-- Entries up to the brace that closes them, and what follows it. -/
def readEntries : Nat → List Char → Option (List (Option String × Value) × List Char)
  | 0, _ => none
  | bound + 1, text =>
    match skipBlanks text with
    | '"' :: keyText =>
      match readString (keyText.length + 1) keyText with
      | none => none
      | some (key, rest) =>
        match skipBlanks rest with
        | ':' :: afterColon =>
          match readValue bound afterColon with
          | none => none
          | some (value, rest) =>
            let entry := (key.map String.ofList, value)
            match skipBlanks rest with
            | '\x7d' :: after => some ([entry], after)
            | ',' :: after =>
              (readEntries bound after).map (fun (entries, later) => (entry :: entries, later))
            | _ => none
        | _ => none
    | _ => none

end

/-- The value of a whole text. Each reader takes a character before it calls
another one, except that a list calls for its first item, so twice the
length of the text is bound enough. -/
def parse? (text : String) : Option Value :=
  match readValue (2 * text.length + 2) text.toList with
  | some (value, rest) => if (skipBlanks rest).isEmpty then some value else none
  | none => none

end OperationModels.Json
