-- The tokens of a GraphQL text and where each of them starts. Reading stops
-- at the end of the text or at the first place where no token starts, and
-- that place is remembered: whoever reads on from there fails there.
namespace OperationModels.Graphql

/-- A place in a text; lines and columns count from one. -/
structure Position where
  line : Nat
  column : Nat
deriving DecidableEq, Repr

namespace Position

def start : Position := ⟨1, 1⟩

/-- The place `columns` further on the line. -/
def advance (columns : Nat) (place : Position) : Position :=
  ⟨place.line, place.column + columns⟩

/-- The first place of the next line. -/
def nextLine (place : Position) : Position := ⟨place.line + 1, 1⟩

/-- The place behind a lexeme, a column for each character. -/
def behind (place : Position) (lexeme : List Char) : Position :=
  lexeme.foldl (fun here c => if c = '\n' then here.nextLine else here.advance 1) place

end Position

/-- A token. A number keeps its digits and a string its inside, since some
of them are only refused where they are used. -/
inductive Token
  | punctuator (c : Char)
  | spread
  | name (text : String)
  | int (text : List Char)
  | float (text : List Char)
  | string (inside : List Char)
  | blockString
deriving DecidableEq, Repr

/-- Why there are no more tokens, and where. -/
inductive Stop
  | endOfText (place : Position)
  | noToken (place : Position)
deriving DecidableEq, Repr

def Stop.place : Stop → Position
  | .endOfText place => place
  | .noToken place => place

/-- The tokens of a text with their places, and where they stop. -/
structure Tokens where
  rest : List (Position × Token)
  stop : Stop
deriving DecidableEq, Repr

def Tokens.place (tokens : Tokens) : Position :=
  match tokens.rest with
  | [] => tokens.stop.place
  | (place, _) :: _ => place

/-! ## What stands between tokens -/

/-- Skip what carries no meaning. A blank and a comma take one column, a tab
eight, a carriage return and a byte order mark none. A comment takes no
column and ends its line with a carriage return or a line feed. -/
def skipIgnored (inComment : Bool) (place : Position) : List Char → Position × List Char
  | [] => (place, [])
  | c :: rest =>
    if inComment then
      if c = '\n' || c = '\r' then skipIgnored false place.nextLine rest
      else skipIgnored true place rest
    else if c = ' ' || c = ',' then skipIgnored false (place.advance 1) rest
    else if c = '\t' then skipIgnored false (place.advance 8) rest
    else if c = '\n' then skipIgnored false place.nextLine rest
    else if c = '\r' || c = '\ufeff' then skipIgnored false place rest
    else if c = '#' then skipIgnored true place rest
    else (place, c :: rest)

/-! ## Names and numbers -/

def isNameStart (c : Char) : Bool := c.isAlpha || c = '_'

def isNameChar (c : Char) : Bool := c.isAlphanum || c = '_'

/-- The characters at which a number ends. -/
def endsNumber (c : Char) : Bool :=
  [' ', '\n', '\r', '\t', ',', '#', '!', '$', ':', '=', '@', '|', '&', '(', ')', '[', ']',
    '\x7b', '\x7d'].contains c

def allDigits (text : List Char) : Bool := text.all Char.isDigit

/-- An integer: zero, or digits without a leading zero, with an optional minus. -/
def isInt (text : List Char) : Bool :=
  match text with
  | ['0'] | ['-', '0'] => true
  | '0' :: _ | '-' :: '0' :: _ | ['-'] | [] => false
  | _ :: rest => allDigits rest

/-- An exponent: a sign or a digit from 1 to 8, then digits. -/
def isExponent (text : List Char) : Bool :=
  match text with
  | [] => false
  | first :: rest =>
    (first = '-' || first = '+' || ('1' ≤ first && first ≤ '8')) && allDigits rest

/-- The text up to the last occurrence of a character and the text behind it. -/
def splitLast (marks : List Char) : List Char → Option (List Char × List Char)
  | [] => none
  | c :: rest =>
    match splitLast marks rest with
    | some (before, after) => some (c :: before, after)
    | none => if marks.contains c then some ([], rest) else none

/-- An integer part, and digits behind the last point. -/
def isDecimal (text : List Char) : Bool :=
  match splitLast ['.'] text with
  | some (whole, fraction) => isInt whole && !fraction.isEmpty && allDigits fraction
  | none => isInt text

/-- Is the text a number, and which of the two kinds? The exponent starts at
the last `e` and the fraction at the last point, which must come before it. -/
def numberToken (text : List Char) : Option Token :=
  match splitLast ['e', 'E'] text with
  | some (mantissa, exponent) =>
    if !exponent.contains '.' && isDecimal mantissa && isExponent exponent then some (.float text)
    else none
  | none =>
    if text.contains '.' then if isDecimal text then some (.float text) else none
    else if isInt text then some (.int text) else none

/-! ## Strings -/

/-- The inside of a string whose opening quote is taken, and what follows
the closing one. A backslash takes the next character with it; the line may
not end. -/
def stringInside : List Char → Option (List Char × List Char)
  | [] => none
  | '"' :: rest => some ([], rest)
  | '\n' :: _ => none
  | '\\' :: c :: rest =>
    if c = '\n' then none
    else (stringInside rest).map (fun (inside, after) => ('\\' :: c :: inside, after))
  | c :: rest => (stringInside rest).map (fun (inside, after) => (c :: inside, after))

/-- The inside of a block string whose opening quotes are taken, and what
follows the closing ones: three quotes that no backslash precedes.
`escaped` tells whether the last character was a backslash. -/
def blockInside (escaped : Bool) : List Char → Option (List Char × List Char)
  | [] => none
  | '"' :: '"' :: '"' :: rest =>
    if escaped then
      (blockInside false rest).map (fun (inside, after) => ('"' :: '"' :: '"' :: inside, after))
    else some ([], rest)
  | c :: rest => (blockInside (c = '\\') rest).map (fun (inside, after) => (c :: inside, after))

/-! ## Tokens -/

/-- A token together with its lexeme, what follows it, and the number of
brackets open behind it. -/
structure Scanned where
  token : Token
  lexeme : List Char
  rest : List Char
  opened : Nat

/-- The most brackets that may be open at once. -/
def maxOpen : Nat := 50

/-- The token at the front of a text in which `opened` brackets are open. -/
def scanToken (opened : Nat) : List Char → Option Scanned
  | [] => none
  | c :: rest =>
    if c = '(' || c = '[' || c = '\x7b' then
      if opened < maxOpen then some ⟨.punctuator c, [c], rest, opened + 1⟩ else none
    else if c = ')' || c = ']' || c = '\x7d' then
      some ⟨.punctuator c, [c], rest, opened - 1⟩
    else if ['!', '$', ':', '=', '@', '|', '&'].contains c then
      some ⟨.punctuator c, [c], rest, opened⟩
    else if c = '.' then
      match rest with
      | '.' :: '.' :: after => some ⟨.spread, ['.', '.', '.'], after, opened⟩
      | _ => none
    else if isNameStart c then
      let lexeme := c :: rest.takeWhile isNameChar
      some ⟨.name (String.ofList lexeme), lexeme, rest.dropWhile isNameChar, opened⟩
    else if c = '-' || c.isDigit then
      let lexeme := c :: rest.takeWhile (fun d => !endsNumber d)
      (numberToken lexeme).map
        (fun token => ⟨token, lexeme, rest.dropWhile (fun d => !endsNumber d), opened⟩)
    else if c = '"' then
      match rest with
      | '"' :: '"' :: body =>
        (blockInside false body).map (fun (inside, after) =>
          ⟨.blockString, ['"', '"', '"'] ++ inside ++ ['"', '"', '"'], after, opened⟩)
      | _ =>
        (stringInside rest).map (fun (inside, after) =>
          ⟨.string inside, '"' :: inside ++ ['"'], after, opened⟩)
    else none

/-- The tokens of a text that starts at a place, at most `bound` of them. -/
def tokensFrom (bound : Nat) (place : Position) (opened : Nat) (text : List Char) : Tokens :=
  let (here, front) := skipIgnored false place text
  match bound, front with
  | _, [] => ⟨[], .endOfText here⟩
  | 0, _ => ⟨[], .noToken here⟩
  | bound + 1, front =>
    match scanToken opened front with
    | none => ⟨[], .noToken here⟩
    | some scanned =>
      let later := tokensFrom bound (here.behind scanned.lexeme) scanned.opened scanned.rest
      ⟨(here, scanned.token) :: later.rest, later.stop⟩

/-- The tokens of a text. Every token takes a character, so the length of
the text bounds their number. -/
def tokensOf (text : String) : Tokens :=
  tokensFrom text.toList.length .start 0 text.toList

end OperationModels.Graphql
