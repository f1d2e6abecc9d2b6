-- Patterns: what the value of a field may be matched with. Only whether a
-- text is one matters, so it is read and nothing of it is kept. Classes are
-- written out or named by ASCII; a pattern that asks for more, such as the
-- letters or the words of a text, is refused like one that is not well formed.
import OperationModels.Text.Digits
import OperationModels.Text.Letters

namespace OperationModels.Log.Pattern

/-! ## Escapes -/

/-- What an escape stands for: a character, or an end of the text. -/
inductive Atom
  | char (c : Char)
  | anchor
deriving DecidableEq, Repr

/-- The character of a code point in so many hexadecimal digits, and what
follows them. -/
def hexChar? (count : Nat) (text : List Char) : Option (Atom × List Char) := do
  let n ← Text.hexValue? (text.take count)
  if count ≤ text.length && n < 0x110000 && !Text.isSurrogate n then
    some (.char (.ofNat n), text.drop count)
  else none

/-- What an escape stands for behind its backslash, and what follows it. A
sign of ASCII stands for itself, except for the two angles. -/
def escape? : List Char → Option (Atom × List Char)
  | [] => none
  | 'x' :: rest => hexChar? 2 rest
  | 'u' :: rest => hexChar? 4 rest
  | 'U' :: rest => hexChar? 8 rest
  | 'a' :: rest => some (.char '\x07', rest)
  | 'f' :: rest => some (.char '\x0c', rest)
  | 't' :: rest => some (.char '\t', rest)
  | 'n' :: rest => some (.char '\n', rest)
  | 'r' :: rest => some (.char '\r', rest)
  | 'v' :: rest => some (.char '\x0b', rest)
  | 'A' :: rest | 'z' :: rest => some (.anchor, rest)
  | c :: rest =>
    if Text.isAscii c && !c.isAlphanum && c ≠ '<' && c ≠ '>' then some (.char c, rest) else none

/-! ## Classes -/

/-- The classes that have a name. -/
def classNames : List String :=
  ["alnum", "alpha", "ascii", "blank", "cntrl", "digit", "graph", "lower", "print", "punct",
    "space", "upper", "word", "xdigit"]

/-- What follows a named class, whose opening bracket is taken. -/
def namedClass? : List Char → Option (List Char)
  | ':' :: text =>
    let inner := match text with
      | '^' :: rest => rest
      | _ => text
    match inner.dropWhile (· ≠ ':') with
    | ':' :: ']' :: after =>
      if classNames.contains (String.ofList (inner.takeWhile (· ≠ ':'))) then some after else none
    | _ => none
  | _ => none

/-- The items of a class behind its opening bracket: a caret denies them,
hyphens at the front are items, and so is a closing bracket that comes first. -/
def classItems (text : List Char) : List Char :=
  let inner := match text with
    | '^' :: rest => rest
    | _ => text
  match inner with
  | ']' :: rest => rest
  | _ => inner.dropWhile (· = '-')

/-- One item of a class, and what follows it. -/
def classItem? : List Char → Option (Atom × List Char)
  | [] => none
  | '\\' :: rest => escape? rest
  | c :: rest => some (.char c, rest)

/-- What follows one item of a class or a range of two. -/
def classRange? (text : List Char) : Option (List Char) :=
  match classItem? text with
  | some (.char first, '-' :: rest) =>
    if rest.head? = some ']' || rest.head? = some '-' then some ('-' :: rest)
    else
      match classItem? rest with
      | some (.char last, after) => if first ≤ last then some after else none
      | _ => none
  | some (.char _, rest) => some rest
  | _ => none

/-- What follows a class of which items are to come. `depth` counts the
classes that lie open around it. -/
def readClass : Nat → Nat → List Char → Option (List Char)
  | 0, _, _ => none
  | _, _, [] => none
  | bound + 1, depth, '[' :: rest =>
    match namedClass? rest with
    | some after => readClass bound depth after
    | none => readClass bound (depth + 1) (classItems rest)
  | bound + 1, depth, ']' :: rest =>
    match depth with
    | 0 => some rest
    | outer + 1 => readClass bound outer rest
  | bound + 1, depth, '&' :: '&' :: rest | bound + 1, depth, '-' :: '-' :: rest
  | bound + 1, depth, '~' :: '~' :: rest => readClass bound depth rest
  | bound + 1, depth, text => (classRange? text).bind (readClass bound depth)

/-! ## Groups -/

/-- What opens a group: flags alone, or a group that takes a pattern and may
have a name. -/
inductive Opening
  | flags
  | group (name : Option (List Char))
deriving DecidableEq, Repr

/-- The flags of a group, each once; some stand behind a hyphen. -/
def areFlags (text : List Char) : Bool :=
  text.all (['i', 'm', 's', 'U', 'u', 'R', 'x', '-'].contains ·) && text.Nodup &&
    text.getLast? ≠ some '-'

/-- May the text name a group? -/
def isGroupName : List Char → Bool
  | [] => false
  | first :: rest =>
    (first = '_' || Text.isAlphanumeric first && !first.isDigit) &&
      rest.all (fun c => Text.isAlphanumeric c || ['_', '.', '[', ']'].contains c)

/-- A group that is named behind an opening angle. -/
def namedGroup? (text : List Char) : Option (Opening × List Char) :=
  let name := text.takeWhile (· ≠ '>')
  match text.dropWhile (· ≠ '>') with
  | _ :: after => if isGroupName name then some (.group (some name), after) else none
  | [] => none

/-- What an opening parenthesis opens, and what follows that. -/
def opening? : List Char → Option (Opening × List Char)
  | '?' :: 'P' :: '<' :: rest | '?' :: '<' :: rest => namedGroup? rest
  | '?' :: rest =>
    let isEnd := fun c => c = ':' || c = ')'
    let flags := rest.takeWhile (fun c => !isEnd c)
    match rest.dropWhile (fun c => !isEnd c) with
    | ':' :: after => if areFlags flags then some (.group none, after) else none
    | _ :: after => if areFlags flags && !flags.isEmpty then some (.flags, after) else none
    | [] => none
  | text => some (.group none, text)

/-! ## Patterns -/

/-- A pattern on its way: the groups that are open, whether something that
may be repeated comes right before, and the names given. -/
structure Progress where
  depth : Nat
  operand : Bool
  names : List (List Char)
deriving DecidableEq, Repr

/-- Is the rest of a pattern well formed? A count between braces never is,
for no value holds the brace that closes it. -/
def readFrom : Nat → Progress → List Char → Bool
  | 0, _, _ => false
  | _, known, [] => known.depth = 0
  | bound + 1, known, '(' :: rest =>
    match opening? rest with
    | none => false
    | some (.flags, after) => readFrom bound { known with operand := false } after
    | some (.group none, after) =>
      readFrom bound { known with depth := known.depth + 1, operand := false } after
    | some (.group (some name), after) =>
      !known.names.contains name &&
        readFrom bound ⟨known.depth + 1, false, name :: known.names⟩ after
  | bound + 1, known, ')' :: rest =>
    known.depth ≠ 0 &&
      readFrom bound { known with depth := known.depth - 1, operand := true } rest
  | bound + 1, known, '|' :: rest => readFrom bound { known with operand := false } rest
  | bound + 1, known, '[' :: rest =>
    match readClass (rest.length + 1) 0 (classItems rest) with
    | some after => readFrom bound { known with operand := true } after
    | none => false
  | _ + 1, _, '\x7b' :: _ => false
  | bound + 1, known, '\\' :: rest =>
    match escape? rest with
    | some (_, after) => readFrom bound { known with operand := true } after
    | none => false
  | bound + 1, known, c :: rest =>
    if c = '*' || c = '+' || c = '?' then
      known.operand && readFrom bound known (if rest.head? = some '?' then rest.tail else rest)
    else readFrom bound { known with operand := true } rest

def isPattern (text : List Char) : Bool := readFrom (text.length + 1) ⟨0, false, []⟩ text

/-- Is the text a number, with or without a fraction and an exponent? -/
def isNumber (text : List Char) : Bool :=
  let unsigned := match text with
    | '+' :: rest | '-' :: rest => rest
    | _ => text
  let whole := unsigned.takeWhile Char.isDigit
  let (fraction, rest) := match unsigned.dropWhile Char.isDigit with
    | '.' :: rest => (rest.takeWhile Char.isDigit, rest.dropWhile Char.isDigit)
    | rest => ([], rest)
  let exponentOk := match rest with
    | [] => true
    | mark :: rest =>
      let digits := match rest with
        | '+' :: rest | '-' :: rest => rest
        | _ => rest
      (mark = 'e' || mark = 'E') && !digits.isEmpty && digits.all Char.isDigit
  ["inf", "infinity", "nan"].contains (String.ofList (unsigned.map Char.toLower)) ||
    !(whole ++ fraction).isEmpty && exponentOk

/-- May the text be matched with a value? A number is compared as such. -/
def isMatchable (text : String) : Bool := isNumber text.toList || isPattern text.toList

end OperationModels.Log.Pattern
