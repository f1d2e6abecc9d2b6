-- Identifiers of the fields of a generated struct. A field is named in snake
-- case; what could not stand as an identifier is repaired, and a name that
-- is taken already gets a number.
import OperationModels.Text.SnakeCase

namespace OperationModels.Source

/-- Keywords that can be written as raw identifiers. -/
def rawKeywords : List String :=
  ["as", "async", "await", "break", "const", "continue", "dyn", "else", "enum", "extern",
    "false", "fn", "for", "gen", "if", "impl", "in", "let", "loop", "match", "mod", "move",
    "mut", "pub", "ref", "return", "static", "struct", "trait", "true", "try", "type",
    "unsafe", "use", "where", "while", "abstract", "become", "box", "do", "final", "macro",
    "override", "priv", "typeof", "unsized", "virtual", "yield"]

/-- Words that stand for themselves and have no raw form. -/
def reservedWords : List String := ["self", "Self", "super", "crate", "_"]

/-- What a raw identifier starts with. -/
def rawMark : String := "r#"

def startsWithDigit (text : String) : Bool := text.toList.head?.any Char.isDigit

/-- A snake case word made into an identifier: a word without a letter at its
front is led by `field_`, a reserved word gets an underscore, and a keyword
becomes a raw identifier. -/
def identOfWord (word : String) : String :=
  if word = "" || startsWithDigit word then "field_" ++ word
  else if reservedWords.contains word then word ++ "_"
  else if rawKeywords.contains word then rawMark ++ word
  else word

/-- The identifier of a field by its name on the wire. -/
def fieldIdent (wireName : String) : String := identOfWord (Text.snakeCase wireName)

/-- The identifier without its raw mark. -/
def bare (ident : String) : String :=
  match ident.toList with
  | 'r' :: '#' :: rest => String.ofList rest
  | _ => ident

/-- The candidate of a number for an identifier. -/
def numbered (ident : String) (n : Nat) : String := bare ident ++ "_" ++ toString n

/-- An identifier that is not taken: itself, or with the least number from
two on. One candidate more than there are taken names cannot all be taken. -/
def fresh (taken : List String) (ident : String) : String :=
  if taken.contains ident then
    match (List.range (taken.length + 1)).find?
        (fun k => !taken.contains (numbered ident (k + 2))) with
    | some k => numbered ident (k + 2)
    | none => numbered ident (taken.length + 2)
  else ident

/-- Identifiers made different one after the other, beside those taken. -/
def freshAll (taken : List String) : List String → List String
  | [] => []
  | ident :: rest =>
    fresh taken ident :: freshAll (fresh taken ident :: taken) rest

end OperationModels.Source
