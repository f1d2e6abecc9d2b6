-- What the two kinds of GraphQL documents share: type references, values,
-- arguments and directives.
import OperationModels.Graphql.Reader
import OperationModels.Text.Digits

namespace OperationModels.Graphql

/-- A type reference as written: a name, a list, or a type marked non-null. -/
inductive TypeRef
  | named (name : String)
  | list (item : TypeRef)
  | nonNull (inner : TypeRef)
deriving DecidableEq, Repr, Inhabited

/-- A value as written. What a literal holds makes no difference to a model,
so it is not kept. The entries of an object have different names. -/
inductive Value
  | variable (name : String)
  | literal
  | list (items : List Value)
  | object (entries : List (String × Value))

structure Directive where
  name : String
  arguments : List (String × Value)

/-- Put an entry into an object: it replaces an entry of the same name. -/
def Value.putEntry (name : String) (value : Value) (entries : List (String × Value)) :
    List (String × Value) :=
  entries.filter (fun entry => entry.1 ≠ name) ++ [(name, value)]

/-! ## Literals -/

/-- Four characters name a code point: hexadecimal digits, the first of which
may be a plus sign, of a code point that is no surrogate. -/
def isCodePoint (digits : List Char) : Bool :=
  let digits := if digits.head? = some '+' then digits.tail else digits
  !digits.isEmpty && (Text.hexValue? digits).any (fun n => !Text.isSurrogate n)

/-- Are all escapes inside a string known ones? -/
def escapesAreKnown : List Char → Bool
  | [] => true
  | '\\' :: 'u' :: a :: b :: c :: d :: rest => isCodePoint [a, b, c, d] && escapesAreKnown rest
  | '\\' :: c :: rest =>
    ['"', '\\', '/', 'b', 'f', 'n', 'r', 't'].contains c && escapesAreKnown rest
  | _ :: rest => escapesAreKnown rest

/-- The size of the least integer of 64 bits. The greatest is one less. -/
def int64Bound : Nat := 0x8000000000000000

/-- Does an integer fit into 64 bits? -/
def fitsInt64 (text : List Char) : Bool :=
  match text with
  | '-' :: digits => Text.decimalValue digits ≤ int64Bound
  | digits => Text.decimalValue digits < int64Bound

/-- Does the exponent of a decimal number, if it has one, have digits? -/
def hasExponentDigits (text : List Char) : Bool :=
  match splitLast ['e', 'E'] text with
  | some (_, exponent) => exponent.any Char.isDigit
  | none => true

/-- Is the token a literal? A name is one too: `true`, `null` or the value of
an enum. A number or a string that no value answers is refused. -/
def isLiteral : Token → Bool
  | .name _ => true
  | .int text => fitsInt64 text
  | .float text => hasExponentDigits text
  | .string inside => escapesAreKnown inside
  | .blockString => true
  | _ => false

/-! ## Readers -/

open Reader

/-- A type reference. `depth` bounds the brackets it may open. -/
def readTypeRef : Nat → Reader TypeRef
  | 0 => fail
  | depth + 1 => do
    let inner ←
      if ← accept (.punctuator '[') then
        let item ← readTypeRef depth
        punctuator ']'
        pure (.list item)
      else
        pure (.named (← name))
    if ← accept (.punctuator '!') then pure (.nonNull inner) else pure inner

/-- A value, in which variables are allowed or not. `depth` bounds the
brackets it may open. -/
def readValue (allowed : Bool) : Nat → Reader Value
  | 0 => fail
  | depth + 1 => do
    if (← take? (fun token => if isLiteral token then some () else none)).isSome then
      pure .literal
    else if ← accept (.punctuator '[') then
      pure (.list (← manyClosedBy ']' (readValue allowed depth)))
    else if ← accept (.punctuator '\x7b') then
      let entries ← manyClosedBy '\x7d' (do
        let key ← name
        punctuator ':'
        let value ← readValue allowed depth
        pure (key, value))
      pure (.object (entries.foldl (fun known entry => Value.putEntry entry.1 entry.2 known) []))
    else if allowed then
      punctuator '$'
      pure (.variable (← name))
    else fail

/-- No text opens more brackets than this. -/
def maxDepth : Nat := maxOpen + 1

def typeRef : Reader TypeRef := readTypeRef maxDepth

/-- A value that may hold variables. -/
def value : Reader Value := readValue true maxDepth

/-- A value without variables. -/
def constant : Reader Value := readValue false maxDepth

/-- Arguments in parentheses, if there are any. -/
def arguments : Reader (List (String × Value)) :=
  bracketed '(' ')' (do
    let key ← name
    punctuator ':'
    let argument ← value
    pure (key, argument))

/-- Directives, if there are any. -/
def directives : Reader (List Directive) :=
  many (do pure !(← nextIs (.punctuator '@'))) (do
    punctuator '@'
    let directive ← name
    pure ⟨directive, ← arguments⟩)

end OperationModels.Graphql
