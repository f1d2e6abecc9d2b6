-- Operation documents: the operations and fragments of a document text.
-- A selection set is written with one selection or more.
import OperationModels.Graphql.Terms
import OperationModels.OperationKind

namespace OperationModels.Graphql

/-- A selection as written. A field without a selection set has no
selections. -/
inductive Selection
  | field (key : Option String) (name : String) (arguments : List (String × Value))
      (directives : List Directive) (selections : List Selection)
  | spread (fragment : String) (directives : List Directive)
  | inline (type : Option String) (directives : List Directive) (selections : List Selection)

structure VariableDeclaration where
  name : String
  type : TypeRef
deriving DecidableEq, Repr

/-- An operation as written. -/
structure OperationDefinition where
  kind : OperationKind
  name : Option String
  declarations : List VariableDeclaration
  directives : List Directive
  selections : List Selection

/-- A fragment as written. -/
structure FragmentDefinition where
  name : String
  type : String
  directives : List Directive
  selections : List Selection

/-- One definition of a document. -/
inductive QueryItem
  | operation (definition : OperationDefinition)
  | fragment (definition : FragmentDefinition)

/-- The definitions of a document, in order. -/
abbrev QueryDocument := List QueryItem

namespace QueryDocument

open Reader

/-! ## Selections -/

/-- A selection set. `depth` bounds the brackets it may open. -/
def readSelections : Nat → Reader (List Selection)
  | 0 => fail
  | depth + 1 => do
    punctuator '\x7b'
    someClosedBy '\x7d' (do
      if ← accept .spread then
        if ← accept (.name "on") then
          let type ← name
          let marks ← directives
          pure (.inline (some type) marks (← readSelections depth))
        else
          match ← name? with
          | some fragment => pure (.spread fragment (← directives))
          | none =>
            let marks ← directives
            pure (.inline none marks (← readSelections depth))
      else
        let first ← name
        let second ← (do
          if ← accept (.punctuator ':') then pure (some (← name)) else pure none)
        let given ← arguments
        let marks ← directives
        let children ← (do
          if ← nextIs (.punctuator '\x7b') then readSelections depth else pure [])
        match second with
        | some key => pure (.field (some first) key given marks children)
        | none => pure (.field none first given marks children))

def selections : Reader (List Selection) := readSelections maxDepth

/-! ## Definitions -/

def variableDeclaration : Reader VariableDeclaration := do
  punctuator '$'
  let key ← name
  punctuator ':'
  let type ← typeRef
  if ← accept (.punctuator '=') then
    let _ ← constant
  pure ⟨key, type⟩

/-- The kinds of operations by their keywords. -/
def kindOfKeyword? : String → Option OperationKind
  | "query" => some .query
  | "mutation" => some .mutation
  | "subscription" => some .subscription
  | _ => none

/-- An operation behind its keyword. -/
def operation (kind : OperationKind) : Reader OperationDefinition := do
  let key ← name?
  let declared ← bracketed '(' ')' variableDeclaration
  let marks ← directives
  pure ⟨kind, key, declared, marks, ← selections⟩

def fragment : Reader FragmentDefinition := do
  let key ← name
  keyword "on"
  let type ← name
  let marks ← directives
  pure ⟨key, type, marks, ← selections⟩

/-- One definition. A selection set alone is a query without a name. -/
def item : Reader QueryItem := do
  if ← nextIs (.punctuator '\x7b') then
    pure (.operation ⟨.query, none, [], [], ← selections⟩)
  else if ← accept (.name "fragment") then
    pure (.fragment (← fragment))
  else
    let kind ← take (fun token => match token with
      | .name text => kindOfKeyword? text
      | _ => none)
    pure (.operation (← operation kind))

/-- A document text: one definition or more. -/
def document : Reader QueryDocument := do
  let first ← item
  let others ← many atEnd item
  pure (first :: others)

/-- The definitions of a document text, or the place where reading fails. -/
def parse (text : String) : Except Position QueryDocument := document.run text

end QueryDocument

end OperationModels.Graphql
