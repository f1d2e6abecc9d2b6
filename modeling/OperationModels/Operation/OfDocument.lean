-- The operation that a document offers. Fragments and directives have no
-- place in models: a definition of a fragment, a directive on a field and a
-- variable inside a literal are told, and a spread becomes an unsupported
-- selection.
import OperationModels.Failure
import OperationModels.Operation.Basic
import OperationModels.Text.Blank
import OperationModels.Warning

namespace OperationModels

open Graphql

/-! ## Values -/

mutual

/-- Does a value hold a variable, at any depth? -/
def Graphql.Value.holdsVariable : Value → Bool
  | .variable _ => true
  | .literal => false
  | .list items => Value.anyHolds items
  | .object entries => Value.anyEntryHolds entries

def Graphql.Value.anyHolds : List Value → Bool
  | [] => false
  | item :: rest => item.holdsVariable || Value.anyHolds rest

def Graphql.Value.anyEntryHolds : List (String × Value) → Bool
  | [] => false
  | (_, item) :: rest => item.holdsVariable || Value.anyEntryHolds rest

end

/-! ## Selections -/

/-- The arguments that are given a variable. -/
def bindingsOf (arguments : List (String × Value)) : List Binding :=
  arguments.filterMap (fun argument => match argument.2 with
    | .variable name => some ⟨argument.1, name⟩
    | _ => none)

/-- The arguments of a field whose literal hides a variable. -/
def nestedVariables (field : String) (arguments : List (String × Value)) : List Warning :=
  arguments.filterMap (fun argument => match argument.2 with
    | .variable _ => none
    | value => if value.holdsVariable then some (.nestedVariable argument.1 field) else none)

/-- A selection of a field under its key: a key of its own that is not its name renames it. -/
def SelectionTree.keyed (own : Option String) (field : String) (tree : SelectionTree) :
    SelectionTree :=
  match own with
  | some key => if key = field then tree else .rename key tree
  | none => tree

mutual

/-- The tree of a selection. -/
def SelectionTree.ofSelection : Selection → SelectionTree
  | .field own name arguments _ selections =>
    .keyed own name (.select name (bindingsOf arguments)
      (match selections with
        | [] => .nothing
        | first :: rest => .group (ofSelection first :: ofSelections rest)))
  | .spread fragment _ => .unsupported s!"fragment spread '...{fragment}'"
  | .inline (some type) _ _ => .unsupported s!"inline fragment on '{type}'"
  | .inline none _ _ => .unsupported "inline fragment"

def SelectionTree.ofSelections : List Selection → List SelectionTree
  | [] => []
  | first :: rest => ofSelection first :: ofSelections rest

end

mutual

/-- What is told of a selection: of each field its directives, then its
arguments, then the selections below it. -/
def selectionWarnings : Selection → List Warning
  | .field _ name arguments directives selections =>
    directives.map (fun directive => .directiveIgnored directive.name name) ++
      nestedVariables name arguments ++ selectionsWarnings selections
  | .spread .. => []
  | .inline .. => []

def selectionsWarnings : List Selection → List Warning
  | [] => []
  | first :: rest => selectionWarnings first ++ selectionsWarnings rest

end

/-! ## Operations -/

def Graphql.QueryDocument.operations (document : QueryDocument) : List OperationDefinition :=
  document.filterMap (fun item => match item with
    | .operation definition => some definition
    | .fragment _ => none)

/-- What is told of the fragments of a document. -/
def fragmentWarnings (document : QueryDocument) : List Warning :=
  document.filterMap (fun item => match item with
    | .operation _ => none
    | .fragment definition => some (.fragmentIgnored definition.name))

/-- The operation asked for: the first of that name, or the first of all if
no name is given. -/
def chooseOperation (operations : List OperationDefinition) (wanted : Option String) :
    Except Failure OperationDefinition :=
  match wanted with
  | some name =>
    match operations.find? (fun definition => definition.name = some name) with
    | some definition => .ok definition
    | none => .error (.noOperationNamed name)
  | none =>
    match operations with
    | first :: _ => .ok first
    | [] => .error .noOperation

/-- What is told of a choice without a name among several operations. -/
def choiceWarnings (operations : List OperationDefinition) (wanted : Option String) :
    List Warning :=
  match wanted, operations with
  | none, first :: _ :: _ => [.severalOperations operations.length first.name]
  | _, _ => []

namespace Operation

/-- An operation as written, with the text of its document. -/
def ofDefinition (definition : OperationDefinition) (source : String) : Operation where
  kind := definition.kind
  name := definition.name
  declarations := definition.declarations
  selection := .group (SelectionTree.ofSelections definition.selections)
  source := source

/-- The operation asked for, and what to tell of its document. -/
def ofDocument (document : QueryDocument) (wanted : Option String) (source : String) :
    Except Failure (Operation × List Warning) := do
  let definition ← chooseOperation document.operations wanted
  pure (ofDefinition definition source,
    fragmentWarnings document ++ choiceWarnings document.operations wanted ++
      selectionsWarnings definition.selections)

/-- The operation asked for in a document text. -/
def parse (text : String) (wanted : Option String) :
    Except Failure (Operation × List Warning) :=
  if Text.isAllBlank text then .error .missingDocument
  else
    match QueryDocument.parse text with
    | .ok document => ofDocument document wanted text
    | .error place => .error (.queryParse place)

end Operation

end OperationModels
