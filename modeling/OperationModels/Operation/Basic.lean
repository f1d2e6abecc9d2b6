-- An operation as models are made of it: its kind, its name, its variables
-- and the tree of its selections.
import OperationModels.Graphql.QueryDocument

namespace OperationModels

/-- A variable given to an argument. -/
structure Binding where
  argument : String
  name : String
deriving DecidableEq, Repr

/-- A tree of selections. `select` picks a field, with the variables given
to its arguments and the selections below it; `rename` gives what its child
picks another name; `group` holds selections in order; `nothing` picks
nothing; `unsupported` stands for a construct that no model answers. -/
inductive SelectionTree
  | select (field : String) (bindings : List Binding) (child : SelectionTree)
  | rename (key : String) (child : SelectionTree)
  | group (members : List SelectionTree)
  | nothing
  | unsupported (construct : String)
deriving Repr, Inhabited

/-- Does the tree pick nothing by itself? -/
def SelectionTree.isNothing : SelectionTree → Bool
  | .nothing => true
  | _ => false

/-- One operation of a document, with the text of the document. -/
structure Operation where
  kind : OperationKind
  name : Option String
  declarations : List Graphql.VariableDeclaration
  selection : SelectionTree
  source : String
deriving Repr

/-- The name of the operation as it is told. -/
def Operation.title (operation : Operation) : String := operation.name.getD anonymous

end OperationModels
