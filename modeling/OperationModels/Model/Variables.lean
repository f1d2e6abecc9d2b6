-- The variables of an operation, from one of two sources: the types that the
-- operation declares, or the types of the arguments that are given them.
import OperationModels.Model.Records

namespace OperationModels.Model

/-! ## Declared variables -/

/-- The type of a declared variable in a model: a name is optional unless it
is marked non-null, and a list never is. -/
def Naming.declaredType (naming : Naming) : Graphql.TypeRef → FieldType
  | .named name => .optional (.named (naming.mapping.map name))
  | .list item => .list (naming.declaredType item)
  | .nonNull inner => (naming.declaredType inner).required

/-- The variables that an operation declares. -/
def Naming.declaredVariables (naming : Naming)
    (declared : List Graphql.VariableDeclaration) : List Field :=
  declared.map (fun declaration => ⟨declaration.name, naming.declaredType declaration.type⟩)

/-! ## Bound variables -/

/-- Variables in order of their first binding, and what is told of later ones. -/
structure Bound where
  fields : List Field
  warnings : List Warning
deriving DecidableEq, Repr

namespace Bound

def none : Bound := ⟨[], []⟩

/-- One more binding. The first binding of a variable counts; a later one of
another type is told. -/
def push (bound : Bound) (binding : Field) : Bound :=
  match bound.fields.find? (fun known => known.name = binding.name) with
  | .none => { bound with fields := bound.fields ++ [binding] }
  | some known =>
    if known.type = binding.type then bound
    else { bound with warnings := bound.warnings ++ [.variableConflict binding.name known.type] }

/-- The bindings of one part after those of another. What the second part
tells comes before the conflicts between the two. -/
def merge (first second : Bound) : Bound :=
  second.fields.foldl push { first with warnings := first.warnings ++ second.warnings }

end Bound

/-- The variable that a binding gives, with the type of the argument. -/
def Naming.bind (naming : Naming) (parent field : String)
    (signature : OrderedMap String SchemaType) (binding : Binding) : Except Failure Field :=
  match signature.get? binding.argument with
  | none => .error (.unboundArgument parent field binding.argument binding.name)
  | some declared =>
    match naming.typeOf? declared with
    | none => .error (.unresolvedField parent field (.untypedArgument binding.argument))
    | some type => .ok ⟨binding.name, type⟩

/-- The variables that the arguments of one field are given. -/
def Naming.bindAll (naming : Naming) (parent field : String)
    (signature : OrderedMap String SchemaType) (bindings : List Binding) :
    Except Failure (List Field) :=
  bindings.mapM (naming.bind parent field signature)

mutual

/-- The variables bound in a tree of selections on a type: those of a field
before those of the selections below it. -/
def Naming.collect (naming : Naming) (parent : String) : SelectionTree → Except Failure Bound
  | .select field bindings child =>
    match naming.schema.field? parent field with
    | none => .error (.unresolvedField parent field .noSuchField)
    | some definition => do
      let own ← naming.bindAll parent field definition.arguments bindings
      let bound := own.foldl Bound.push .none
      match definition.type.underlying? with
      | none => pure bound
      | some type =>
        if naming.schema.isComposite type then
          let below ← naming.collect type child
          pure (bound.merge below)
        else pure bound
  | .rename _ child => naming.collect parent child
  | .group members => naming.collectAll parent .none members
  | .nothing => pure .none
  | .unsupported _ => pure .none

/-- The variables bound in trees of selections, behind those known already. -/
def Naming.collectAll (naming : Naming) (parent : String) (known : Bound) :
    List SelectionTree → Except Failure Bound
  | [] => pure known
  | first :: rest => do
    let here ← naming.collect parent first
    naming.collectAll parent (known.merge here) rest

end

/-- The variables bound in a tree of selections on a root type. -/
def Naming.boundVariables (naming : Naming) (tree : SelectionTree) (root : SchemaType) :
    Except Failure Bound := do
  let name ← naming.rootType root
  naming.collect name tree

end OperationModels.Model
