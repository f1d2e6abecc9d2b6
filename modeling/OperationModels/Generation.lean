-- One run: from the text of an operation document to the source of its
-- models. A run gives all of its results or fails without any.
import OperationModels.Model.Variables
import OperationModels.Operation.OfDocument
import OperationModels.SchemaLibrary
import OperationModels.Source.Render

namespace OperationModels

/-! ## Options -/

/-- Where the variables of an operation are taken from. By default they are
the declared ones, or the bound ones of an operation that declares none. -/
inductive VariableSource
  | auto
  | declared
  | bindings
deriving DecidableEq, Repr

namespace VariableSource

def parse? : String → Option VariableSource
  | "auto" => some .auto
  | "declared" => some .declared
  | "bindings" => some .bindings
  | _ => none

/-- What is told of a word that names no source. -/
def unknownMessage (word : String) : String :=
  s!"Unknown variable source '{word}' (expected auto, declared or bindings)"

/-- Are the declared variables of the operation taken? -/
def usesDeclared (source : VariableSource) (operation : Operation) : Bool :=
  match source with
  | .declared => true
  | .bindings => false
  | .auto => !operation.declarations.isEmpty

end VariableSource

/-- What a run is asked for. -/
structure GenerationOptions where
  operationName : Option String
  variableSource : VariableSource
  provided : Source.ProvidedDeclarations
deriving DecidableEq, Repr

/-! ## Runs -/

/-- What a run gives. -/
structure Generated where
  operation : Operation
  records : List Model.Record
  variableFields : List Model.Field
  source : String
  warnings : List Warning

/-- The variables of an operation, and what is told of them. -/
def variablesOf (naming : Model.Naming) (source : VariableSource) (operation : Operation)
    (root : SchemaType) : Except Failure Model.Bound :=
  if source.usesDeclared operation then
    .ok ⟨naming.declaredVariables operation.declarations, []⟩
  else naming.boundVariables operation.selection root

namespace LoadedSchema

/-- The type at which operations of a kind start. -/
def rootFor (loaded : LoadedSchema) (kind : OperationKind) : Except Failure SchemaType :=
  match loaded.schema.root? kind with
  | some name => .ok (.named name)
  | none => .error (.missingRootType kind)

def moduleOf (loaded : LoadedSchema) (options : GenerationOptions) (operation : Operation)
    (records : List Model.Record) (variableFields : List Model.Field) : Source.Module :=
  .ofModel operation records variableFields loaded.extras options.provided

/-- Make the models of an operation document. -/
def generate (loaded : LoadedSchema) (document : String) (options : GenerationOptions) :
    Except Failure Generated := do
  let (operation, told) ← Operation.parse document options.operationName
  let root ← loaded.rootFor operation.kind
  let response ← loaded.naming.resolve operation.selection root
  let bound ← variablesOf loaded.naming options.variableSource operation root
  pure
    { operation := operation
      records := response.records
      variableFields := bound.fields
      source := (loaded.moduleOf options operation response.records bound.fields).render
      warnings := loaded.warnings ++ told ++ response.warnings ++ bound.warnings }

/-! ## Events -/

/-- The events of a run: its operation, and at the end of a run that gives
models what was told of it beyond the schema. -/
def generationEvents (loaded : LoadedSchema) (document : String)
    (options : GenerationOptions) : List Log.Event :=
  match Operation.parse document options.operationName with
  | .error _ => []
  | .ok (operation, told) =>
    let kind := operation.kind.keyword
    [⟨.debug, "gqlmodel_core::query::document", "Converted operation document.",
        [("kind", kind), ("name", Text.shown operation.title),
          ("warnings", toString told.length)]⟩,
      ⟨.debug, "gqlmodel_core::generator", s!"Generating {kind} {operation.title}", []⟩] ++
    match loaded.generate document options with
    | .error _ => []
    | .ok generated =>
      (generated.warnings.drop loaded.warnings.length).map
        (fun warning => ⟨.warn, "gqlmodel_core::generator", warning.text, []⟩)

end LoadedSchema

end OperationModels
