-- The schema that a schema text defines. Definitions are taken in order: of
-- two definitions of a name the first counts, and an extension reaches the
-- definitions before it. What cannot be used is told and passed over.
import OperationModels.Failure
import OperationModels.Graphql.SchemaDocument
import OperationModels.Warning

namespace OperationModels

/-! ## Types of fields -/

/-- The type without its outermost nullable mark. -/
def SchemaType.nonNull : SchemaType → SchemaType
  | .nullable inner => inner
  | type => type

/-- The type that a reference names: every level is nullable unless it is
marked non-null. -/
def SchemaType.ofRef : Graphql.TypeRef → SchemaType
  | .named name => .nullable (.named name)
  | .list item => .nullable (.list (ofRef item))
  | .nonNull inner => (ofRef inner).nonNull

/-! ## Definitions -/

def FieldDefinition.ofDeclaration (declaration : Graphql.FieldDeclaration) :
    String × FieldDefinition :=
  (declaration.name,
    { type := .ofRef declaration.type
      arguments := .ofList (declaration.arguments.map
        (fun argument => (argument.1, .ofRef argument.2))) })

def TypeDefinition.ofDeclaration (declaration : Graphql.TypeDeclaration) : TypeDefinition where
  name := declaration.name
  kind := declaration.kind
  fields := .ofList (declaration.fields.map FieldDefinition.ofDeclaration)

namespace Schema

/-- A schema as far as its text is read. -/
structure Draft where
  schema : Schema
  roots : Option RootNames
  warnings : List Warning

def Draft.start : Draft := ⟨.builtIn, none, []⟩

/-- Take one definition into a draft. -/
def Draft.add (draft : Draft) (item : Graphql.SchemaItem) : Draft :=
  match item with
  | .roots names => { draft with roots := some names }
  | .type declaration =>
    match draft.schema.insert (.ofDeclaration declaration) with
    | (true, schema) => { draft with schema := schema }
    | (false, _) =>
      { draft with warnings := draft.warnings ++ [.duplicateType declaration.name] }
  | .extension declaration =>
    if draft.schema.defines declaration.name then
      { draft with
        schema := draft.schema.extend declaration.name
          (declaration.fields.map FieldDefinition.ofDeclaration) }
    else
      { draft with warnings := draft.warnings ++ [.unknownExtension declaration.name] }
  | .directive _ => draft

/-! ## References to types that are not defined -/

/-- A reference to a type: its name, and the field that has it. -/
structure Reference where
  name : String
  parent : String
  field : String
deriving DecidableEq, Repr

/-- References in order of their name, then of the type, then of the field. -/
def Reference.le (a b : Reference) : Bool :=
  a.name < b.name || (a.name = b.name &&
    (a.parent < b.parent || (a.parent = b.parent && (a.field < b.field || a.field = b.field))))

/-- The types named by the fields of a type and by their arguments. -/
def referencesOf (definition : TypeDefinition) : List Reference :=
  definition.fields.entries.flatMap (fun entry =>
    (entry.2.type :: entry.2.arguments.values).filterMap (fun type =>
      type.underlying?.map (fun name => ⟨name, definition.name, entry.1⟩)))

/-- The references to types that the schema does not define, in order and
each once. -/
def undefinedReferences (schema : Schema) : List Reference :=
  ((schema.types.flatMap referencesOf).filter
    (fun reference => !schema.defines reference.name)).eraseDups.mergeSort Reference.le

/-! ## Schemas -/

/-- The schema that the definitions of a text make, and what to tell of it. -/
def ofDocument (document : Graphql.SchemaDocument) : Schema × List Warning :=
  let draft := document.foldl Draft.add .start
  let schema := draft.schema.setRoots (draft.roots.getD draft.schema.rootNames)
  let missing := schema.undefinedReferences.map
    (fun reference => .undefinedType reference.name reference.parent reference.field)
  (schema, draft.warnings ++ missing)

/-- The schema of a text. The name of the schema is for the failure only. -/
def parse (name text : String) : Except Failure (Schema × List Warning) :=
  match Graphql.SchemaDocument.parse text with
  | .ok document => .ok (ofDocument document)
  | .error place => .error (.schemaParse name place)

end Schema

end OperationModels
