-- The source module of an operation: its document as a constant, a struct
-- for every record and one for the variables, and the methods that decode a
-- response and encode a request. What the destination already declares is
-- left out.
import OperationModels.Operation.Basic
import OperationModels.Source.Basic
import OperationModels.Source.Ident
import OperationModels.Text.Blank

namespace OperationModels.Source

open Model

/-! ## What shapes a module -/

/-- What the destination already has of a top-level struct: the struct, and
its method. -/
structure Provided where
  struct : Bool
  method : Bool
deriving DecidableEq, Repr

/-- What the destination already declares. -/
structure ProvidedDeclarations where
  response : Provided
  request : Provided
  records : List String
deriving DecidableEq, Repr

def ProvidedDeclarations.none : ProvidedDeclarations :=
  ⟨⟨false, false⟩, ⟨false, false⟩, []⟩

/-- Imports and derived traits for every file of a schema. -/
structure Extras where
  imports : List String
  derives : List String
deriving DecidableEq, Repr

/-! ## Structs -/

/-- The attribute that gives a field its name on the wire, where the
identifier alone would not. -/
def renameFor (ident wireName : String) : List SerdeArgument :=
  if bare ident = wireName then [] else [.rename wireName]

/-- The name under which a field stands on the wire. -/
def StructField.wireName (field : StructField) : String :=
  (field.serde.findSome? (fun argument => match argument with
    | .rename name => some name
    | _ => none)).getD (bare field.ident)

/-- Fields of a struct under different identifiers, each made of the name that
the field has on the wire. `ifAbsent` is how an optional field stands for an
absent one. -/
def structFieldsBy (identOf : String → String) (ifAbsent : SerdeArgument)
    (fields : List Field) : List StructField :=
  let idents := freshAll [] (fields.map (fun field => identOf field.name))
  List.zipWith (fun (field : Field) ident =>
    { ident := ident
      type := field.type
      serde := renameFor ident field.name ++ if field.type.isOptional then [ifAbsent] else [] })
    fields idents

/-- Fields of a struct that are named in snake case. -/
def structFields (ifAbsent : SerdeArgument) (fields : List Field) : List StructField :=
  structFieldsBy fieldIdent ifAbsent fields

/-- The traits that every struct derives. -/
def baseDerives : List String := ["Debug", "Clone", "PartialEq"]

/-- The derived traits of a struct, each once. -/
def derivesWith (direction : String) (extra : List String) : List String :=
  extra.foldl (fun known derive => if known.contains derive then known else known ++ [derive])
    (baseDerives ++ [direction])

def structOfRecord (extras : Extras) (doc : Option String) (record : Record) : Struct where
  name := record.name
  doc := doc
  derives := derivesWith "Deserialize" extras.derives
  fields := structFields .default record.fields

def responseDoc (operation : Operation) : String :=
  match operation.name with
  | some name => s!"Response data of `{name}`."
  | none => "Response data."

def variablesDoc (operation : Operation) : String :=
  match operation.name with
  | some name => s!"Variables of `{name}`."
  | none => "Operation variables."

def structOfVariables (extras : Extras) (operation : Operation) (variableFields : List Field) :
    Struct where
  name := variablesRecord
  doc := some (variablesDoc operation)
  derives := derivesWith "Serialize" extras.derives
  fields := structFields .skipNone variableFields

/-- The structs of the records, of which the last is the response itself. -/
def recordStructs (extras : Extras) (provided : ProvidedDeclarations) (operation : Operation)
    (records : List Record) : List Struct :=
  let nested := records.dropLast.filter (fun record => !provided.records.contains record.name)
  nested.map (structOfRecord extras none) ++
    if provided.response.struct then [] else
      records.getLast?.toList.map (structOfRecord extras (some (responseDoc operation)))

/-! ## Imports -/

/-- An import path however it is written: with or without the keyword, the
semicolon and blanks around it. -/
def importPath (line : String) : String :=
  let trimmed := (Text.trim line).toList
  let path := if ['u', 's', 'e', ' '].isPrefixOf trimmed then trimmed.drop 4 else trimmed
  Text.trim (String.ofList (Text.dropEnd (· = ';') path))

/-- The import that decoding and encoding need. -/
def serdeImport (decodes encodes : Bool) : List String :=
  match decodes, encodes with
  | true, true => ["serde::\x7bDeserialize, Serialize\x7d"]
  | true, false => ["serde::Deserialize"]
  | false, true => ["serde::Serialize"]
  | false, false => []

/-- The import lines of a module, each once. -/
def importLines (decodes encodes : Bool) (extra : List String) : List String :=
  (serdeImport decodes encodes ++ extra.map importPath).eraseDups.map
    (fun path => "use " ++ path ++ ";")

/-! ## Modules -/

def operationConstant (operation : Operation) : Constant where
  name := "OPERATION"
  doc := some "Operation document sent as `query`."
  value := operation.source

/-- The comment at the head of a module. -/
def headerLines (operation : Operation) : List String :=
  let kind := operation.kind.keyword
  let subject := match operation.name with
    | some name => s!"{kind} `{name}`"
    | none => s!"anonymous {kind}"
  [s!"Generated by gqlmodel from {subject}.", "Do not edit by hand."]

/-- The module of an operation with its records and variables. -/
def Module.ofModel (operation : Operation) (records : List Record) (variableFields : List Field)
    (extras : Extras) (provided : ProvidedDeclarations) : Module :=
  let responses := recordStructs extras provided operation records
  let encodes := !provided.request.struct
  { header := headerLines operation
    imports := importLines (!responses.isEmpty) encodes extras.imports
    constants := [operationConstant operation]
    structs := responses ++
      if encodes then [structOfVariables extras operation variableFields] else []
    methods :=
      (if provided.response.method then [] else [⟨dataRecord, .decode⟩]) ++
      (if provided.request.method then [] else [⟨variablesRecord, .encode operation.name⟩]) }

end OperationModels.Source
