-- What makes a run fail. Each failure is a cause; its sentence is worded in
-- one place, by a function of the words that it fills in.
import OperationModels.Files.Fault
import OperationModels.Files.Path
import OperationModels.Graphql.Token
import OperationModels.OperationKind

namespace OperationModels

/-! ## Sentences -/

namespace Sentence

/-- A schema that is in none of the folders searched. -/
def schemaNotFound (name : String) (searched : List String) : String :=
  let folders := if searched.isEmpty then "no directories" else ", ".intercalate searched
  s!"Schema '{name}' not found (searched: {folders})"

/-- A schema text that cannot be read. -/
def schemaParse (name detail : String) : String :=
  s!"Failed to parse schema '{name}': {detail}"

/-- A document text that cannot be read, or lacks the operation asked for. -/
def queryParse (detail : String) : String :=
  s!"Failed to parse operation document: {detail}"

/-- A selection that the schema does not answer. -/
def unresolvedField (parent field reason : String) : String :=
  s!"Cannot resolve field '{field}' on type '{parent}': {reason}"

/-- A variable bound to an argument that its field does not have. -/
def unboundArgument (parent field argument name : String) : String :=
  s!"Field '{parent}.{field}' has no argument '{argument}' (bound to variable '${name}')"

/-- A metadata text that cannot be read, with what is known of the reason. -/
def metadataParse (path : String) (detail : Option String) : String :=
  match detail with
  | some reason => s!"Failed to parse metadata {path}: {reason}"
  | none => s!"Failed to parse metadata {path}"

/-- An operation document that is not there. -/
def missingDocument (reason : String) : String :=
  s!"Operation document is missing: {reason}"

/-- A kind of operation that the schema does not offer. -/
def missingRootType (kind : String) : String :=
  s!"Schema has no root type for {kind} operations"

/-- A file that cannot be read. -/
def unreadable (path reason : String) : String := s!"Failed to read {path}: {reason}"

/-- A text in which reading fails at a place. -/
def parseError (subject : String) (place : Graphql.Position) : String :=
  s!"{subject} parse error: Parse error at {place.line}:{place.column}"

end Sentence

/-! ## Causes -/

/-- Why a selection is not answered. -/
inductive FieldFault
  | rootNotComposite
  | noSuchField
  | untyped
  | leafWithSelection (type : String)
  | untypedArgument (argument : String)
deriving DecidableEq, Repr

def FieldFault.reason : FieldFault → String
  | .rootNotComposite => "the root type is not an object type"
  | .noSuchField => "the type has no such field"
  | .untyped => "the field type is unresolved"
  | .leafWithSelection type => s!"'{type}' is a leaf type and cannot have a sub-selection"
  | .untypedArgument argument => s!"argument '{argument}' has no type"

/-- Why a run ended without a result. -/
inductive Failure
  | schemaNotFound (name : String) (searched : List Files.Path)
  | schemaParse (name : String) (place : Graphql.Position)
  | queryParse (place : Graphql.Position)
  | noOperation
  | noOperationNamed (name : String)
  | unresolvedField (parent field : String) (fault : FieldFault)
  | unboundArgument (parent field argument name : String)
  | metadataParse (path : Files.Path)
  | missingDocument
  | missingRootType (kind : OperationKind)
  | unreadable (path : Files.Path) (fault : Files.Fault)
deriving DecidableEq, Repr

def Failure.message : Failure → String
  | .schemaNotFound name searched => Sentence.schemaNotFound name (searched.map Files.Path.text)
  | .schemaParse name place => Sentence.schemaParse name (Sentence.parseError "schema" place)
  | .queryParse place => Sentence.queryParse (Sentence.parseError "query" place)
  | .noOperation => Sentence.queryParse "document contains no operation"
  | .noOperationNamed name =>
    Sentence.queryParse s!"document contains no operation named '{name}'"
  | .unresolvedField parent field fault => Sentence.unresolvedField parent field fault.reason
  | .unboundArgument parent field argument name =>
    Sentence.unboundArgument parent field argument name
  | .metadataParse path => Sentence.metadataParse path.text none
  | .missingDocument => Sentence.missingDocument "the operation document is empty"
  | .missingRootType kind => Sentence.missingRootType kind.keyword
  | .unreadable path fault => Sentence.unreadable path.text fault.message

end OperationModels
