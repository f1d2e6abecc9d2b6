-- What a run tells without failing. Each warning is a cause; its sentence is
-- worded in one place.
import OperationModels.Model.Basic
import OperationModels.OperationKind

namespace OperationModels

/-- What a warning is about. -/
inductive WarningKind
  | schema
  | query
  | selection
  | bindings
deriving DecidableEq, Repr

/-- The word for what a warning is about. -/
def WarningKind.label : WarningKind → String
  | .schema => "schema"
  | .query => "query"
  | .selection => "selection"
  | .bindings => "variables"

/-- A sentence behind the word for what it is about. -/
def WarningKind.tell (kind : WarningKind) (message : String) : String :=
  "[" ++ kind.label ++ "] " ++ message

/-- What a run met and passed over. -/
inductive Warning
  | duplicateType (name : String)
  | unknownExtension (name : String)
  | undefinedType (name parent field : String)
  | fragmentIgnored (name : String)
  | severalOperations (count : Nat) (first : Option String)
  | directiveIgnored (directive field : String)
  | nestedVariable (argument field : String)
  | unsupported (construct parent : String)
  | noSelection (parent field type : String)
  | variableConflict (name : String) (kept : Model.FieldType)
deriving DecidableEq, Repr

namespace Warning

def kind : Warning → WarningKind
  | .duplicateType _ | .unknownExtension _ | .undefinedType .. => .schema
  | .fragmentIgnored _ | .severalOperations .. | .directiveIgnored .. | .nestedVariable .. =>
    .query
  | .unsupported .. | .noSelection .. => .selection
  | .variableConflict .. => .bindings

def message : Warning → String
  | .duplicateType name => s!"Duplicate definition of type '{name}' ignored"
  | .unknownExtension name => s!"Extension of undefined type '{name}' ignored"
  | .undefinedType name parent field =>
    s!"Type '{name}' referenced by '{parent}.{field}' is not defined; treating it as a scalar"
  | .fragmentIgnored name =>
    s!"Fragment definition '{name}' ignored; fragments are not supported"
  | .severalOperations count first =>
    let used := first.getD anonymous
    s!"Document contains {count} operations; using the first ('{used}')"
  | .directiveIgnored directive field => s!"Directive '@{directive}' on field '{field}' ignored"
  | .nestedVariable argument field =>
    s!"Variables nested in the literal for argument '{argument}' of field '{field}' " ++
      "are not inferred"
  | .unsupported construct parent => s!"Unsupported selection {construct} on '{parent}' skipped"
  | .noSelection parent field type =>
    s!"Field '{parent}.{field}' of composite type '{type}' has no sub-selection"
  | .variableConflict name kept =>
    let type := kept.shown
    s!"Variable '${name}' is bound to arguments of different types; keeping {type}"

def text (warning : Warning) : String := warning.kind.tell warning.message

end Warning

end OperationModels
