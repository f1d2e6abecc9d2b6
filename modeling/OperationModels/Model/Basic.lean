-- What a model is made of: records of named and typed fields.
import OperationModels.Text.Shown

namespace OperationModels.Model

/-- The type of a field of a model, by its name in models. -/
inductive FieldType
  | named (name : String)
  | list (item : FieldType)
  | optional (inner : FieldType)
deriving DecidableEq, Repr, Inhabited

namespace FieldType

/-- May the field be absent? -/
def isOptional : FieldType → Bool
  | .optional _ => true
  | _ => false

/-- The type without its outermost optional mark. -/
def required : FieldType → FieldType
  | .optional inner => inner
  | type => type

/-- The name below all lists and optional marks. -/
def innermost : FieldType → String
  | .named name => name
  | .list item => item.innermost
  | .optional inner => inner.innermost

/-- The type as a warning shows it. -/
def shown : FieldType → String
  | .named name => "Named(" ++ Text.shown name ++ ")"
  | .list item => "List(" ++ item.shown ++ ")"
  | .optional inner => "Optional(" ++ inner.shown ++ ")"

end FieldType

/-- A field of a record, or a variable of an operation. -/
structure Field where
  name : String
  type : FieldType
deriving DecidableEq, Repr

/-- A named record with its fields in order. -/
structure Record where
  name : String
  fields : List Field
deriving DecidableEq, Repr

/-- The record of the top level of a response. -/
def dataRecord : String := "Data"

/-- The record of the variables of an operation. -/
def variablesRecord : String := "Variables"

end OperationModels.Model
