-- The parts of a generated source module.
import OperationModels.Model.Basic

namespace OperationModels.Source

open Model

/-- One argument of a field's `serde` attribute. -/
inductive SerdeArgument
  | rename (wireName : String)
  | default
  | skipNone
deriving DecidableEq, Repr

structure StructField where
  ident : String
  type : FieldType
  serde : List SerdeArgument
deriving DecidableEq, Repr

/-- A struct with its one-line comment and its derived traits. -/
structure Struct where
  name : String
  doc : Option String
  derives : List String
  fields : List StructField
deriving DecidableEq, Repr

structure Constant where
  name : String
  doc : Option String
  value : String
deriving DecidableEq, Repr

/-- The direction of a binding: a response is decoded, a request encoded
under the name of its operation. -/
inductive BindingKind
  | decode
  | encode (operation : Option String)
deriving DecidableEq, Repr

/-- A block of one method on a struct. -/
structure MethodBlock where
  target : String
  kind : BindingKind
deriving DecidableEq, Repr

/-- A generated file. -/
structure Module where
  header : List String
  imports : List String
  constants : List Constant
  structs : List Struct
  methods : List MethodBlock
deriving DecidableEq, Repr

end OperationModels.Source
