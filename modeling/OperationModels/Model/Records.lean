-- The records of a response: a walk over a tree of selections in step with
-- the schema. A record comes after the records below it, and the record of
-- the whole response comes last. A type with a name of its own in models is
-- taken as given: no record is made for it.
import OperationModels.Failure
import OperationModels.NameMapping
import OperationModels.Operation.Basic
import OperationModels.Schema.Basic
import OperationModels.Warning

namespace OperationModels.Model

/-- What names are read against: a schema, and its names in models. -/
structure Naming where
  schema : Schema
  mapping : NameMapping

/-- The name of the record that a type would get. -/
def recordName (type : String) : String := Text.capitalizeFirst type

namespace Naming

/-- The type of a field in a model; what the schema does not type has none. -/
def typeOf? (naming : Naming) : SchemaType → Option FieldType
  | .named name => some (.named (naming.mapping.map name))
  | .list item => (naming.typeOf? item).map .list
  | .nullable inner => (naming.typeOf? inner).map .optional
  | .untyped => none

/-- Is a record made for the selections on a type? Not if its name in models
is another one. -/
def makesRecord (naming : Naming) (type : String) : Bool :=
  naming.mapping.map type = recordName type

/-- The name of the type at which a walk starts, which must be composite. -/
def rootType (naming : Naming) (root : SchemaType) : Except Failure String :=
  let name := root.underlying?.getD "<none>"
  if naming.schema.isComposite name then .ok name
  else .error (.unresolvedField name "<root>" .rootNotComposite)

end Naming

/-! ## The walk -/

/-- What a part of a walk gives: the records closed in it, the fields that
its own record gets, and what is told. -/
structure Harvest where
  records : List Record
  fields : List Field
  warnings : List Warning
deriving DecidableEq, Repr

namespace Harvest

def none : Harvest := ⟨[], [], []⟩

def append (first second : Harvest) : Harvest :=
  ⟨first.records ++ second.records, first.fields ++ second.fields,
    first.warnings ++ second.warnings⟩

instance : Append Harvest := ⟨append⟩

/-- Every field under another name. -/
def rename (key : String) (harvest : Harvest) : Harvest :=
  { harvest with fields := harvest.fields.map (fun field => { field with name := key }) }

/-- Close the fields into the record of a type and leave the one field that
selects it. -/
def close (harvest : Harvest) (isRecord : Bool) (type : String) (field : Field) : Harvest :=
  { harvest with
    records := harvest.records ++ (if isRecord then [⟨recordName type, harvest.fields⟩] else [])
    fields := [field] }

end Harvest

/-- A field of a type and the name below its type. -/
structure Target where
  field : Field
  type : String
deriving DecidableEq, Repr

/-- The field of a type that a selection picks. -/
def Naming.target (naming : Naming) (parent field : String) : Except Failure Target :=
  let type := naming.schema.fieldType parent field
  match type.underlying? with
  | none => .error (.unresolvedField parent field .noSuchField)
  | some underlying =>
    match naming.typeOf? type with
    | none => .error (.unresolvedField parent field .untyped)
    | some resolved => .ok ⟨⟨field, resolved⟩, underlying⟩

mutual

/-- Walk a tree of selections on a type. -/
def Naming.walk (naming : Naming) (parent : String) : SelectionTree → Except Failure Harvest
  | .select field _ child => do
    let target ← naming.target parent field
    if naming.schema.isComposite target.type then
      let below ← naming.walk target.type child
      let told := if child.isNothing then
        [Warning.noSelection parent field target.type] else []
      let below := { below with warnings := below.warnings ++ told }
      pure (below.close (naming.makesRecord target.type) target.type target.field)
    else if child.isNothing then pure ⟨[], [target.field], []⟩
    else throw (.unresolvedField parent field (.leafWithSelection target.type))
  | .rename key child => do
    let harvest ← naming.walk parent child
    pure (harvest.rename key)
  | .group members => naming.walkAll parent members
  | .nothing => pure .none
  | .unsupported construct => pure ⟨[], [], [.unsupported construct parent]⟩

/-- Walk trees of selections on a type, one after the other. -/
def Naming.walkAll (naming : Naming) (parent : String) :
    List SelectionTree → Except Failure Harvest
  | [] => pure .none
  | first :: rest => do
    let here ← naming.walk parent first
    let later ← naming.walkAll parent rest
    pure (here ++ later)

end

/-! ## Responses -/

/-- The records of a response, and what is told of them. -/
structure Response where
  records : List Record
  warnings : List Warning
deriving DecidableEq, Repr

/-- The records of a tree of selections on a root type. -/
def Naming.resolve (naming : Naming) (tree : SelectionTree) (root : SchemaType) :
    Except Failure Response := do
  let name ← naming.rootType root
  let harvest ← naming.walk name tree
  pure ⟨harvest.records ++ [⟨dataRecord, harvest.fields⟩], harvest.warnings⟩

end OperationModels.Model
