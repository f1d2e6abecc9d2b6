-- The type graph of a schema. The five built-in scalars always come first,
-- every name stands once, and the first definition of a name is the one
-- that counts. A root name counts only if the schema defines it.
import OperationModels.OperationKind
import OperationModels.OrderedMap

namespace OperationModels

/-! ## Types of fields -/

/-- The type of a field or argument. A type is non-null unless `nullable`
stands around it; `untyped` is the type of what the schema does not know. -/
inductive SchemaType
  | named (name : String)
  | list (item : SchemaType)
  | nullable (inner : SchemaType)
  | untyped
deriving DecidableEq, Repr, Inhabited

/-- The name below all lists and nullable marks. -/
def SchemaType.underlying? : SchemaType → Option String
  | .named name => some name
  | .list item => item.underlying?
  | .nullable inner => inner.underlying?
  | .untyped => none

/-! ## Type definitions -/

inductive TypeKind
  | object
  | interface
  | union
  | enum
  | scalar
  | inputObject
deriving DecidableEq, Repr

/-- The kinds whose values have a selection of fields. -/
def TypeKind.isComposite : TypeKind → Bool
  | .object | .interface | .union => true
  | .enum | .scalar | .inputObject => false

/-- The type of a field and the types of its arguments. -/
structure FieldDefinition where
  type : SchemaType
  arguments : OrderedMap String SchemaType
deriving DecidableEq

/-- A named type with its fields. -/
structure TypeDefinition where
  name : String
  kind : TypeKind
  fields : OrderedMap String FieldDefinition
deriving DecidableEq

/-- The same type with more fields; a field of a known name takes its place. -/
def TypeDefinition.extend (definition : TypeDefinition)
    (fields : List (String × FieldDefinition)) : TypeDefinition :=
  { definition with fields := definition.fields.insertAll fields }

/-! ## Schemas -/

/-- The names of the types at which operations start. -/
structure RootNames where
  query : Option String
  mutation : Option String
  subscription : Option String
deriving DecidableEq, Repr

namespace RootNames

/-- The names that count while a schema gives none. -/
def standard : RootNames := ⟨some "Query", some "Mutation", some "Subscription"⟩

def of (names : RootNames) : OperationKind → Option String
  | .query => names.query
  | .mutation => names.mutation
  | .subscription => names.subscription

end RootNames

def builtInScalars : List String := ["Int", "Float", "String", "Boolean", "ID"]

/-- The types of a schema, each name once, and the names of its roots. -/
structure Schema where
  types : List TypeDefinition
  rootNames : RootNames
  distinct : (types.map TypeDefinition.name).Nodup

namespace Schema

def builtIn : Schema where
  types := builtInScalars.map (fun name => ⟨name, .scalar, .empty⟩)
  rootNames := .standard
  distinct := by decide

def get? (schema : Schema) (name : String) : Option TypeDefinition :=
  schema.types.find? (fun definition => definition.name = name)

def defines (schema : Schema) (name : String) : Bool := (schema.get? name).isSome

def kindOf? (schema : Schema) (name : String) : Option TypeKind :=
  (schema.get? name).map TypeDefinition.kind

/-- Is the name that of a type whose values have a selection of fields? -/
def isComposite (schema : Schema) (name : String) : Bool :=
  (schema.kindOf? name).any TypeKind.isComposite

theorem not_mem_names_of_not_defines {schema : Schema} {name : String}
    (unknown : schema.defines name = false) : name ∉ schema.types.map TypeDefinition.name := by
  intro known
  obtain ⟨definition, inside, same⟩ := List.mem_map.1 known
  have none : schema.get? name = none := by simpa [defines] using unknown
  have differs := List.find?_eq_none.1 none definition inside
  simp [same] at differs

/-- Add a definition whose name is new. Tells whether it was; a definition of
a known name changes nothing. -/
def insert (schema : Schema) (definition : TypeDefinition) : Bool × Schema :=
  if unknown : schema.defines definition.name = false then
    (true,
      { schema with
        types := schema.types ++ [definition]
        distinct := by
          rw [List.map_append]
          refine List.nodup_append.2 ⟨schema.distinct, by simp, ?_⟩
          intro a inside b last same
          simp only [List.map_cons, List.map_nil, List.mem_singleton] at last
          exact not_mem_names_of_not_defines unknown (last ▸ same ▸ inside) })
  else (false, schema)

/-- Name the roots anew. -/
def setRoots (schema : Schema) (names : RootNames) : Schema :=
  { schema with rootNames := names }

/-- Extend the type of a name by fields, if the schema defines it. -/
def extend (schema : Schema) (name : String) (fields : List (String × FieldDefinition)) :
    Schema :=
  { schema with
    types := schema.types.map
      (fun definition => if definition.name = name then definition.extend fields else definition)
    distinct := by
      have same : (schema.types.map (fun definition =>
          if definition.name = name then definition.extend fields else definition)).map
            TypeDefinition.name = schema.types.map TypeDefinition.name := by
        rw [List.map_map]
        refine List.map_congr_left (fun definition _ => ?_)
        by_cases known : definition.name = name <;>
          simp [Function.comp, known, TypeDefinition.extend]
      rw [same]
      exact schema.distinct }

/-- The type at which operations of a kind start: the root name of the kind,
if the schema defines it. -/
def root? (schema : Schema) (kind : OperationKind) : Option String :=
  (schema.rootNames.of kind).filter schema.defines

/-- The field that every composite type has without defining it. -/
def typeNameField : String := "__typename"

def field? (schema : Schema) (parent field : String) : Option FieldDefinition :=
  (schema.get? parent).bind (fun definition =>
    if field = typeNameField && definition.kind.isComposite then
      some ⟨.named "String", .empty⟩
    else definition.fields.get? field)

/-- The type of a field; an unknown field is untyped. -/
def fieldType (schema : Schema) (parent field : String) : SchemaType :=
  ((schema.field? parent field).map FieldDefinition.type).getD .untyped

end Schema

end OperationModels
