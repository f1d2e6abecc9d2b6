-- The names that types refer to. Every type reference in a document has a GraphQL
-- name at its bottom. So the schema of a text refers to such names only, and each
-- field of a generated module is typed by what such a name is in models.
import OperationModels.Proofs.EarlierStructs
import OperationModels.Proofs.NormalSelections
import OperationModels.Proofs.WholeTypes

namespace OperationModels

open Graphql Model Source

/-! ## The names that documents refer to -/

namespace Graphql

open Reader

/-- The type reference has a GraphQL name at its bottom. -/
def TypeRef.IsNamed (reference : TypeRef) : Prop := isName reference.innermost = true

def FieldDeclaration.RefersToNames (field : FieldDeclaration) : Prop :=
  ∀ reference ∈ field.references, reference.IsNamed

/-- The fields that an item declares, if any, refer to GraphQL names. -/
def SchemaItem.RefersToNames : SchemaItem → Prop
  | .type declaration => ∀ field ∈ declaration.fields, field.RefersToNames
  | .extension declaration => ∀ field ∈ declaration.fields, field.RefersToNames
  | _ => True

/-- The types that an operation declares its variables with have GraphQL names. -/
def QueryItem.DeclaresNames : QueryItem → Prop
  | .operation definition => ∀ declaration ∈ definition.declarations, declaration.type.IsNamed
  | .fragment _ => True

theorem gives_readTypeRef (depth : Nat) : (readTypeRef depth).Gives TypeRef.IsNamed := by
  induction depth with
  | zero => exact gives_fail
  | succ depth ih =>
    have hmark : ∀ inner : TypeRef, inner.IsNamed → Gives (do
        if ← accept (.punctuator '!') then pure inner.nonNull else pure inner)
          TypeRef.IsNamed := by
      intro inner hinner
      refine (keeps_accept _).bind ?_
      intro found _
      split <;> exact gives_pure hinner
    rw [readTypeRef]
    refine (keeps_accept _).bind ?_
    intro opens _
    dsimp only
    split
    · exact ih.bind fun item hitem => (keeps_expect _).bind fun _ _ => hmark (.list item) hitem
    · exact gives_name.bind fun key hkey => hmark (.named key) hkey

theorem gives_typeRef : typeRef.Gives TypeRef.IsNamed := gives_readTypeRef maxDepth

namespace SchemaDocument

theorem gives_inputValue : inputValue.Gives (fun entry => entry.2.IsNamed) := by
  unfold inputValue
  refine keeps_description.bind fun _ _ => gives_name.bind fun key _ =>
    (keeps_expect _).bind fun _ _ => gives_typeRef.bind fun type htype =>
      (keeps_accept _).bind fun preset _ => ?_
  have hrest : Gives (do
      let _ ← directives
      pure (key, type)) (fun entry => entry.2.IsNamed) :=
    keeps_directives.bind fun _ _ => gives_pure htype
  dsimp only
  split
  · exact (keeps_readValue false maxDepth).bind fun _ _ => hrest
  · exact hrest

theorem gives_field : field.Gives FieldDeclaration.RefersToNames := by
  unfold field
  exact keeps_description.bind fun _ _ => gives_name.bind fun _ _ =>
    (gives_bracketed _ _ gives_inputValue).bind fun _ htaken => (keeps_expect _).bind fun _ _ =>
      gives_typeRef.bind fun _ hown => keeps_directives.bind fun _ _ =>
        gives_pure (List.forall_mem_cons.2 ⟨hown, List.forall_mem_map.2 htaken⟩)

theorem gives_fields :
    fields.Gives (fun fields => ∀ field ∈ fields, field.RefersToNames) :=
  gives_bracketed _ _ gives_field

theorem gives_inputFields_named :
    inputFields.Gives (fun fields => ∀ field ∈ fields, field.RefersToNames) := by
  refine (gives_bracketed _ _ gives_inputValue).bind fun entries hentries => gives_pure ?_
  intro field hfield
  obtain ⟨entry, hentry, rfl⟩ := List.mem_map.1 hfield
  exact List.forall_mem_singleton.2 (hentries entry hentry)

theorem gives_declaration_named (kind : TypeKind) : (declaration kind).Gives
    (fun declared => ∀ field ∈ declared.1.fields, field.RefersToNames) := by
  unfold declaration
  refine gives_name.bind ?_
  intro key _
  cases kind with
  | scalar => exact keeps_directives.bind fun _ _ => gives_pure (List.forall_mem_nil _)
  | object =>
    exact keeps_interfaces.bind fun _ _ => keeps_directives.bind fun _ _ =>
      gives_fields.bind fun _ hfields => gives_pure hfields
  | interface =>
    exact keeps_interfaces.bind fun _ _ => keeps_directives.bind fun _ _ =>
      gives_fields.bind fun _ hfields => gives_pure hfields
  | union =>
    exact keeps_directives.bind fun _ _ => keeps_members.bind fun _ _ =>
      gives_pure (List.forall_mem_nil _)
  | enum =>
    exact keeps_directives.bind fun _ _ => keeps_enumValues.bind fun _ _ =>
      gives_pure (List.forall_mem_nil _)
  | inputObject =>
    exact keeps_directives.bind fun _ _ => gives_inputFields_named.bind fun _ hfields =>
      gives_pure hfields

/-- The fields that a schema text declares refer to GraphQL names. -/
theorem refersToNames_of_parse {text : String} {document : SchemaDocument}
    (h : parse text = .ok document) : ∀ item ∈ document, SchemaItem.RefersToNames item := by
  refine forall_mem_of_parse (gives_item (fun _ => trivial) (fun _ => trivial) ?_) h
  intro kind
  exact (gives_declaration_named kind).imp fun _ hfields => ⟨hfields, hfields⟩

end SchemaDocument

namespace QueryDocument

theorem gives_variableDeclaration :
    variableDeclaration.Gives (fun declaration => declaration.type.IsNamed) := by
  unfold variableDeclaration
  refine (keeps_expect _).bind fun _ _ => gives_name.bind fun key _ =>
    (keeps_expect _).bind fun _ _ => gives_typeRef.bind fun type htype =>
      (keeps_accept _).bind fun preset _ => ?_
  dsimp only
  split
  · exact (keeps_readValue false maxDepth).bind fun _ _ => gives_pure htype
  · exact gives_pure htype

theorem gives_operation_named (kind : OperationKind) : (operation kind).Gives
    (fun definition => ∀ declaration ∈ definition.declarations, declaration.type.IsNamed) := by
  unfold operation
  exact (keeps_take? _).bind fun _ _ =>
    (gives_bracketed _ _ gives_variableDeclaration).bind fun _ hdeclared =>
      keeps_directives.bind fun _ _ => (gives_readSelections maxDepth).bind fun _ _ =>
        gives_pure hdeclared

/-- The operations of a document text declare their variables with GraphQL names. -/
theorem declaresNames_of_parse {text : String} {document : QueryDocument}
    (h : parse text = .ok document) : ∀ item ∈ document, QueryItem.DeclaresNames item := by
  refine forall_mem_of_parse (gives_item ?_ gives_operation_named (fun _ => trivial)) h
  exact (gives_readSelections maxDepth).imp fun _ _ => List.forall_mem_nil _

end QueryDocument

end Graphql

theorem Operation.isNamed_of_parse {text : String} {wanted : Option String}
    {operation : Operation} {told : List Warning}
    (h : Operation.parse text wanted = .ok (operation, told)) :
    ∀ declaration ∈ operation.declarations, declaration.type.IsNamed := by
  obtain ⟨document, definition, hparse, hchoose, rfl, -⟩ := Operation.parse_eq_ok h
  obtain ⟨before, after, hsplit, -, -⟩ := chooseOperation_eq_ok_iff.1 hchoose
  have hmem : definition ∈ document.operations := by
    rw [hsplit]
    exact List.mem_append_right before List.mem_cons_self
  exact QueryDocument.declaresNames_of_parse hparse _ (QueryDocument.mem_operations_iff.1 hmem)

/-! ## The names that a schema refers to -/

theorem SchemaType.underlying?_nonNull (type : SchemaType) :
    type.nonNull.underlying? = type.underlying? := by
  cases type <;> rfl

theorem SchemaType.underlying?_ofRef (reference : TypeRef) :
    (ofRef reference).underlying? = some reference.innermost := by
  induction reference with
  | named name => rfl
  | list item ih => exact ih
  | nonNull inner ih => rw [ofRef, underlying?_nonNull, ih, TypeRef.innermost]

namespace Schema

/-- The types of all fields and arguments have GraphQL names. -/
def RefersToNames (schema : Schema) : Prop :=
  ∀ type ∈ schema.fieldTypes, ∀ name, type.underlying? = some name → isName name = true

variable {schema : Schema}

theorem refersToNames_of_parse {name text : String} {told : List Warning}
    (h : parse name text = .ok (schema, told)) : schema.RefersToNames := by
  obtain ⟨document, hdocument, hmade⟩ := parse_eq_ok h
  cases hmade
  have hnamed := SchemaDocument.refersToNames_of_parse hdocument
  intro type htype known hknown
  obtain ⟨-, field, ⟨declaration, hitem, -, hfield⟩, reference, hreference, rfl⟩ :=
    (declaredIn_ofDocument document).exists_reference htype
  have hrefers : field.RefersToNames := by
    rcases hitem with hdefined | hextended
    · exact hnamed _ hdefined field hfield
    · exact hnamed _ hextended field hfield
  rw [SchemaType.underlying?_ofRef, Option.some.injEq] at hknown
  rw [← hknown]
  exact hrefers reference hreference

theorem RefersToNames.isName_of_typeBelow? (h : schema.RefersToNames) {parent field type : String}
    (htype : schema.typeBelow? parent field = some type) : isName type = true := by
  obtain ⟨definition, hfield, hunder⟩ := typeBelow?_eq_some_iff.1 htype
  rcases exists_mem_of_field?_eq_some hfield with ⟨-, rfl⟩ | ⟨known, hknown, -, hentry⟩
  · cases hunder
    decide
  · exact h definition.type (mem_fieldTypes_iff.2 ⟨known, hknown, _, hentry, .inl rfl⟩) type hunder

theorem RefersToNames.isName_of_typeAt? (h : schema.RefersToNames) {root field type : String}
    {inside : List String} (htype : schema.typeAt? root (inside ++ [field]) = some type) :
    isName type = true := by
  unfold typeAt? at htype
  rw [List.foldlM_append] at htype
  obtain ⟨parent, -, hlast⟩ := Option.bind_eq_some_iff.1 htype
  have hbelow : schema.typeBelow? parent field = some type := by simpa using hlast
  exact h.isName_of_typeBelow? hbelow

theorem RefersToNames.isName_of_argumentAt? (h : schema.RefersToNames) {root type : String}
    {given : GivenArgument} {declared : SchemaType}
    (hdeclared : schema.argumentAt? root given = some declared)
    (htype : declared.underlying? = some type) : isName type = true := by
  obtain ⟨parent, -, hrest⟩ := Option.bind_eq_some_iff.1 hdeclared
  obtain ⟨definition, hfield, hargument⟩ := Option.bind_eq_some_iff.1 hrest
  rcases exists_mem_of_field?_eq_some hfield with ⟨-, rfl⟩ | ⟨known, hknown, -, hentry⟩
  · -- the field that every composite type has takes no arguments
    cases hargument
  · refine h declared ?_ type htype
    exact mem_fieldTypes_iff.2 ⟨known, hknown, _, hentry,
      .inr ⟨_, OrderedMap.mem_of_get?_eq_some hargument, rfl⟩⟩

end Schema

/-! ## The types of a module -/

namespace LoadedSchema

variable {loaded : LoadedSchema} {document : String} {options : GenerationOptions}
  {generated : Generated} {struct : Struct} {field : StructField}

/-- A variable is typed by a GraphQL name, whether it is declared or bound. -/
theorem VariablesNamed.exists_isName (hschema : loaded.schema.RefersToNames)
    {operation : Operation} {root : String} {fields : List StructField}
    (h : loaded.VariablesNamed options operation root fields)
    (hdeclared : ∀ declaration ∈ operation.declarations, declaration.type.IsNamed)
    (hfield : field ∈ fields) :
    ∃ type, isName type = true ∧ field.type.innermost = loaded.mapping.map type := by
  by_cases hsource : options.variableSource.usesDeclared operation = true
  · obtain ⟨declaration, hmem, hname⟩ := exists_of_mem_forall₂ (h.declared hsource).flip hfield
    exact ⟨_, hdeclared declaration hmem, hname⟩
  · rw [Bool.not_eq_true] at hsource
    obtain ⟨type, ⟨given, declared, -, hat, htype⟩, hname⟩ := h.bound hsource field hfield
    exact ⟨type, hschema.isName_of_argumentAt? hat htype, hname⟩

/-- The root of a run is where its selections start. -/
theorem Generates.rootType {root : String} {response : Response} {bound : Bound}
    (h : loaded.Generates document options generated root response bound) :
    loaded.naming.rootType (.named root) = .ok root := by
  obtain ⟨start, hstart, -⟩ := Naming.resolve_eq_ok.1 h.resolved
  obtain ⟨rfl, -⟩ := Naming.rootType_eq_ok.1 hstart
  exact hstart

/-- At the bottom of the type of a field is the name in models of a GraphQL name. -/
theorem exists_isName_of_mem_structs (hschema : loaded.schema.RefersToNames)
    (h : loaded.generate document options = .ok generated)
    (hstruct : struct ∈ (loaded.moduleOf options generated.operation generated.records
      generated.variableFields).structs) (hfield : field ∈ struct.fields) :
    ∃ type, isName type = true ∧ field.type.innermost = loaded.mapping.map type := by
  obtain ⟨root, response, bound, hrun⟩ := generates_of_generate h
  obtain ⟨harvest, hwalk, hrecords⟩ := hrun.exists_walk
  unfold moduleOf at hstruct
  rw [structs_ofModel, List.mem_append] at hstruct
  rcases hstruct with hresponse | hvariables
  · rw [hrecords] at hresponse
    obtain ⟨set, -, -, hfields⟩ := exists_of_mem_forall₂ (Naming.structFor_recordStructs hwalk
      loaded.extras options.provided generated.operation).flip hresponse
    obtain ⟨pick, -, type, hleads⟩ := exists_of_mem_forall₂ hfields.flip hfield
    exact ⟨type, hschema.isName_of_typeAt? hleads.2.1, hleads.2.2⟩
  · split at hvariables
    · cases hvariables
    · cases List.mem_singleton.1 hvariables
      obtain ⟨told, hparsed⟩ := hrun.parsed
      have hnamed := variablesNamed_of_variablesOf hrun.rootType hrun.bindings
      rw [← hrun.variableFields] at hnamed
      exact hnamed.exists_isName hschema (Operation.isNamed_of_parse hparsed) hfield

end LoadedSchema

end OperationModels
