-- Types that are whole. A type made from a reference of a schema text always
-- has a name at its bottom, and no nullable mark of it stands right around
-- another one. So two failures that a run is prepared for never come up: a
-- field without a type and, with the schema of a text, an argument without one.
import OperationModels.Generation
import OperationModels.Proofs.DefinedTypes
import OperationModels.Proofs.FaultyFields
import OperationModels.Proofs.UndeclaredArguments

namespace OperationModels

open Graphql Model

/-! ## Whole types -/

namespace SchemaType

/-- The type with all types inside it, outermost first. -/
def parts : SchemaType → List SchemaType
  | .named name => [.named name]
  | .list item => .list item :: item.parts
  | .nullable inner => .nullable inner :: inner.parts
  | .untyped => [.untyped]

/-- A type with a name below its lists and marks: nothing in it is untyped, and
no nullable mark in it stands right around another. -/
structure IsWhole (type : SchemaType) : Prop where
  named : ∃ name, type.underlying? = some name
  typed : .untyped ∉ type.parts
  once : ∀ inner, .nullable (.nullable inner) ∉ type.parts

variable {type item inner : SchemaType}

theorem IsWhole.list (h : item.IsWhole) : (list item).IsWhole where
  named := h.named
  typed := by simp [parts, h.typed]
  once := by simp [parts, h.once]

theorem IsWhole.nullable (h : inner.IsWhole) (hbare : ∀ deeper, inner ≠ .nullable deeper) :
    (nullable inner).IsWhole where
  named := h.named
  typed := by simp [parts, h.typed]
  once := by
    intro deeper hmem
    rcases List.mem_cons.1 hmem with hsame | hinner
    · rw [nullable.injEq] at hsame
      exact hbare deeper hsame.symm
    · exact h.once deeper hinner

/-- To strip the outermost mark leaves a whole type whole. -/
theorem IsWhole.nonNull (h : type.IsWhole) : type.nonNull.IsWhole := by
  cases type with
  | nullable inner =>
    have hinner : ∀ part, part ∈ inner.parts → part ∈ (SchemaType.nullable inner).parts :=
      fun part => List.mem_cons_of_mem _
    exact ⟨h.named, fun hmem => h.typed (hinner _ hmem),
      fun deeper hmem => h.once deeper (hinner _ hmem)⟩
  | _ => exact h

/-- Every reference gives a whole type, wherever its marks stand. -/
theorem isWhole_ofRef (reference : TypeRef) : (ofRef reference).IsWhole := by
  induction reference with
  | named name =>
    rw [ofRef]
    exact ⟨⟨name, rfl⟩, by simp [parts], by simp [parts]⟩
  | list item ih =>
    rw [ofRef]
    apply ih.list.nullable
    intro deeper
    simp
  | nonNull inner ih =>
    rw [ofRef]
    exact ih.nonNull

end SchemaType

/-! ## The types of a schema -/

/-- The types that a declared field refers to: its own, and those of its arguments. -/
def Graphql.FieldDeclaration.references (field : FieldDeclaration) : List TypeRef :=
  field.type :: field.arguments.map Prod.snd

namespace Schema

/-- The types of all fields of a schema, and of all their arguments. -/
def fieldTypes (schema : Schema) : List SchemaType :=
  schema.types.flatMap (fun definition =>
    definition.fields.values.flatMap (fun field => field.type :: field.arguments.values))

variable {schema : Schema} {document : SchemaDocument}

theorem mem_fieldTypes_iff {type : SchemaType} :
    type ∈ schema.fieldTypes ↔ ∃ definition ∈ schema.types,
      ∃ field ∈ definition.fields.entries,
        type = field.2.type ∨ ∃ argument ∈ field.2.arguments.entries, argument.2 = type := by
  unfold fieldTypes OrderedMap.values
  simp only [List.mem_flatMap, List.mem_map, List.mem_cons, exists_exists_and_eq_and]

/-- The types of a schema are made of references in the document. -/
theorem DeclaredIn.exists_reference (h : schema.DeclaredIn document) {type : SchemaType}
    (htype : type ∈ schema.fieldTypes) :
    ∃ parent field, document.Declares parent field ∧
      ∃ reference ∈ field.references, type = .ofRef reference := by
  obtain ⟨definition, hdefinition, field, hfield, hcase⟩ := mem_fieldTypes_iff.1 htype
  obtain ⟨declared, hdeclares, rfl⟩ := h definition hdefinition field hfield
  refine ⟨_, declared, hdeclares, ?_⟩
  rcases hcase with rfl | ⟨argument, hargument, rfl⟩
  · exact ⟨declared.type, List.mem_cons_self, rfl⟩
  · rcases OrderedMap.mem_insertAll hargument with hnone | hdeclared
    · cases hnone
    · obtain ⟨written, hwritten, rfl⟩ := List.mem_map.1 hdeclared
      exact ⟨written.2, List.mem_cons_of_mem _ (List.mem_map_of_mem hwritten), rfl⟩

/-- What a document declares has whole types. -/
theorem DeclaredIn.isWhole (h : schema.DeclaredIn document) :
    ∀ type ∈ schema.fieldTypes, type.IsWhole := by
  intro type htype
  obtain ⟨-, -, -, reference, -, rfl⟩ := h.exists_reference htype
  exact SchemaType.isWhole_ofRef reference

theorem argumentsTyped_of_isWhole (h : ∀ type ∈ schema.fieldTypes, type.IsWhole) :
    schema.ArgumentsTyped := by
  intro definition hdefinition field hfield argument hargument
  have hmem : argument.2 ∈ schema.fieldTypes :=
    mem_fieldTypes_iff.2 ⟨definition, hdefinition, field, hfield, .inr ⟨argument, hargument, rfl⟩⟩
  obtain ⟨name, hname⟩ := (h _ hmem).named
  simp [hname]

theorem isWhole_of_parse {name text : String} {told : List Warning}
    (h : parse name text = .ok (schema, told)) : ∀ type ∈ schema.fieldTypes, type.IsWhole := by
  obtain ⟨document, -, hmade⟩ := parse_eq_ok h
  cases hmade
  exact (declaredIn_ofDocument document).isWhole

end Schema

/-! ## Failures that come up -/

/-- A fault that comes up when fields are selected: the root has no fields, a
field is not there, or a field that has none is selected from. -/
inductive FieldFault.OfSelection : FieldFault → Prop
  | rootNotComposite : OfSelection .rootNotComposite
  | noSuchField : OfSelection .noSuchField
  | leafWithSelection (type : String) : OfSelection (.leafWithSelection type)

/-- None of these faults is worded as one of an untyped field or argument. -/
theorem FieldFault.OfSelection.reason_ne {fault : FieldFault} (h : fault.OfSelection) :
    fault.reason ≠ "the field type is unresolved" ∧
      ∀ argument : String, fault.reason ≠ s!"argument '{argument}' has no type" := by
  -- sentences that name something differ in their first letters
  have hargument : ∀ argument : String,
      (s!"argument '{argument}' has no type").toList.head? = some 'a' := by
    intro argument
    simp [toString, String.toList_append]
  have hother : fault.reason.toList.head? ≠ some 'a' := by
    cases h <;> simp [FieldFault.reason, toString, String.toList_append]
  have hfield : fault.reason ≠ "the field type is unresolved" := by
    cases h with
    | leafWithSelection type =>
      intro hsame
      have hhead := congrArg (fun reason => reason.toList.head?) hsame
      simp [FieldFault.reason, toString, String.toList_append] at hhead
    | _ => decide
  refine ⟨hfield, fun argument hsame => ?_⟩
  rw [hsame] at hother
  exact hother (hargument argument)

namespace Model

/-- Whatever the schema, a response fails with a fault of a selection. -/
theorem Naming.ofSelection_of_resolve {naming : Naming} {tree : SelectionTree} {root : SchemaType}
    {parent field : String} {fault : FieldFault}
    (h : naming.resolve tree root = .error (.unresolvedField parent field fault)) :
    fault.OfSelection := by
  cases hroot : naming.rootType root with
  | error failure =>
    rw [Naming.resolve, hroot] at h
    unfold Naming.rootType at hroot
    dsimp only at hroot
    split at hroot
    · cases hroot
    · cases hroot
      cases h
      exact .rootNotComposite
  | ok name =>
    rw [← failure?_eq_some, Naming.failure?_resolve hroot] at h
    obtain ⟨selected, -, hfails⟩ := List.exists_of_findSome?_eq_some h
    obtain ⟨_, _, -, hrejects, hfailure⟩ := Schema.failureAt?_eq_some_iff.1 hfails
    cases hfailure
    cases hrejects with
    | noSuchField => exact .noSuchField
    | leafWithSelection => exact .leafWithSelection _

end Model

/-- No fault of a field comes up while an operation is read. -/
theorem Operation.parse_ne_unresolvedField (text : String) (wanted : Option String)
    (parent field : String) (fault : FieldFault) :
    Operation.parse text wanted ≠ .error (.unresolvedField parent field fault) := by
  intro h
  unfold Operation.parse at h
  split at h
  · cases h
  · split at h
    · unfold Operation.ofDocument at h
      rcases bind_eq_error.1 h with hchoose | ⟨definition, -, hpure⟩
      · unfold chooseOperation at hchoose
        split at hchoose <;> split at hchoose <;> cases hchoose
      · cases hpure
    · cases h

/-- With a schema that types its arguments a run fails with a fault of a
selection, if with one of a field at all. -/
theorem LoadedSchema.ofSelection_of_generate {loaded : LoadedSchema} {document : String}
    {options : GenerationOptions} {parent field : String} {fault : FieldFault}
    (htyped : loaded.schema.ArgumentsTyped)
    (h : loaded.generate document options = .error (.unresolvedField parent field fault)) :
    fault.OfSelection := by
  unfold LoadedSchema.generate at h
  rcases bind_eq_error.1 h with hparse | ⟨⟨operation, told⟩, -, h⟩
  · exact absurd hparse (Operation.parse_ne_unresolvedField _ _ _ _ _)
  rcases bind_eq_error.1 h with hroot | ⟨root, -, h⟩
  · unfold LoadedSchema.rootFor at hroot
    split at hroot <;> cases hroot
  rcases bind_eq_error.1 h with hresolve | ⟨response, hresolve, h⟩
  · exact Naming.ofSelection_of_resolve hresolve
  rcases bind_eq_error.1 h with hbound | ⟨bound, -, h⟩
  · unfold variablesOf at hbound
    split at hbound
    · cases hbound
    · obtain ⟨_, _, _, _, hunbound⟩ :=
        Naming.exists_unbound_of_boundVariables htyped hresolve hbound
      cases hunbound
  · cases h

/-! ## The law -/

/-- All fields and arguments of the schema of a text have whole types. So no run
with it fails for want of the type of a field or of an argument, whatever its
metadata, the document and the options. For want of the type of a field no
response fails with any schema at all. -/
theorem every_field_and_argument_of_a_text_has_a_type :
    (∀ name text schema told, Schema.parse name text = .ok (schema, told) →
      ∀ type ∈ schema.fieldTypes, type.IsWhole) ∧
    (∀ name text metadata loaded, LoadedSchema.ofText name text metadata = .ok loaded →
      ∀ document options parent field fault,
        loaded.generate document options = .error (.unresolvedField parent field fault) →
          fault.reason ≠ "the field type is unresolved" ∧
            ∀ argument : String, fault.reason ≠ s!"argument '{argument}' has no type") ∧
    ∀ (naming : Naming) tree root parent field fault,
      naming.resolve tree root = .error (.unresolvedField parent field fault) →
        fault.reason ≠ "the field type is unresolved" := by
  refine ⟨?_, ?_, ?_⟩
  · intro name text schema told h
    exact Schema.isWhole_of_parse h
  · intro name text metadata loaded hloaded document options parent field fault hfails
    obtain ⟨⟨schema, told⟩, hparse, rfl⟩ := map_eq_ok.1 hloaded
    have htyped := Schema.argumentsTyped_of_isWhole (Schema.isWhole_of_parse hparse)
    exact (LoadedSchema.ofSelection_of_generate htyped hfails).reason_ne
  · intro naming tree root parent field fault hfails
    exact (Naming.ofSelection_of_resolve hfails).reason_ne.1

/-- A schema with marks at several levels of nested lists. -/
def nestedListsText : String :=
  "type Query { grid(at: [[Int!]]): [[Cell!]!]! } type Cell { marks: [ID]! } " ++
    "extend type Cell { near(by: [Int]!): [[[Cell]!]] }"

theorem every_field_and_argument_of_the_nested_lists_has_a_type :
    ∃ schema told loaded parent field fault,
      Schema.parse "api" nestedListsText = .ok (schema, told) ∧
        (∀ type ∈ schema.fieldTypes, type.IsWhole) ∧
      LoadedSchema.ofText "api" nestedListsText .none = .ok loaded ∧
      loaded.generate "{ grid(at: $at) { near { color } } }" ⟨none, .auto, .none⟩ =
          .error (.unresolvedField parent field fault) ∧
        fault.reason ≠ "the field type is unresolved" ∧
        (∀ argument : String, fault.reason ≠ s!"argument '{argument}' has no type") ∧
      peopleNaming.resolve faultyHeroTree (.named "Query") =
          .error (.unresolvedField "person" "name" (.leafWithSelection "String")) ∧
        (FieldFault.leafWithSelection "String").reason ≠ "the field type is unresolved" := by
  obtain ⟨⟨schema, told⟩, hparse, -⟩ :=
    exists_of_any_toOption (x := Schema.parse "api" nestedListsText) (p := fun _ => true)
      (by decide +kernel)
  obtain ⟨loaded, hloaded, hfails⟩ :=
    exists_of_any_toOption (x := LoadedSchema.ofText "api" nestedListsText .none)
      (p := fun loaded => failure?
        (loaded.generate "{ grid(at: $at) { near { color } } }" ⟨none, .auto, .none⟩) =
          some (.unresolvedField "Cell" "color" .noSuchField))
      (by decide +kernel)
  rw [decide_eq_true_eq, failure?_eq_some] at hfails
  have hresolve : peopleNaming.resolve faultyHeroTree (.named "Query") =
      .error (.unresolvedField "person" "name" (.leafWithSelection "String")) := rfl
  obtain ⟨hwhole, hgenerate, hany⟩ := every_field_and_argument_of_a_text_has_a_type
  obtain ⟨hfield, hargument⟩ := hgenerate _ _ _ _ hloaded _ _ _ _ _ hfails
  exact ⟨schema, told, loaded, _, _, _, hparse, hwhole _ _ _ _ hparse, hloaded, hfails, hfield,
    hargument, hresolve, hany _ _ _ _ _ _ hresolve⟩

end OperationModels
