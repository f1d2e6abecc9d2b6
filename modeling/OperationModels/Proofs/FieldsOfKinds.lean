-- Fields and kinds. A text declares only fields that the kind of their type may
-- have, but an extension is taken whatever its kind: so a type has other fields
-- just if extensions of other kinds leave some in it.
import OperationModels.Proofs.DocumentNames
import OperationModels.Proofs.EarlyExtensions

namespace OperationModels

open Graphql

/-! ## Fields that suit -/

/-- A type has fields that suit its kind: a scalar, an enum and a union have
none, and those of an input object take no arguments. -/
structure TypeDefinition.FieldsSuit (definition : TypeDefinition) : Prop where
  bare : definition.kind ∈ [.scalar, .enum, .union] → definition.fields.entries = []
  plain : definition.kind = .inputObject →
    ∀ entry ∈ definition.fields.entries, entry.2.arguments.entries = []

namespace Graphql.SchemaDocument

/-- The declaration of a field that counts: the last for its type. -/
def lastField? (document : SchemaDocument) (type name : String) : Option FieldDeclaration :=
  ((document.fieldsOf type).filter (fun declared => declared.name = name)).getLast?

/-- The extensions that count leave a type no fields but those that suit its
kind. -/
def ExtensionsSuit (document : SchemaDocument) : Prop :=
  ∀ extension ∈ document.effective.extensions, ∀ field ∈ extension.fields,
    document.effective.lastField? extension.name field.name = some field →
      ∀ definition, document.definition? extension.name = some definition →
        field.suits definition.kind = true

end Graphql.SchemaDocument

/-! ## Fields of a declared type -/

theorem arguments_ofDeclaration_eq_nil_iff {declared : FieldDeclaration} :
    (FieldDefinition.ofDeclaration declared).2.arguments.entries = [] ↔
      declared.arguments = [] := by
  unfold FieldDefinition.ofDeclaration
  rw [OrderedMap.entries_ofList_eq_nil_iff, List.map_eq_nil_iff]

namespace Graphql.SchemaDocument

variable {document : SchemaDocument} {type : String} {definition : TypeDefinition}

theorem get?_fields_of_typeOf? (h : document.typeOf? type = some definition) (name : String) :
    definition.fields.get? name = (document.lastField? type name).map
      (fun declared => (FieldDefinition.ofDeclaration declared).2) := by
  obtain ⟨declaration, -, rfl⟩ := Option.map_eq_some_iff.1 h
  rw [(OrderedMap.takes_ofList _).last, List.filter_map, List.getLast?_map, Option.map_map]
  rfl

/-- The fields of a declared type suit its kind just if each last declaration of
a field does. -/
theorem fieldsSuit_iff (h : document.typeOf? type = some definition) :
    definition.FieldsSuit ↔ ∀ name field, document.lastField? type name = some field →
      field.suits definition.kind = true := by
  have hget := get?_fields_of_typeOf? h
  constructor
  · intro hsuit name field hlast
    have hentry : (name, (FieldDefinition.ofDeclaration field).2) ∈ definition.fields.entries := by
      apply OrderedMap.mem_of_get?_eq_some
      rw [hget, hlast, Option.map_some]
    have hbare : definition.kind ∉ [.scalar, .enum, .union] := by
      intro hkind
      rw [hsuit.bare hkind] at hentry
      cases hentry
    cases hkind : definition.kind with
    | object => rfl
    | interface => rfl
    | inputObject =>
      have hnone := hsuit.plain hkind _ hentry
      exact List.isEmpty_iff.2 (arguments_ofDeclaration_eq_nil_iff.1 hnone)
    | _ => simp [hkind] at hbare
  · intro hall
    have hentries : ∀ entry ∈ definition.fields.entries, ∃ field,
        field.suits definition.kind = true ∧
          (FieldDefinition.ofDeclaration field).2 = entry.2 := by
      intro entry hentry
      have hfound := OrderedMap.get?_of_mem hentry
      rw [hget] at hfound
      obtain ⟨field, hlast, hmade⟩ := Option.map_eq_some_iff.1 hfound
      exact ⟨field, hall entry.1 field hlast, hmade⟩
    refine ⟨?_, ?_⟩
    · intro hkind
      rw [List.eq_nil_iff_forall_not_mem]
      intro entry hentry
      obtain ⟨field, hsuits, -⟩ := hentries entry hentry
      simp only [List.mem_cons, List.not_mem_nil, or_false] at hkind
      rcases hkind with hkind | hkind | hkind <;> rw [hkind] at hsuits <;> cases hsuits
    · intro hkind entry hentry
      obtain ⟨field, hsuits, hmade⟩ := hentries entry hentry
      rw [hkind] at hsuits
      rw [← hmade, arguments_ofDeclaration_eq_nil_iff]
      exact List.isEmpty_iff.1 hsuits

/-- A field is declared last by the definition of its type, or by an extension
of it. -/
theorem mem_of_lastField? {name : String} {field : FieldDeclaration}
    (h : document.lastField? type name = some field) :
    field.name = name ∧
      ((∃ declaration, document.definition? type = some declaration ∧
          field ∈ declaration.fields) ∨
        ∃ extension ∈ document.extensions, extension.name = type ∧ field ∈ extension.fields) := by
  obtain ⟨hfields, hname⟩ := List.mem_filter.1 (List.mem_of_getLast? h)
  obtain ⟨declaration, hdeclares, hfield⟩ := List.mem_flatMap.1 hfields
  refine ⟨of_decide_eq_true hname, ?_⟩
  rcases List.mem_append.1 hdeclares with hdefinition | hextension
  · exact .inl ⟨declaration, Option.mem_toList.1 hdefinition, hfield⟩
  · obtain ⟨hmem, htype⟩ := List.mem_filter.1 hextension
    exact .inr ⟨declaration, hmem, of_decide_eq_true htype, hfield⟩

/-- What a text declares of a type in its definition suits the kind. -/
theorem suits_of_definition? (h : ∀ item ∈ document, SchemaItem.Written item)
    {declaration : TypeDeclaration} (hdefinition : document.definition? type = some declaration) :
    ∀ field ∈ declaration.fields, field.suits declaration.kind = true := by
  unfold definition? at hdefinition
  split at hdefinition
  · cases hdefinition
    exact List.forall_mem_nil _
  · have hmem := mem_definitions_iff.1 (List.mem_of_find?_eq_some hdefinition)
    exact (h _ hmem).suited

end Graphql.SchemaDocument

namespace Schema

theorem get?_ofDocument_effective {document : SchemaDocument} (name : String) :
    (ofDocument document).1.get? name = document.effective.typeOf? name := by
  rw [← ofDocument_effective, get?_ofDocument,
    foldl_onto_eq_typeOf? document.extendsDefined_effective]

/-- The types of the schema of a text have fields that suit them just if the
extensions that count leave none that do not. -/
theorem fieldsSuit_iff_extensionsSuit {document : SchemaDocument}
    (h : ∀ item ∈ document, SchemaItem.Written item) :
    (∀ definition ∈ (ofDocument document).1.types, definition.FieldsSuit) ↔
      document.ExtensionsSuit := by
  constructor
  · intro hall extension _ field _ hlast declaration hdefinition
    obtain ⟨definition, htype, hkind⟩ : ∃ definition,
        document.effective.typeOf? extension.name = some definition ∧
          definition.kind = declaration.kind := by
      unfold SchemaDocument.typeOf?
      rw [SchemaDocument.definition?_effective, hdefinition]
      exact ⟨_, rfl, rfl⟩
    have hget := (get?_ofDocument_effective extension.name).trans htype
    have hsuit := hall definition (get?_eq_some hget).1
    rw [← hkind]
    exact (SchemaDocument.fieldsSuit_iff htype).1 hsuit field.name field hlast
  · intro hsuit definition hmem
    have hget := get?_of_mem hmem
    rw [get?_ofDocument_effective] at hget
    rw [SchemaDocument.fieldsSuit_iff hget]
    intro name field hlast
    obtain ⟨declaration, hdefinition, hmade⟩ := Option.map_eq_some_iff.1 hget
    have hkind : declaration.kind = definition.kind := congrArg TypeDefinition.kind hmade
    rw [SchemaDocument.definition?_effective] at hdefinition
    rw [← hkind]
    obtain ⟨hname, ⟨known, hknown, hfield⟩ | ⟨extension, hextension, htype, hfield⟩⟩ :=
      SchemaDocument.mem_of_lastField? hlast
    · rw [SchemaDocument.definition?_effective, hdefinition] at hknown
      cases hknown
      exact SchemaDocument.suits_of_definition? h hdefinition field hfield
    · subst hname
      rw [← htype] at hlast hdefinition
      exact hsuit extension hextension field hfield hlast declaration hdefinition

/-- Extensions of types of their own kind leave only fields that suit. -/
theorem extensionsSuit_of_kinds {document : SchemaDocument}
    (h : ∀ item ∈ document, SchemaItem.Written item)
    (hkinds : ∀ extension ∈ document.effective.extensions,
      (document.definition? extension.name).map TypeDeclaration.kind = some extension.kind) :
    document.ExtensionsSuit := by
  intro extension hextension field hfield _ definition hdefinition
  have hkind := hkinds extension hextension
  rw [hdefinition, Option.map_some, Option.some.injEq] at hkind
  have hmem := document.sublist_effective.subset
    (SchemaDocument.mem_extensions_iff.1 hextension)
  rw [hkind]
  exact (h _ hmem).suited field hfield

/-! ## The law -/

/-- The types of the schema of a text have only fields that suit their kinds
just if the extensions that count leave no others: so it is if each of them
extends a type of its own kind. -/
theorem fields_suit_their_kinds_iff_extensions_leave_no_others {name text : String}
    {schema : Schema} {told : List Warning} (h : parse name text = .ok (schema, told)) :
    ∃ document, SchemaDocument.parse text = .ok document ∧
      ((∀ definition ∈ schema.types, definition.FieldsSuit) ↔ document.ExtensionsSuit) ∧
      ((∀ extension ∈ document.effective.extensions,
          (document.definition? extension.name).map TypeDeclaration.kind = some extension.kind) →
        ∀ definition ∈ schema.types, definition.FieldsSuit) := by
  obtain ⟨document, hdocument, rfl⟩ := parse_eq_ok h
  have hwritten := SchemaDocument.written_of_parse hdocument
  have hsuit := fieldsSuit_iff_extensionsSuit hwritten
  refine ⟨document, hdocument, hsuit, ?_⟩
  intro hkinds
  exact hsuit.2 (extensionsSuit_of_kinds hwritten hkinds)

/-- A schema of media, with an extension of an object type. -/
def mediaText : String :=
  "type Query { media: Media } union Media = Book type Book { title: String } " ++
    "extend type Book { pages: Int }"

def mediaDocument : SchemaDocument :=
  [.type ⟨"Query", .object, [⟨"media", [], .named "Media"⟩]⟩,
    .type ⟨"Media", .union, []⟩,
    .type ⟨"Book", .object, [⟨"title", [], .named "String"⟩]⟩,
    .extension ⟨"Book", .object, [⟨"pages", [], .named "Int"⟩]⟩]

theorem fields_of_the_media_suit_their_kinds_iff_extensions_leave_no_others :
    SchemaDocument.parse mediaText = .ok mediaDocument ∧
      ∃ schema told, parse "api" mediaText = .ok (schema, told) ∧
        ((∀ definition ∈ schema.types, definition.FieldsSuit) ↔ mediaDocument.ExtensionsSuit) ∧
          ∀ definition ∈ schema.types, definition.FieldsSuit := by
  have hreads : SchemaDocument.parse mediaText = .ok mediaDocument := by decide +kernel
  obtain ⟨⟨schema, told⟩, hparse, -⟩ :=
    exists_of_any_toOption (x := parse "api" mediaText) (p := fun _ => true)
      (by unfold parse; rw [hreads]; rfl)
  obtain ⟨document, hdocument, hsuit, hkinds⟩ :=
    fields_suit_their_kinds_iff_extensions_leave_no_others hparse
  rw [hreads] at hdocument
  cases hdocument
  exact ⟨hreads, schema, told, hparse, hsuit, hkinds (by decide +kernel)⟩

/-- A schema of media, with an extension that takes a union for an object type. -/
def sizedMediaText : String :=
  "type Query { media: Media } type Book { title: String } union Media = Book " ++
    "extend type Media { size: Int }"

theorem a_union_extended_as_an_object_has_a_field :
    ∃ schema told, parse "api" sizedMediaText = .ok (schema, told) ∧
      ∃ definition ∈ schema.types, definition.kind = .union ∧ definition.fields.keys = ["size"] ∧
        ¬ definition.FieldsSuit := by
  obtain ⟨⟨schema, told⟩, hparse, htest⟩ :=
    exists_of_any_toOption (x := parse "api" sizedMediaText)
      (p := fun read => read.1.types.any
        (fun definition => definition.kind = .union && definition.fields.keys = ["size"]))
      (by decide +kernel)
  obtain ⟨definition, hmem, hunion⟩ := List.any_eq_true.1 htest
  rw [Bool.and_eq_true, decide_eq_true_eq, decide_eq_true_eq] at hunion
  refine ⟨schema, told, hparse, definition, hmem, hunion.1, hunion.2, ?_⟩
  intro hsuit
  have hbare := hsuit.bare (by simp [hunion.1])
  rw [OrderedMap.keys, hbare] at hunion
  cases hunion.2

end Schema

end OperationModels
