-- The references of a schema to types that it does not define. They are told of
-- behind all else, each once and in order. What counts is the schema in the
-- end: a type may be defined behind a reference to it, and a field whose place
-- another declaration has taken refers to nothing.
import Mathlib.Data.Prod.Lex
import Mathlib.Data.String.Basic
import OperationModels.Proofs.EarlyExtensions
import OperationModels.Proofs.WholeTypes

namespace OperationModels

open Graphql

namespace OrderedMap

variable {κ α : Type} [DecidableEq κ]

theorem mem_values_iff {m : OrderedMap κ α} {value : α} :
    value ∈ m.values ↔ ∃ key, m.get? key = some value := by
  unfold values
  simp only [List.mem_map, Prod.exists, exists_eq_right, mem_entries_iff]

end OrderedMap

/-! ## References -/

/-- The signature of a field names a type: as the type of the field, or as that
of one of its arguments, below lists and marks. -/
def FieldDefinition.Names (field : FieldDefinition) (name : String) : Prop :=
  field.type.underlying? = some name ∨
    ∃ argument type, field.arguments.get? argument = some type ∧ type.underlying? = some name

namespace Schema

/-- The schema has the field of a reference, and its signature names the type. -/
def Refers (schema : Schema) (reference : Reference) : Prop :=
  ∃ definition field, schema.get? reference.parent = some definition ∧
    definition.fields.get? reference.field = some field ∧ field.Names reference.name

/-- The types of all fields and arguments of the schema are defined in it. -/
def AllDefined (schema : Schema) : Prop :=
  ∀ type ∈ schema.fieldTypes, ∃ name definition,
    type.underlying? = some name ∧ schema.get? name = some definition

/-- What references are ordered by: the name, then the type, then the field. -/
def Reference.key (reference : Reference) : String ×ₗ String ×ₗ String :=
  toLex (reference.name, toLex (reference.parent, reference.field))

/-- What is told of a reference to a type that is not defined. -/
def Reference.warning (reference : Reference) : Warning :=
  .undefinedType reference.name reference.parent reference.field

variable {schema : Schema}

theorem mem_referencesOf_iff {definition : TypeDefinition} {reference : Reference} :
    reference ∈ referencesOf definition ↔ reference.parent = definition.name ∧
      ∃ field, definition.fields.get? reference.field = some field ∧
        field.Names reference.name := by
  obtain ⟨name, parent, key⟩ := reference
  unfold referencesOf
  simp only [List.mem_flatMap, List.mem_filterMap, List.mem_cons, OrderedMap.mem_values_iff,
    Option.map_eq_some_iff, Reference.mk.injEq, Prod.exists, OrderedMap.mem_entries_iff]
  constructor
  · rintro ⟨_, field, hfield, type, htype, _, hname, rfl, rfl, rfl⟩
    refine ⟨rfl, field, hfield, ?_⟩
    rcases htype with rfl | ⟨argument, hargument⟩
    · exact .inl hname
    · exact .inr ⟨argument, type, hargument, hname⟩
  · rintro ⟨rfl, field, hfield, hname | ⟨argument, type, hargument, hname⟩⟩
    · exact ⟨key, field, hfield, field.type, .inl rfl, name, hname, rfl, rfl, rfl⟩
    · exact ⟨key, field, hfield, type, .inr ⟨argument, hargument⟩, name, hname, rfl, rfl, rfl⟩

theorem mem_references_iff {reference : Reference} :
    reference ∈ schema.types.flatMap referencesOf ↔ schema.Refers reference := by
  rw [List.mem_flatMap]
  simp only [mem_referencesOf_iff]
  constructor
  · rintro ⟨definition, hmem, hparent, field, hfield, hnames⟩
    refine ⟨definition, field, ?_, hfield, hnames⟩
    rw [hparent]
    exact get?_of_mem hmem
  · rintro ⟨definition, field, hget, hfield, hnames⟩
    obtain ⟨hmem, hname⟩ := get?_eq_some hget
    exact ⟨definition, hmem, hname.symm, field, hfield, hnames⟩

theorem mem_undefinedReferences_iff {reference : Reference} :
    reference ∈ schema.undefinedReferences ↔
      schema.Refers reference ∧ schema.get? reference.name = none := by
  unfold undefinedReferences
  rw [List.mem_mergeSort, List.mem_eraseDups, List.mem_filter, mem_references_iff]
  simp [defines]

/-- The types that fields and arguments name are those that are referred to. -/
theorem exists_refers_iff {name : String} :
    (∃ reference, schema.Refers reference ∧ reference.name = name) ↔
      ∃ type ∈ schema.fieldTypes, type.underlying? = some name := by
  constructor
  · rintro ⟨reference, ⟨definition, field, hget, hfield, hnames⟩, rfl⟩
    have hmem := (get?_eq_some hget).1
    have hentry := OrderedMap.mem_of_get?_eq_some hfield
    rcases hnames with hname | ⟨argument, type, hargument, hname⟩
    · exact ⟨field.type, mem_fieldTypes_iff.2 ⟨definition, hmem, _, hentry, .inl rfl⟩, hname⟩
    · have hwritten := OrderedMap.mem_of_get?_eq_some hargument
      exact ⟨type, mem_fieldTypes_iff.2 ⟨definition, hmem, _, hentry, .inr ⟨_, hwritten, rfl⟩⟩,
        hname⟩
  · rintro ⟨type, htype, hname⟩
    obtain ⟨definition, hmem, ⟨key, field⟩, hentry, hcase⟩ := mem_fieldTypes_iff.1 htype
    have hnames : field.Names name := by
      rcases hcase with rfl | ⟨⟨argument, _⟩, hargument, rfl⟩
      · exact .inl hname
      · exact .inr ⟨argument, _, OrderedMap.get?_of_mem hargument, hname⟩
    exact ⟨⟨name, definition.name, key⟩,
      ⟨definition, field, get?_of_mem hmem, OrderedMap.get?_of_mem hentry, hnames⟩, rfl⟩

/-- Where all types are whole, no reference is undefined just if all types of
fields and arguments are defined. -/
theorem undefinedReferences_eq_nil_iff (h : ∀ type ∈ schema.fieldTypes, type.IsWhole) :
    schema.undefinedReferences = [] ↔ schema.AllDefined := by
  rw [List.eq_nil_iff_forall_not_mem]
  simp only [mem_undefinedReferences_iff]
  constructor
  · intro hnone type htype
    obtain ⟨name, hname⟩ := (h type htype).named
    obtain ⟨reference, hrefers, rfl⟩ := exists_refers_iff.2 ⟨type, htype, hname⟩
    obtain ⟨definition, hget⟩ := Option.ne_none_iff_exists'.1 fun hget =>
      hnone reference ⟨hrefers, hget⟩
    exact ⟨reference.name, definition, hname, hget⟩
  · rintro hall reference ⟨hrefers, hget⟩
    obtain ⟨type, htype, hname⟩ := exists_refers_iff.1 ⟨reference, hrefers, rfl⟩
    obtain ⟨known, definition, hknown, hdefined⟩ := hall type htype
    obtain rfl : known = reference.name := Option.some.inj (hknown.symm.trans hname)
    rw [hget] at hdefined
    cases hdefined

/-! ## The order of references -/

theorem Reference.key_injective : Function.Injective Reference.key := by
  rintro ⟨name, parent, field⟩ ⟨_, _, _⟩ hkey
  simpa [Reference.key] using hkey

theorem Reference.le_iff (a b : Reference) : a.le b = true ↔ a.key ≤ b.key := by
  unfold Reference.le Reference.key
  rw [Prod.Lex.toLex_le_toLex, Prod.Lex.toLex_le_toLex, le_iff_lt_or_eq]
  simp only [Bool.or_eq_true, Bool.and_eq_true, decide_eq_true_eq]

/-- Each undefined reference comes once, and before those behind it in order. -/
theorem pairwise_undefinedReferences (schema : Schema) :
    schema.undefinedReferences.Pairwise (fun a b => a.key < b.key) := by
  unfold undefinedReferences
  have hordered : ∀ references : List Reference,
      (references.mergeSort Reference.le).Pairwise (fun a b => a.key ≤ b.key) := by
    intro references
    refine (List.pairwise_mergeSort ?_ ?_ references).imp (fun {a b} => (Reference.le_iff a b).1)
    · intro a b c
      simp only [Reference.le_iff]
      exact le_trans
    · intro a b
      rw [Bool.or_eq_true, Reference.le_iff, Reference.le_iff]
      exact le_total _ _
  have honce : ∀ references : List Reference,
      (references.eraseDups.mergeSort Reference.le).Nodup := by
    intro references
    rw [(List.mergeSort_perm _ _).nodup_iff]
    exact nodup_eraseDups references
  refine ((hordered _).and (honce _)).imp ?_
  rintro a b ⟨hle, hne⟩
  exact lt_of_le_of_ne hle (Reference.key_injective.ne hne)

/-! ## The law -/

theorem parse_eq_ok_iff {name text : String} {told : List Warning} :
    parse name text = .ok (schema, told) ↔
      ∃ document, SchemaDocument.parse text = .ok document ∧
        ofDocument document = (schema, told) := by
  unfold parse
  cases SchemaDocument.parse text <;> simp

/-- What is told of the items of a document is not of references. -/
theorem warning_not_mem_scan_told (reference : Reference) (document : SchemaDocument)
    (known : List String) : reference.warning ∉ document.scan SchemaItem.told known := by
  induction document generalizing known with
  | nil => exact List.not_mem_nil
  | cons item rest ih =>
    have hitem : reference.warning ∉ item.told known := by
      unfold Reference.warning
      cases item <;> simp [SchemaItem.told]
    rw [SchemaDocument.scan, List.mem_append, not_or]
    exact ⟨hitem, ih _⟩

/-- The references of the schema of a text to types that it does not define are
told of behind all that is told of the items of the text, each once and in order
of name, type and field. They are those of the schema in the end: the names that
it defines are the built-in ones and all that the text defines, wherever it
does. There are none just if all types of fields and arguments are defined. -/
theorem undefined_references_are_told_last_once_and_in_order (name text : String)
    (schema : Schema) (told : List Warning) (h : parse name text = .ok (schema, told)) :
    ∃ document references, SchemaDocument.parse text = .ok document ∧
      told = document.told ++ references.map Reference.warning ∧
      (∀ reference : Reference, reference.warning ∉ document.told) ∧
      references.Pairwise (fun a b => a.key < b.key) ∧
      (∀ reference, reference ∈ references ↔
        schema.Refers reference ∧ schema.get? reference.name = none) ∧
      (∀ type, schema.get? type = none ↔ type ∉ builtInScalars ++ document.definedNames) ∧
      (references = [] ↔ schema.AllDefined) := by
  obtain ⟨document, hdocument, hmade⟩ := parse_eq_ok_iff.1 h
  have hwhole := isWhole_of_parse h
  obtain rfl : (ofDocument document).1 = schema := congrArg Prod.fst hmade
  obtain rfl : (ofDocument document).2 = told := congrArg Prod.snd hmade
  refine ⟨document, (ofDocument document).1.undefinedReferences, hdocument,
    warnings_ofDocument document, fun reference => warning_not_mem_scan_told reference document _,
    pairwise_undefinedReferences _, fun reference => mem_undefinedReferences_iff, ?_,
    undefinedReferences_eq_nil_iff hwhole⟩
  intro type
  have hdefines := defines_foldl_add_iff_mem document type
  rw [← hdefines]
  show _ ↔ ¬ (ofDocument document).1.defines type = true
  simp [defines]

/-- A schema with a type that is defined behind a reference to it, a field that
refers to nothing in the end, and a field that refers to one name twice. -/
def ghostlyText : String :=
  "type Query { b(by: Later, at: Ghost): [Ghost!] old: Gone a(of: [Zed!]): Ghost } " ++
    "extend type Nobody { lost: Gone } type Query { lost: Gone } " ++
    "extend type Query { old: Later } enum Later { ON }"

def ghostlyDocument : SchemaDocument :=
  [.type ⟨"Query", .object,
      [⟨"b", [("by", .named "Later"), ("at", .named "Ghost")], .list (.nonNull (.named "Ghost"))⟩,
        ⟨"old", [], .named "Gone"⟩,
        ⟨"a", [("of", .list (.nonNull (.named "Zed")))], .named "Ghost"⟩]⟩,
    .extension ⟨"Nobody", .object, [⟨"lost", [], .named "Gone"⟩]⟩,
    .type ⟨"Query", .object, [⟨"lost", [], .named "Gone"⟩]⟩,
    .extension ⟨"Query", .object, [⟨"old", [], .named "Later"⟩]⟩,
    .type ⟨"Later", .enum, []⟩]

/-- What is told of it. -/
def ghostlyWarnings : List Warning :=
  [.unknownExtension "Nobody", .duplicateType "Query", .undefinedType "Ghost" "Query" "a",
    .undefinedType "Ghost" "Query" "b", .undefinedType "Zed" "Query" "a"]

theorem parse_ghostlyText :
    parse "api" ghostlyText = .ok ((ofDocument ghostlyDocument).1, ghostlyWarnings) := by
  have hdocument : SchemaDocument.parse ghostlyText = .ok ghostlyDocument := by decide +kernel
  have htold : ghostlyDocument.told = [.unknownExtension "Nobody", .duplicateType "Query"] := by
    decide +kernel
  have hfound : (((ofDocument ghostlyDocument).1.types.flatMap referencesOf).filter
      (fun reference => !(ofDocument ghostlyDocument).1.defines reference.name)).eraseDups =
        [⟨"Ghost", "Query", "b"⟩, ⟨"Ghost", "Query", "a"⟩, ⟨"Zed", "Query", "a"⟩] := by
    decide +kernel
  have hreferences : (ofDocument ghostlyDocument).1.undefinedReferences =
      [⟨"Ghost", "Query", "a"⟩, ⟨"Ghost", "Query", "b"⟩, ⟨"Zed", "Query", "a"⟩] := by
    have hfirst : Reference.le ⟨"Ghost", "Query", "b"⟩ ⟨"Ghost", "Query", "a"⟩ = false := by decide
    have hsecond : Reference.le ⟨"Ghost", "Query", "a"⟩ ⟨"Zed", "Query", "a"⟩ = true := by decide
    have hthird : Reference.le ⟨"Ghost", "Query", "b"⟩ ⟨"Zed", "Query", "a"⟩ = true := by decide
    unfold undefinedReferences
    rw [hfound]
    simp [List.mergeSort, hfirst, hsecond, hthird]
  have hwarnings : (ofDocument ghostlyDocument).2 = ghostlyWarnings := by
    rw [warnings_ofDocument, htold, hreferences]
    rfl
  exact parse_eq_ok_iff.2 ⟨ghostlyDocument, hdocument, Prod.ext rfl hwarnings⟩

theorem undefined_references_of_the_ghostly_are_told_last_once_and_in_order :
    parse "api" ghostlyText = .ok ((ofDocument ghostlyDocument).1, ghostlyWarnings) ∧
      ∃ document references, SchemaDocument.parse ghostlyText = .ok document ∧
        ghostlyWarnings = document.told ++ references.map Reference.warning ∧
        (∀ reference : Reference, reference.warning ∉ document.told) ∧
        references.Pairwise (fun a b => a.key < b.key) ∧
        (∀ reference, reference ∈ references ↔
          (ofDocument ghostlyDocument).1.Refers reference ∧
            (ofDocument ghostlyDocument).1.get? reference.name = none) ∧
        (∀ type, (ofDocument ghostlyDocument).1.get? type = none ↔
          type ∉ builtInScalars ++ document.definedNames) ∧
        (references = [] ↔ (ofDocument ghostlyDocument).1.AllDefined) :=
  ⟨parse_ghostlyText,
    undefined_references_are_told_last_once_and_in_order _ _ _ _ parse_ghostlyText⟩

end Schema

end OperationModels
