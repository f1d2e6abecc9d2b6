-- The text of the type of a field, said of the type as the schema document
-- declares it: an `Option` at each level without a non-null mark, a `Vec` at
-- each list, and the name in models at the bottom. Every field of every
-- record of a response comes out with that text.
import OperationModels.Proofs.DeclaredFields
import OperationModels.Proofs.Modules
import OperationModels.Proofs.Selections

namespace OperationModels

open Graphql Model Source

/-! ## The text of a declared type -/

/-- Is the type marked non-null at its outermost level? -/
def Graphql.TypeRef.isNonNull : TypeRef → Bool
  | .nonNull _ => true
  | _ => false

namespace NameMapping

/-- The text of a type that is there: a mark at its outermost level makes no
difference. -/
def coreText (mapping : NameMapping) : TypeRef → String
  | .named name => mapping.map name
  | .list item =>
    "Vec<" ++ (if item.isNonNull then mapping.coreText item
      else "Option<" ++ mapping.coreText item ++ ">") ++ ">"
  | .nonNull inner => mapping.coreText inner

/-- The text of a type, which may be absent unless it is marked non-null. -/
def typeText (mapping : NameMapping) (reference : TypeRef) : String :=
  if reference.isNonNull then mapping.coreText reference
  else "Option<" ++ mapping.coreText reference ++ ">"

theorem coreText_list (mapping : NameMapping) (item : TypeRef) :
    mapping.coreText (.list item) = "Vec<" ++ mapping.typeText item ++ ">" := rfl

end NameMapping

/-! ## The type in between -/

namespace Model

/-- The type in models of a declared type that is there. -/
def Naming.coreType (naming : Naming) : TypeRef → FieldType
  | .named name => .named (naming.mapping.map name)
  | .list item =>
    .list (if item.isNonNull then naming.coreType item else .optional (naming.coreType item))
  | .nonNull inner => naming.coreType inner

/-- The type in models of a declared type. -/
def Naming.refType (naming : Naming) (reference : TypeRef) : FieldType :=
  if reference.isNonNull then naming.coreType reference
  else .optional (naming.coreType reference)

theorem Naming.isOptional_coreType (naming : Naming) (reference : TypeRef) :
    (naming.coreType reference).isOptional = false := by
  induction reference with
  | named name => rfl
  | list item _ => rfl
  | nonNull inner ih => exact ih

theorem Naming.isOptional_refType (naming : Naming) (reference : TypeRef) :
    (naming.refType reference).isOptional = !reference.isNonNull := by
  unfold Naming.refType
  split
  · rename_i hmarked
    rw [naming.isOptional_coreType, hmarked]
    rfl
  · rename_i hmarked
    simp only [Bool.not_eq_true] at hmarked
    rw [hmarked]
    rfl

theorem FieldType.required_of_isOptional_eq_false {type : FieldType}
    (h : type.isOptional = false) : type.required = type := by
  cases type with
  | named name => rfl
  | list item => rfl
  | optional inner => cases h

theorem Naming.required_refType (naming : Naming) (reference : TypeRef) :
    (naming.refType reference).required = naming.coreType reference := by
  unfold Naming.refType
  split
  · exact FieldType.required_of_isOptional_eq_false (naming.isOptional_coreType reference)
  · rfl

/-- To strip the mark of a type before it is named is to strip it after. -/
theorem Naming.typeOf?_nonNull (naming : Naming) (type : SchemaType) :
    naming.typeOf? type.nonNull = (naming.typeOf? type).map FieldType.required := by
  cases type with
  | named name => rfl
  | list item =>
    unfold SchemaType.nonNull Naming.typeOf?
    cases naming.typeOf? item <;> rfl
  | nullable inner =>
    unfold SchemaType.nonNull
    rw [Naming.typeOf?]
    cases naming.typeOf? inner <;> rfl
  | untyped => rfl

/-- A declared type always has a type in models. -/
theorem Naming.typeOf?_ofRef (naming : Naming) (reference : TypeRef) :
    naming.typeOf? (.ofRef reference) = some (naming.refType reference) := by
  induction reference with
  | named name => rfl
  | list item ih =>
    rw [SchemaType.ofRef, Naming.typeOf?, Naming.typeOf?, ih]
    rfl
  | nonNull inner ih =>
    rw [SchemaType.ofRef, naming.typeOf?_nonNull, ih, Option.map_some, naming.required_refType]
    rfl

theorem Naming.render_coreType (naming : Naming) (reference : TypeRef) :
    (naming.coreType reference).render = naming.mapping.coreText reference := by
  induction reference with
  | named name => rfl
  | list item ih =>
    rw [Naming.coreType, FieldType.render, NameMapping.coreText_list]
    unfold NameMapping.typeText
    split
    · rw [ih]
    · rw [FieldType.render, ih]
  | nonNull inner ih => exact ih

theorem Naming.render_refType (naming : Naming) (reference : TypeRef) :
    (naming.refType reference).render = naming.mapping.typeText reference := by
  unfold Naming.refType NameMapping.typeText
  split
  · exact naming.render_coreType reference
  · rw [FieldType.render, naming.render_coreType]

end Model

/-! ## The text of a field -/

/-- The document gives the field of a type this type. The field that every
composite type has by itself is a string that is always there. -/
def Graphql.SchemaDocument.Types (document : SchemaDocument) (parent field : String)
    (reference : TypeRef) : Prop :=
  (field = Schema.typeNameField ∧ reference = .nonNull (.named "String")) ∨
    ∃ declared, document.Declares parent declared ∧ declared.name = field ∧
      declared.type = reference

/-- The field of a struct shows a declared type: its line ends with the text
of that type, and it has a default exactly if the type is not marked. -/
def Source.StructField.Shows (field : StructField) (mapping : NameMapping)
    (reference : TypeRef) : Prop :=
  (∃ before, field.render =
    before ++ "    pub " ++ field.ident ++ ": " ++ mapping.typeText reference ++ ",\n") ∧
    (SerdeArgument.default ∈ field.serde ↔ reference.isNonNull = false)

theorem Source.StandsFor.shows {naming : Naming} {field : Field} {inStruct : StructField}
    {reference : TypeRef} (h : StandsFor .default field inStruct)
    (htype : naming.typeOf? (.ofRef reference) = some field.type) :
    inStruct.Shows naming.mapping reference := by
  rw [naming.typeOf?_ofRef, Option.some.injEq] at htype
  refine ⟨?_, ?_⟩
  · unfold StructField.render
    rw [h.1, ← htype, naming.render_refType]
    exact ⟨_, rfl⟩
  · rw [h.ifAbsent_mem_iff SerdeArgument.default_ne_rename, ← htype, naming.isOptional_refType]
    simp

/-! ## The texts of a response -/

namespace Model

/-- What names are read against: the schema of a document, and names. -/
def Naming.ofDocument (document : SchemaDocument) (mapping : NameMapping) : Naming :=
  ⟨(Schema.ofDocument document).1, mapping⟩

/-- A struct shows, in order, what a selection set on a type picks: the type
of each field is one that the document gives it, and its text is of that. -/
def Naming.ShowsAll (naming : Naming) (document : SchemaDocument) (parent : String)
    (tree : SelectionTree) (struct : Struct) : Prop :=
  List.Forall₂ (fun (pick : Pick) (field : StructField) =>
      (∃ reference, document.Types parent pick.field reference ∧
        naming.schema.fieldType parent pick.field = .ofRef reference) ∧
      ∀ reference, naming.schema.fieldType parent pick.field = .ofRef reference →
        field.Shows naming.mapping reference)
    (tree.picks none) struct.fields

/-- A field that has a type in models has a type from the document. -/
theorem types_of_typeOf? {naming : Naming} {document : SchemaDocument} {parent field : String}
    {type : FieldType} (hdeclared : naming.schema.DeclaredIn document)
    (h : naming.typeOf? (naming.schema.fieldType parent field) = some type) :
    ∃ reference, document.Types parent field reference ∧
      naming.schema.fieldType parent field = .ofRef reference := by
  unfold Schema.fieldType at *
  cases hfield : naming.schema.field? parent field with
  | none =>
    rw [hfield] at h
    cases h
  | some definition =>
    rcases hdeclared.field?_eq_some hfield with ⟨rfl, rfl⟩ | ⟨declared, hdeclares, heq⟩
    · exact ⟨.nonNull (.named "String"), .inl ⟨rfl, rfl⟩, rfl⟩
    · cases heq
      exact ⟨declared.type, .inr ⟨declared, hdeclares, rfl, rfl⟩, rfl⟩

theorem Naming.AnswersAll.showsAll {naming : Naming} {document : SchemaDocument}
    {parent : String} {tree : SelectionTree} {record : Record}
    (h : naming.AnswersAll parent tree record.fields)
    (hdeclared : naming.schema.DeclaredIn document) (extras : Extras) (doc : Option String) :
    naming.ShowsAll document parent tree (structOfRecord extras doc record) := by
  refine forall₂_trans ?_ h (standsFor_structFields .default record.fields)
  rintro pick field inStruct ⟨-, htype⟩ hstands
  refine ⟨types_of_typeOf? hdeclared htype, fun reference href => ?_⟩
  rw [href] at htype
  exact hstands.shows htype

end Model

/-! ## The laws -/

/-- Each field of each struct of a response has the text of its declared type:
an `Option` at each level that is not marked non-null, a `Vec` at each list,
and the name in models at the bottom. It has a default exactly if the type as
a whole is not marked. -/
theorem every_field_shows_its_declared_type (document : SchemaDocument) (mapping : NameMapping)
    (tree : SelectionTree) (root : SchemaType) (response : Response) (extras : Extras)
    (doc : Option String)
    (h : (Naming.ofDocument document mapping).resolve tree root = .ok response) :
    ∃ name nested data, (Naming.ofDocument document mapping).rootType root = .ok name ∧
      response.records = nested ++ [data] ∧
      List.Forall₂ (fun selected record =>
          ∃ type, (Schema.ofDocument document).1.typeAt? name
              (selected.inside ++ [selected.field]) = some type ∧
            (Naming.ofDocument document mapping).ShowsAll document type selected.child
              (structOfRecord extras doc record))
        ((tree.selectedFields []).filter ((Naming.ofDocument document mapping).getsRecord name))
        nested ∧
      (Naming.ofDocument document mapping).ShowsAll document name tree
        (structOfRecord extras doc data) := by
  have hdeclared := Schema.declaredIn_ofDocument document
  obtain ⟨name, hroot, harvest, hwalk, rfl⟩ := Naming.resolve_eq_ok.1 h
  refine ⟨name, harvest.records, ⟨dataRecord, harvest.fields⟩, hroot, rfl, ?_, ?_⟩
  · refine (Naming.recordsFor_of_walk rfl tree hwalk).imp ?_
    rintro selected record ⟨type, htype, -, hfields⟩
    exact ⟨type, htype, hfields.showsAll hdeclared extras doc⟩
  · exact (Naming.answersAll_of_walk tree hwalk).showsAll hdeclared extras doc

/-- A document with a field of nested lists, marked here and there, and one
field that is marked at the top. -/
def gridDocument : SchemaDocument :=
  [.type ⟨"Query", .object,
    [⟨"grid", [], .list (.nonNull (.list (.list (.nonNull (.named "Cell")))))⟩,
      ⟨"home", [], .nonNull (.named "Cell")⟩]⟩,
    .type ⟨"Cell", .object, [⟨"marks", [], .nonNull (.list (.named "ID"))⟩]⟩]

/-- Both fields, with what stands in a cell. -/
def gridTree : SelectionTree :=
  .group [.select "grid" [] (.select "marks" [] .nothing),
    .rename "start" (.select "home" [] (.select "__typename" [] .nothing))]

/-- What the grid is answered with. -/
def gridResponse : Response :=
  ⟨[⟨"Cell", [⟨"marks", .list (.optional (.named "String"))⟩]⟩,
    ⟨"Cell", [⟨"__typename", .named "String"⟩]⟩,
    ⟨"Data", [⟨"grid", .optional (.list (.list (.optional (.list (.named "Cell")))))⟩,
      ⟨"start", .named "Cell"⟩]⟩], []⟩

theorem every_field_of_the_grid_shows_its_declared_type :
    (Naming.ofDocument gridDocument .standard).resolve gridTree (.named "Query") =
        .ok gridResponse ∧
      ∃ name nested data, (Naming.ofDocument gridDocument .standard).rootType (.named "Query") =
          .ok name ∧
        gridResponse.records = nested ++ [data] ∧
        List.Forall₂ (fun selected record =>
            ∃ type, (Schema.ofDocument gridDocument).1.typeAt? name
                (selected.inside ++ [selected.field]) = some type ∧
              (Naming.ofDocument gridDocument .standard).ShowsAll gridDocument type selected.child
                (structOfRecord ⟨[], []⟩ none record))
          ((gridTree.selectedFields []).filter
            ((Naming.ofDocument gridDocument .standard).getsRecord name)) nested ∧
        (Naming.ofDocument gridDocument .standard).ShowsAll gridDocument name gridTree
          (structOfRecord ⟨[], []⟩ none data) := by
  have h : (Naming.ofDocument gridDocument .standard).resolve gridTree (.named "Query") =
      .ok gridResponse := rfl
  exact ⟨h, every_field_shows_its_declared_type _ _ _ _ _ ⟨[], []⟩ none h⟩

end OperationModels
