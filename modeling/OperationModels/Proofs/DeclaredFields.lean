-- Where the fields of a schema come from. Every field of every type of a
-- schema made from a document is one that the document declares on that type,
-- in a definition or in an extension. The one exception is the field that
-- every composite type has by itself.
import OperationModels.Proofs.Results
import OperationModels.Schema.OfDocument

namespace OperationModels

/-! ## Entries of maps -/

namespace OrderedMap

variable {κ α : Type} [DecidableEq κ]

theorem mem_write {key : κ} {value : α} {entries : List (κ × α)} {entry : κ × α}
    (h : entry ∈ write key value entries) : entry = (key, value) ∨ entry ∈ entries := by
  induction entries with
  | nil => simpa [write] using h
  | cons first rest ih =>
    unfold write at h
    split at h
    · rcases List.mem_cons.1 h with h | h
      · exact .inl h
      · exact .inr (List.mem_cons_of_mem _ h)
    · rcases List.mem_cons.1 h with rfl | h
      · exact .inr List.mem_cons_self
      · exact (ih h).imp_right (List.mem_cons_of_mem _)

/-- What a map holds after a list is written was there or is in the list. -/
theorem mem_insertAll {m : OrderedMap κ α} {entries : List (κ × α)} {entry : κ × α}
    (h : entry ∈ (m.insertAll entries).entries) : entry ∈ m.entries ∨ entry ∈ entries := by
  induction entries generalizing m with
  | nil => exact .inl h
  | cons first rest ih =>
    rcases ih h with h | h
    · rcases mem_write h with rfl | h
      · exact .inr List.mem_cons_self
      · exact .inl h
    · exact .inr (List.mem_cons_of_mem _ h)

end OrderedMap

/-! ## What a document declares -/

/-- The document declares the field on the type, in a definition of the type
or in an extension. -/
def Graphql.SchemaDocument.Declares (document : Graphql.SchemaDocument) (type : String)
    (field : Graphql.FieldDeclaration) : Prop :=
  ∃ declaration : Graphql.TypeDeclaration,
    (.type declaration ∈ document ∨ .extension declaration ∈ document) ∧
      declaration.name = type ∧ field ∈ declaration.fields

/-- Every field of the schema is declared by the document. -/
def Schema.DeclaredIn (schema : Schema) (document : Graphql.SchemaDocument) : Prop :=
  ∀ definition ∈ schema.types, ∀ entry ∈ definition.fields.entries,
    ∃ field, document.Declares definition.name field ∧ entry = FieldDefinition.ofDeclaration field

namespace Schema

variable {document : Graphql.SchemaDocument} {schema : Schema}

theorem mem_types_insert {definition added : TypeDefinition}
    (h : definition ∈ (schema.insert added).2.types) :
    definition ∈ schema.types ∨ definition = added := by
  unfold insert at h
  split at h
  · simpa using h
  · exact .inl h

theorem mem_types_extend {name : String} {fields : List (String × FieldDefinition)}
    {definition : TypeDefinition} (h : definition ∈ (schema.extend name fields).types) :
    definition ∈ schema.types ∨
      ∃ known ∈ schema.types, known.name = name ∧ definition = known.extend fields := by
  obtain ⟨known, hknown, rfl⟩ := List.mem_map.1 h
  split
  · rename_i hname
    exact .inr ⟨known, hknown, hname, rfl⟩
  · exact .inl hknown

theorem DeclaredIn.insert (h : schema.DeclaredIn document)
    {declaration : Graphql.TypeDeclaration} (hitem : .type declaration ∈ document) :
    (schema.insert (.ofDeclaration declaration)).2.DeclaredIn document := by
  intro definition hdefinition entry hentry
  rcases mem_types_insert hdefinition with hknown | rfl
  · exact h definition hknown entry hentry
  · rcases OrderedMap.mem_insertAll hentry with hempty | hfield
    · cases hempty
    · obtain ⟨field, hmem, rfl⟩ := List.mem_map.1 hfield
      exact ⟨field, ⟨declaration, .inl hitem, rfl, hmem⟩, rfl⟩

theorem DeclaredIn.extend (h : schema.DeclaredIn document)
    {declaration : Graphql.TypeDeclaration} (hitem : .extension declaration ∈ document) :
    (schema.extend declaration.name
      (declaration.fields.map FieldDefinition.ofDeclaration)).DeclaredIn document := by
  intro definition hdefinition entry hentry
  rcases mem_types_extend hdefinition with hknown | ⟨known, hknown, hname, rfl⟩
  · exact h definition hknown entry hentry
  · rcases OrderedMap.mem_insertAll hentry with hold | hfield
    · exact h known hknown entry hold
    · obtain ⟨field, hmem, rfl⟩ := List.mem_map.1 hfield
      exact ⟨field, ⟨declaration, .inr hitem, hname.symm, hmem⟩, rfl⟩

/-- One more definition of the document keeps every field declared. -/
theorem DeclaredIn.add {draft : Draft} {item : Graphql.SchemaItem}
    (h : draft.schema.DeclaredIn document) (hitem : item ∈ document) :
    (draft.add item).schema.DeclaredIn document := by
  cases item with
  | roots names => exact h
  | type declaration =>
    have hinsert := h.insert hitem
    unfold Draft.add
    dsimp only
    split <;> rename_i heq
    · rw [heq] at hinsert
      exact hinsert
    · exact h
  | extension declaration =>
    unfold Draft.add
    dsimp only
    split
    · exact h.extend hitem
    · exact h
  | directive name => exact h

theorem declaredIn_builtIn : builtIn.DeclaredIn document := by
  intro definition hdefinition entry hentry
  obtain ⟨name, -, rfl⟩ := List.mem_map.1 hdefinition
  cases hentry

theorem DeclaredIn.foldl_add {items : List Graphql.SchemaItem} {draft : Draft}
    (h : draft.schema.DeclaredIn document) (hitems : ∀ item ∈ items, item ∈ document) :
    (items.foldl Draft.add draft).schema.DeclaredIn document := by
  induction items generalizing draft with
  | nil => exact h
  | cons item rest ih =>
    exact ih (h.add (hitems item List.mem_cons_self))
      (fun other hother => hitems other (List.mem_cons_of_mem _ hother))

/-- The schema of a document has no field that the document does not declare. -/
theorem declaredIn_ofDocument (document : Graphql.SchemaDocument) :
    (ofDocument document).1.DeclaredIn document := by
  have hstart : Draft.start.schema.DeclaredIn document := declaredIn_builtIn
  exact hstart.foldl_add (fun _ h => h)

/-! ## Looking a field up -/

theorem get?_eq_some {name : String} {definition : TypeDefinition}
    (h : schema.get? name = some definition) :
    definition ∈ schema.types ∧ definition.name = name :=
  ⟨List.mem_of_find?_eq_some h, by simpa using List.find?_some h⟩

/-- A field that is found is one of a type of the schema, or it is the one that
every composite type has. -/
theorem exists_mem_of_field?_eq_some {parent field : String} {definition : FieldDefinition}
    (h : schema.field? parent field = some definition) :
    (field = typeNameField ∧ definition = ⟨.named "String", .empty⟩) ∨
      ∃ type ∈ schema.types, type.name = parent ∧ (field, definition) ∈ type.fields.entries := by
  obtain ⟨type, hget, hfound⟩ := Option.bind_eq_some_iff.1 h
  obtain ⟨htype, hparent⟩ := get?_eq_some hget
  split at hfound
  · rename_i hname
    simp only [Bool.and_eq_true, decide_eq_true_eq] at hname
    exact .inl ⟨hname.1, (Option.some.inj hfound).symm⟩
  · exact .inr ⟨type, htype, hparent, OrderedMap.mem_of_get?_eq_some hfound⟩

/-- A field that is found is declared, or it is the one that every composite
type has. -/
theorem DeclaredIn.field?_eq_some (h : schema.DeclaredIn document) {parent field : String}
    {definition : FieldDefinition} (hfield : schema.field? parent field = some definition) :
    (field = typeNameField ∧ definition = ⟨.named "String", .empty⟩) ∨
      ∃ declared, document.Declares parent declared ∧
        FieldDefinition.ofDeclaration declared = (field, definition) := by
  rcases exists_mem_of_field?_eq_some hfield with hown | ⟨type, htype, rfl, hentry⟩
  · exact .inl hown
  · obtain ⟨declared, hdeclares, hsame⟩ := h type htype _ hentry
    exact .inr ⟨declared, hdeclares, hsame.symm⟩

end Schema

end OperationModels
