-- The types of a schema, said of the definitions of its document: of the
-- definitions of a name the first counts, of the declarations of a field the
-- last does, and the items that name other types make no difference.
import Mathlib.Data.List.Nodup
import OperationModels.Proofs.DeclaredFields

namespace OperationModels

open Graphql

/-! ## Entries written one after the other -/

namespace OrderedMap

variable {κ α : Type} [DecidableEq κ]

/-- A map takes entries: each key at its first place, with its last value. -/
structure Takes (m : OrderedMap κ α) (entries : List (κ × α)) : Prop where
  keys : m.keys = (entries.map Prod.fst).eraseDups
  last : ∀ key, m.get? key = (entries.filter (fun entry => entry.1 = key)).getLast?.map Prod.snd

theorem insertAll_append (m : OrderedMap κ α) (entries more : List (κ × α)) :
    m.insertAll (entries ++ more) = (m.insertAll entries).insertAll more := by
  simp [insertAll]

theorem Takes.insert {m : OrderedMap κ α} {entries : List (κ × α)} (h : m.Takes entries)
    (entry : κ × α) : (m.insert entry.1 entry.2).Takes (entries ++ [entry]) where
  keys := by
    rw [keys_insert, h.keys, List.map_append, List.map_singleton, eraseDups_snoc]
    simp only [List.mem_eraseDups]
  last key := by
    rw [get?_insert, h.last, List.filter_append]
    by_cases hkey : key = entry.1
    · simp [hkey]
    · have hother : ¬ entry.1 = key := fun hsame => hkey hsame.symm
      simp [hkey, hother]

theorem takes_ofList (entries : List (κ × α)) : (ofList entries).Takes entries := by
  induction entries using List.reverseRecOn with
  | nil => exact ⟨rfl, fun _ => rfl⟩
  | append_singleton entries entry ih =>
    have hinsert := ih.insert entry
    unfold ofList at *
    rwa [insertAll_append]

theorem entries_ofList_eq_nil_iff {entries : List (κ × α)} :
    (ofList entries).entries = [] ↔ entries = [] := by
  constructor
  · intro hnone
    have hkeys := (takes_ofList entries).keys
    cases entries with
    | nil => rfl
    | cons entry rest =>
      rw [keys, hnone, List.map_cons, List.eraseDups_cons] at hkeys
      cases hkeys
  · rintro rfl
    rfl

end OrderedMap

/-! ## What a document says of a type -/

namespace Graphql

/-- The type that an item defines or extends. -/
def SchemaItem.typeName? : SchemaItem → Option String
  | .type declaration => some declaration.name
  | .extension declaration => some declaration.name
  | .roots _ => none
  | .directive _ => none

namespace SchemaDocument

/-- The definitions of types, in order. -/
def definitions (document : SchemaDocument) : List TypeDeclaration :=
  document.filterMap (fun item => match item with
    | .type declaration => some declaration
    | _ => none)

/-- The extensions of types, in order. -/
def extensions (document : SchemaDocument) : List TypeDeclaration :=
  document.filterMap (fun item => match item with
    | .extension declaration => some declaration
    | _ => none)

theorem mem_definitions_iff {document : SchemaDocument} {declaration : TypeDeclaration} :
    declaration ∈ document.definitions ↔ .type declaration ∈ document := by
  unfold definitions
  rw [List.mem_filterMap]
  constructor
  · rintro ⟨item, hitem, hdefines⟩
    split at hdefines <;> cases hdefines
    exact hitem
  · intro hitem
    exact ⟨_, hitem, rfl⟩

theorem mem_extensions_iff {document : SchemaDocument} {declaration : TypeDeclaration} :
    declaration ∈ document.extensions ↔ .extension declaration ∈ document := by
  unfold extensions
  rw [List.mem_filterMap]
  constructor
  · rintro ⟨item, hitem, hextends⟩
    split at hextends <;> cases hextends
    exact hitem
  · intro hitem
    exact ⟨_, hitem, rfl⟩

/-- The definition of a type that counts: for a built-in scalar that of a
scalar without fields, and else the first of its name. -/
def definition? (document : SchemaDocument) (name : String) : Option TypeDeclaration :=
  if name ∈ builtInScalars then some ⟨name, .scalar, []⟩
  else document.definitions.find? (fun declaration => declaration.name = name)

/-- The fields declared for a type: those of the definition that counts, and
those of its extensions behind them. -/
def fieldsOf (document : SchemaDocument) (name : String) : List FieldDeclaration :=
  ((document.definition? name).toList ++
    document.extensions.filter (fun declaration => declaration.name = name)).flatMap
      TypeDeclaration.fields

/-- Each extension comes behind a definition of its type. -/
def ExtendsDefined (document : SchemaDocument) : Prop :=
  ∀ (before : SchemaDocument) declaration after,
    document = before ++ .extension declaration :: after →
      (before.definition? declaration.name).isSome

/-- The items that define or extend a type. -/
def itemsOf (document : SchemaDocument) (name : String) : SchemaDocument :=
  document.filter (fun item => item.typeName? = some name)

end SchemaDocument

end Graphql

/-- The definition of a field says what its declaration says; an argument keeps
its first place and its last type. -/
structure FieldDefinition.Signs (definition : FieldDefinition) (declared : FieldDeclaration) :
    Prop where
  type : definition.type = .ofRef declared.type
  arguments : definition.arguments.Takes
    (declared.arguments.map (fun argument => (argument.1, .ofRef argument.2)))

/-- A type is what a document declares of its name: it has the kind of the
definition that counts, and each declared field once, at the place of its
first declaration and as its last one says. -/
structure TypeDefinition.DeclaredBy (definition : TypeDefinition) (document : SchemaDocument) :
    Prop where
  kind : (document.definition? definition.name).map TypeDeclaration.kind = some definition.kind
  fields : definition.fields.keys =
    ((document.fieldsOf definition.name).map FieldDeclaration.name).eraseDups
  signatures : ∀ name field, definition.fields.get? name = some field →
    ∃ declared, ((document.fieldsOf definition.name).filter
      (fun declared => declared.name = name)).getLast? = some declared ∧ field.Signs declared

/-- Names that come again, in order, where some are known from the start. -/
def repeats (known : List String) : List String → List String
  | [] => []
  | name :: rest =>
    if name ∈ known then name :: repeats known rest else repeats (known ++ [name]) rest

theorem repeats_snoc (known names : List String) (name : String) :
    repeats known (names ++ [name]) =
      repeats known names ++ if name ∈ known ++ names then [name] else [] := by
  induction names generalizing known with
  | nil =>
    by_cases hknown : name ∈ known <;> simp [repeats, hknown]
  | cons first rest ih =>
    rw [List.cons_append, repeats, repeats, ih, ih]
    by_cases hfirst : first ∈ known
    · simp only [hfirst, if_true, List.mem_append, List.mem_cons]
      by_cases hsame : name = first
      · subst hsame
        simp [hfirst]
      · simp [hsame]
    · simp [hfirst]

/-! ## One definition more -/

namespace Graphql

namespace SchemaDocument

theorem definition?_append {document : SchemaDocument} {name : String}
    {declaration : TypeDeclaration} (h : document.definition? name = some declaration)
    (more : SchemaDocument) : definition? (document ++ more) name = some declaration := by
  unfold definition? definitions at *
  split
  · rename_i hbuiltIn
    rwa [if_pos hbuiltIn] at h
  · rename_i hnew
    rw [if_neg hnew] at h
    rw [List.filterMap_append, List.find?_append, h, Option.some_or]

theorem definition?_snoc_type (document : SchemaDocument) (declaration : TypeDeclaration)
    (name : String) :
    definition? (document ++ [.type declaration]) name =
      (document.definition? name).or
        (if declaration.name = name then some declaration else none) := by
  unfold definition? definitions
  split
  · rfl
  · rw [List.filterMap_append, List.find?_append]
    by_cases hname : declaration.name = name <;> simp [hname]

theorem definitions_snoc_type (document : SchemaDocument) (declaration : TypeDeclaration) :
    definitions (document ++ [.type declaration]) = document.definitions ++ [declaration] := by
  simp [definitions]

/-- An item that is no definition leaves the definitions as they are. -/
theorem definitions_snoc_of_ne {document : SchemaDocument} {item : SchemaItem}
    (h : ∀ declaration, item ≠ .type declaration) :
    definitions (document ++ [item]) = document.definitions := by
  unfold definitions
  cases item with
  | type declaration => exact absurd rfl (h declaration)
  | _ => simp

theorem definition?_snoc_of_ne {document : SchemaDocument} {item : SchemaItem}
    (h : ∀ declaration, item ≠ .type declaration) (name : String) :
    definition? (document ++ [item]) name = document.definition? name := by
  unfold definition?
  rw [definitions_snoc_of_ne h]

namespace ExtendsDefined

variable {document : SchemaDocument} {item : SchemaItem} {declaration : TypeDeclaration}

theorem of_snoc (h : ExtendsDefined (document ++ [item])) : document.ExtendsDefined := by
  intro before declaration after hsplit
  apply h before declaration (after ++ [item])
  simp [hsplit]

theorem isSome_of_snoc (h : ExtendsDefined (document ++ [.extension declaration])) :
    (document.definition? declaration.name).isSome :=
  h document declaration [] rfl

/-- What has no definition has no extension. -/
theorem filter_extensions_eq_nil (h : document.ExtendsDefined) {name : String}
    (hnone : document.definition? name = none) :
    document.extensions.filter (fun declaration => declaration.name = name) = [] := by
  rw [List.filter_eq_nil_iff]
  intro declaration hmem
  obtain ⟨before, after, hsplit⟩ := List.append_of_mem (mem_extensions_iff.1 hmem)
  obtain ⟨known, hknown⟩ := Option.isSome_iff_exists.1 (h before declaration after hsplit)
  have hlater := definition?_append hknown (.extension declaration :: after)
  rw [← hsplit] at hlater
  intro hname
  rw [of_decide_eq_true hname, hnone] at hlater
  cases hlater

end ExtendsDefined

end SchemaDocument

/-- What an item makes of a type of a name, which may be defined already. -/
def SchemaItem.onto (name : String) (known : Option TypeDefinition) (item : SchemaItem) :
    Option TypeDefinition :=
  match item with
  | .type declaration =>
    if declaration.name = name then known.or (some (.ofDeclaration declaration)) else known
  | .extension declaration =>
    if declaration.name = name then
      known.map (fun definition =>
        definition.extend (declaration.fields.map FieldDefinition.ofDeclaration))
    else known
  | _ => known

end Graphql

namespace Schema

/-! ## One item more -/

/-- The names of the types, in order. -/
def names (schema : Schema) : List String := schema.types.map TypeDefinition.name

theorem defines_iff {schema : Schema} {name : String} :
    schema.defines name = true ↔ name ∈ schema.names := by
  simp [defines, get?, names, List.find?_isSome]

theorem insert_of_defines {schema : Schema} {definition : TypeDefinition}
    (h : schema.defines definition.name = true) : schema.insert definition = (false, schema) := by
  unfold insert
  rw [dif_neg (by simp [h])]

theorem insert_of_new {schema : Schema} {definition : TypeDefinition}
    (h : schema.defines definition.name = false) :
    (schema.insert definition).1 = true ∧
      (schema.insert definition).2.types = schema.types ++ [definition] := by
  unfold insert
  rw [dif_pos h]
  exact ⟨rfl, rfl⟩

/-- A definition of a known name is told, and one of a new name comes last. -/
theorem add_type (draft : Draft) (declaration : TypeDeclaration) :
    draft.add (.type declaration) =
      if draft.schema.defines declaration.name then
        { draft with warnings := draft.warnings ++ [.duplicateType declaration.name] }
      else { draft with schema := (draft.schema.insert (.ofDeclaration declaration)).2 } := by
  have hname : (TypeDefinition.ofDeclaration declaration).name = declaration.name := rfl
  unfold Draft.add
  dsimp only
  cases hdefines : draft.schema.defines declaration.name with
  | true =>
    rw [insert_of_defines (hname ▸ hdefines)]
    rfl
  | false =>
    have hunknown : draft.schema.defines (TypeDefinition.ofDeclaration declaration).name = false :=
      hname ▸ hdefines
    have hnew := (insert_of_new hunknown).1
    split
    · rename_i schema hinsert
      rw [hinsert]
      rfl
    · rename_i schema hinsert
      rw [hinsert] at hnew
      cases hnew

theorem add_extension (draft : Draft) (declaration : TypeDeclaration) :
    draft.add (.extension declaration) =
      if draft.schema.defines declaration.name then
        { draft with
          schema := draft.schema.extend declaration.name
            (declaration.fields.map FieldDefinition.ofDeclaration) }
      else { draft with warnings := draft.warnings ++ [.unknownExtension declaration.name] } :=
  rfl

theorem get?_builtIn (name : String) :
    builtIn.get? name =
      if name ∈ builtInScalars then some ⟨name, .scalar, .empty⟩ else none := by
  unfold get? builtIn
  dsimp only
  rw [List.find?_map]
  cases hfind : builtInScalars.find? (fun known => decide (known = name)) with
  | none =>
    have hnew : name ∉ builtInScalars := fun hmem => by
      simpa using List.find?_eq_none.1 hfind name hmem
    rw [if_neg hnew]
    exact congrArg (Option.map _) hfind
  | some known =>
    have hsame : known = name := by simpa using List.find?_some hfind
    subst hsame
    rw [if_pos (List.mem_of_find?_eq_some hfind)]
    exact congrArg (Option.map _) hfind

theorem get?_of_new {schema : Schema} {definition : TypeDefinition}
    (h : schema.defines definition.name = false) (name : String) :
    (schema.insert definition).2.get? name =
      (schema.get? name).or (if definition.name = name then some definition else none) := by
  unfold get?
  rw [(insert_of_new h).2, List.find?_append]
  by_cases hname : definition.name = name <;> simp [hname]

theorem get?_extend (schema : Schema) (extended : String)
    (fields : List (String × FieldDefinition)) (name : String) :
    (schema.extend extended fields).get? name =
      if extended = name then (schema.get? name).map (fun known => known.extend fields)
      else schema.get? name := by
  have hsame : (fun definition : TypeDefinition => decide (definition.name = name)) ∘
      (fun definition => if definition.name = extended then definition.extend fields
        else definition) = fun definition => decide (definition.name = name) := by
    funext definition
    rw [Function.comp_apply]
    split <;> rfl
  unfold extend get?
  dsimp only
  rw [List.find?_map, hsame]
  cases hfind : schema.types.find? (fun definition => definition.name = name) with
  | none => simp
  | some definition =>
    have hname : definition.name = name := by simpa using List.find?_some hfind
    rw [Option.map_some, hname, Option.map_some]
    by_cases hextended : extended = name
    · rw [if_pos hextended, if_pos hextended.symm]
    · rw [if_neg hextended, if_neg (Ne.symm hextended)]

theorem get?_add (draft : Draft) (item : SchemaItem) (name : String) :
    (draft.add item).schema.get? name = item.onto name (draft.schema.get? name) := by
  cases item with
  | roots names => rfl
  | directive key => rfl
  | type declaration =>
    rw [add_type, SchemaItem.onto]
    by_cases hdefines : draft.schema.defines declaration.name = true
    · rw [if_pos hdefines]
      split
      · rename_i hname
        rw [← hname]
        obtain ⟨known, hknown⟩ := Option.isSome_iff_exists.1 hdefines
        rw [hknown, Option.some_or]
      · rfl
    · rw [if_neg hdefines, get?_of_new (Bool.eq_false_iff.2 hdefines)]
      by_cases hname : declaration.name = name <;> simp [hname, TypeDefinition.ofDeclaration]
  | extension declaration =>
    rw [SchemaItem.onto, ← get?_extend, add_extension]
    by_cases hdefines : draft.schema.defines declaration.name = true
    · rw [if_pos hdefines]
    · rw [if_neg hdefines]
      have hnone : draft.schema.get? declaration.name = none := by
        simpa [defines] using hdefines
      rw [get?_extend]
      split
      · rename_i hname
        rw [← hname, hnone]
        rfl
      · rfl

theorem get?_foldl_add (items : List SchemaItem) (draft : Draft) (name : String) :
    (items.foldl Draft.add draft).schema.get? name =
      items.foldl (SchemaItem.onto name) (draft.schema.get? name) := by
  induction items generalizing draft with
  | nil => rfl
  | cons item rest ih => rw [List.foldl_cons, List.foldl_cons, ih, get?_add]

/-! ## A whole document -/

theorem foldl_onto_itemsOf (document : SchemaDocument) (name : String)
    (known : Option TypeDefinition) :
    (document.itemsOf name).foldl (SchemaItem.onto name) known =
      document.foldl (SchemaItem.onto name) known := by
  induction document generalizing known with
  | nil => rfl
  | cons item rest ih =>
    unfold SchemaDocument.itemsOf at *
    by_cases hname : item.typeName? = some name
    · rw [List.filter_cons_of_pos (by simpa using hname), List.foldl_cons, List.foldl_cons, ih]
    · rw [List.filter_cons_of_neg (by simpa using hname), List.foldl_cons, ih]
      have hother : item.onto name known = known := by
        cases item with
        | type declaration => simp_all [SchemaItem.onto, SchemaItem.typeName?]
        | extension declaration => simp_all [SchemaItem.onto, SchemaItem.typeName?]
        | _ => rfl
      rw [hother]

theorem get?_ofDocument (document : SchemaDocument) (name : String) :
    (ofDocument document).1.get? name =
      document.foldl (SchemaItem.onto name) (builtIn.get? name) :=
  get?_foldl_add document .start name

end Schema

namespace Graphql.SchemaDocument

theorem fieldsOf_snoc_of_ne {document : SchemaDocument} {item : SchemaItem} {name : String}
    (hdefinition : definition? (document ++ [item]) name = document.definition? name)
    (h : ∀ declaration, item = .extension declaration → declaration.name ≠ name) :
    fieldsOf (document ++ [item]) name = document.fieldsOf name := by
  unfold fieldsOf extensions
  rw [hdefinition, List.filterMap_append, List.filter_append]
  cases item with
  | extension declaration =>
    have hname := h declaration rfl
    simp [hname]
  | _ => simp

theorem fieldsOf_snoc_extension (document : SchemaDocument) (declaration : TypeDeclaration) :
    fieldsOf (document ++ [.extension declaration]) declaration.name =
      document.fieldsOf declaration.name ++ declaration.fields := by
  unfold fieldsOf extensions
  rw [definition?_snoc_of_ne (fun _ h => by cases h), List.filterMap_append, List.filter_append]
  simp

/-- The first definition of a name comes without fields declared before it. -/
theorem ExtendsDefined.fieldsOf_snoc_type {document : SchemaDocument}
    (h : document.ExtendsDefined) {declaration : TypeDeclaration}
    (hnone : document.definition? declaration.name = none) :
    fieldsOf (document ++ [.type declaration]) declaration.name = declaration.fields := by
  have hextensions := h.filter_extensions_eq_nil hnone
  unfold fieldsOf
  rw [definition?_snoc_type, hnone, if_pos rfl]
  unfold extensions at *
  rw [List.filterMap_append, List.filter_append, hextensions]
  simp

/-- The type of a name as a document declares it. -/
def typeOf? (document : SchemaDocument) (name : String) : Option TypeDefinition :=
  (document.definition? name).map (fun declaration =>
    { name := name
      kind := declaration.kind
      fields := .ofList ((document.fieldsOf name).map FieldDefinition.ofDeclaration) })

variable {document : SchemaDocument} {item : SchemaItem}

theorem typeOf?_snoc_of_ne {name : String}
    (hdefinition : definition? (document ++ [item]) name = document.definition? name)
    (h : ∀ declaration, item = .extension declaration → declaration.name ≠ name) :
    typeOf? (document ++ [item]) name = document.typeOf? name := by
  unfold typeOf?
  rw [hdefinition, fieldsOf_snoc_of_ne hdefinition h]

theorem ExtendsDefined.typeOf?_snoc_type {declaration : TypeDeclaration}
    (h : document.ExtendsDefined) :
    typeOf? (document ++ [.type declaration]) declaration.name =
      (document.typeOf? declaration.name).or (some (.ofDeclaration declaration)) := by
  have hsnoc := definition?_snoc_type document declaration declaration.name
  rw [if_pos rfl] at hsnoc
  cases hdefinition : document.definition? declaration.name with
  | some known =>
    have hknown : definition? (document ++ [.type declaration]) declaration.name =
        document.definition? declaration.name := by
      rw [hsnoc, hdefinition, Option.some_or]
    rw [typeOf?_snoc_of_ne hknown (fun _ hitem => by cases hitem)]
    unfold typeOf?
    rw [hdefinition, Option.map_some, Option.some_or]
  | none =>
    unfold typeOf?
    rw [hsnoc, hdefinition, h.fieldsOf_snoc_type hdefinition]
    rfl

theorem typeOf?_snoc_extension {declaration : TypeDeclaration} :
    typeOf? (document ++ [.extension declaration]) declaration.name =
      (document.typeOf? declaration.name).map (fun definition =>
        definition.extend (declaration.fields.map FieldDefinition.ofDeclaration)) := by
  unfold typeOf?
  rw [definition?_snoc_of_ne (fun _ hitem => by cases hitem), fieldsOf_snoc_extension,
    List.map_append, Option.map_map]
  refine congrArg (fun f => Option.map f _) ?_
  funext known
  simp [TypeDefinition.extend, OrderedMap.ofList, OrderedMap.insertAll_append]

/-- One item more makes of the declared type what it makes of a type. -/
theorem ExtendsDefined.typeOf?_snoc (h : document.ExtendsDefined) (item : SchemaItem)
    (name : String) :
    typeOf? (document ++ [item]) name = item.onto name (document.typeOf? name) := by
  have hother : ∀ other : SchemaItem, (∀ declaration, other ≠ .type declaration) →
      (∀ declaration, other = .extension declaration → declaration.name ≠ name) →
      typeOf? (document ++ [other]) name = document.typeOf? name :=
    fun other hnew => typeOf?_snoc_of_ne (definition?_snoc_of_ne hnew name)
  cases item with
  | roots names => exact hother _ (fun _ hitem => by cases hitem) (fun _ hitem => by cases hitem)
  | directive key => exact hother _ (fun _ hitem => by cases hitem) (fun _ hitem => by cases hitem)
  | type declaration =>
    rw [SchemaItem.onto]
    split
    · rename_i hname
      subst hname
      exact h.typeOf?_snoc_type
    · rename_i hname
      have hsnoc := definition?_snoc_type document declaration name
      rw [if_neg hname, Option.or_none] at hsnoc
      exact typeOf?_snoc_of_ne hsnoc (fun _ hitem => by cases hitem)
  | extension declaration =>
    rw [SchemaItem.onto]
    split
    · rename_i hname
      subst hname
      exact typeOf?_snoc_extension
    · rename_i hname
      refine hother _ (fun _ hitem => by cases hitem) ?_
      rintro _ ⟨⟩
      exact hname

end Graphql.SchemaDocument

namespace Schema

/-- Taken in order, the items of a document make the types that it declares. -/
theorem foldl_onto_eq_typeOf? {document : SchemaDocument} (h : document.ExtendsDefined)
    (name : String) :
    document.foldl (SchemaItem.onto name) (builtIn.get? name) = document.typeOf? name := by
  induction document using List.reverseRecOn with
  | nil =>
    rw [List.foldl_nil, get?_builtIn]
    by_cases hname : name ∈ builtInScalars <;>
      simp [SchemaDocument.typeOf?, SchemaDocument.definition?, SchemaDocument.definitions,
        SchemaDocument.fieldsOf, SchemaDocument.extensions, hname, OrderedMap.ofList,
        OrderedMap.insertAll]
  | append_singleton document item ih =>
    rw [List.foldl_append, List.foldl_cons, List.foldl_nil, ih h.of_snoc, h.of_snoc.typeOf?_snoc]

/-! ## Names and warnings -/

theorem names_insert_of_new {schema : Schema} {definition : TypeDefinition}
    (h : schema.defines definition.name = false) :
    (schema.insert definition).2.names = schema.names ++ [definition.name] := by
  unfold names
  rw [(insert_of_new h).2, List.map_append, List.map_singleton]

theorem names_extend (schema : Schema) (name : String) (fields : List (String × FieldDefinition)) :
    (schema.extend name fields).names = schema.names := by
  unfold names extend
  dsimp only
  rw [List.map_map]
  refine List.map_congr_left (fun definition _ => ?_)
  rw [Function.comp_apply]
  split <;> rfl

theorem names_add (draft : Draft) (item : SchemaItem) :
    (draft.add item).schema.names =
      match item with
      | .type declaration =>
        if declaration.name ∈ draft.schema.names then draft.schema.names
        else draft.schema.names ++ [declaration.name]
      | _ => draft.schema.names := by
  cases item with
  | roots names => rfl
  | directive key => rfl
  | type declaration =>
    rw [add_type]
    by_cases hdefines : draft.schema.defines declaration.name = true
    · rw [if_pos hdefines]
      exact (if_pos (defines_iff.1 hdefines)).symm
    · rw [if_neg hdefines]
      refine Eq.trans ?_ (if_neg (fun hmem => hdefines (defines_iff.2 hmem))).symm
      exact names_insert_of_new (Bool.eq_false_iff.2 hdefines)
  | extension declaration =>
    rw [add_extension]
    split
    · exact names_extend _ _ _
    · rfl

theorem names_ofDocument (document : SchemaDocument) :
    (ofDocument document).1.names =
      (builtInScalars ++ document.definitions.map TypeDeclaration.name).eraseDups := by
  show (document.foldl Draft.add .start).schema.names = _
  induction document using List.reverseRecOn with
  | nil => decide
  | append_singleton document item ih =>
    rw [List.foldl_append, List.foldl_cons, List.foldl_nil, names_add, ih]
    cases item with
    | type declaration =>
      rw [SchemaDocument.definitions_snoc_type, List.map_append, List.map_singleton,
        ← List.append_assoc, eraseDups_snoc]
      simp only [List.mem_eraseDups]
    | _ => rw [SchemaDocument.definitions_snoc_of_ne (fun _ h => by cases h)]

/-- A name is defined by a document just if it is built in or has a definition. -/
theorem isSome_definition?_iff (document : SchemaDocument) (name : String) :
    (document.definition? name).isSome = true ↔
      name ∈ builtInScalars ++ document.definitions.map TypeDeclaration.name := by
  unfold SchemaDocument.definition?
  by_cases hname : name ∈ builtInScalars
  · simp [hname]
  · simp [hname, List.find?_isSome]

theorem defines_foldl_add_iff (document : SchemaDocument) (name : String) :
    (document.foldl Draft.add .start).schema.defines name = true ↔
      (document.definition? name).isSome = true := by
  have hnames : (document.foldl Draft.add .start).schema.names = _ := names_ofDocument document
  rw [defines_iff, hnames, List.mem_eraseDups, isSome_definition?_iff]

theorem warnings_foldl_add {document : SchemaDocument} (h : document.ExtendsDefined) :
    (document.foldl Draft.add .start).warnings =
      (repeats builtInScalars (document.definitions.map TypeDeclaration.name)).map
        .duplicateType := by
  induction document using List.reverseRecOn with
  | nil => rfl
  | append_singleton document item ih =>
    have hdefines := defines_foldl_add_iff document
    rw [List.foldl_append, List.foldl_cons, List.foldl_nil]
    cases item with
    | type declaration =>
      have hknown := isSome_definition?_iff document declaration.name
      rw [← hdefines] at hknown
      rw [add_type, SchemaDocument.definitions_snoc_type, List.map_append, List.map_singleton,
        repeats_snoc]
      simp only [hknown]
      split
      · rw [List.map_append, ← ih h.of_snoc]
        rfl
      · rw [List.append_nil, ← ih h.of_snoc]
    | extension declaration =>
      have hdefined := (hdefines declaration.name).2 h.isSome_of_snoc
      rw [SchemaDocument.definitions_snoc_of_ne (fun _ h => by cases h), ← ih h.of_snoc,
        add_extension, if_pos hdefined]
    | roots names =>
      rw [SchemaDocument.definitions_snoc_of_ne (fun _ h => by cases h), ← ih h.of_snoc]
      rfl
    | directive key =>
      rw [SchemaDocument.definitions_snoc_of_ne (fun _ h => by cases h), ← ih h.of_snoc]
      rfl

theorem get?_of_mem {schema : Schema} {definition : TypeDefinition}
    (h : definition ∈ schema.types) : schema.get? definition.name = some definition := by
  have hdefines : schema.defines definition.name = true :=
    defines_iff.2 (List.mem_map_of_mem h)
  obtain ⟨found, hfound⟩ := Option.isSome_iff_exists.1 hdefines
  obtain ⟨hmem, hname⟩ := get?_eq_some hfound
  rw [hfound, List.inj_on_of_nodup_map schema.distinct hmem h hname]

/-! ## What is told makes no difference -/

/-- Two drafts of one schema, whatever was told of each. -/
structure Draft.Alike (draft other : Draft) : Prop where
  schema : draft.schema = other.schema
  roots : draft.roots = other.roots

theorem Draft.Alike.symm {draft other : Draft} (h : draft.Alike other) : other.Alike draft :=
  ⟨h.schema.symm, h.roots.symm⟩

theorem Draft.Alike.trans {draft other third : Draft} (h : draft.Alike other)
    (h' : other.Alike third) : draft.Alike third :=
  ⟨h.schema.trans h'.schema, h.roots.trans h'.roots⟩

theorem Draft.Alike.add {draft other : Draft} (h : draft.Alike other) (item : SchemaItem) :
    (draft.add item).Alike (other.add item) := by
  cases item with
  | roots names => exact ⟨h.schema, rfl⟩
  | directive key => exact h
  | type declaration =>
    rw [add_type, add_type, h.schema]
    split <;> exact ⟨rfl, h.roots⟩
  | extension declaration =>
    rw [add_extension, add_extension, h.schema]
    split <;> exact ⟨rfl, h.roots⟩

theorem Draft.Alike.foldl_add {draft other : Draft} (h : draft.Alike other)
    (items : List SchemaItem) :
    (items.foldl Draft.add draft).Alike (items.foldl Draft.add other) := by
  induction items generalizing draft other with
  | nil => exact h
  | cons item rest ih => exact ih (h.add item)

/-- Alike drafts of two documents make one schema. -/
theorem Draft.Alike.ofDocument_eq {document other : SchemaDocument}
    (h : (document.foldl Draft.add .start).Alike (other.foldl Draft.add .start)) :
    (ofDocument document).1 = (ofDocument other).1 := by
  unfold ofDocument
  dsimp only
  rw [h.schema, h.roots]

/-- A definition of a name that is known already changes nothing. -/
theorem ofDocument_of_known {before : SchemaDocument} {declaration : TypeDeclaration}
    (h : (before.definition? declaration.name).isSome = true) (after : SchemaDocument) :
    (ofDocument (before ++ .type declaration :: after)).1 = (ofDocument (before ++ after)).1 := by
  have hdefines := (defines_foldl_add_iff before declaration.name).2 h
  have hadd : ((before.foldl Draft.add .start).add (.type declaration)).Alike
      (before.foldl Draft.add .start) := by
    rw [add_type, if_pos hdefines]
    exact ⟨rfl, rfl⟩
  apply Draft.Alike.ofDocument_eq
  rw [List.foldl_append, List.foldl_append, List.foldl_cons]
  exact hadd.foldl_add after

/-! ## The schema of a document -/

theorem parse_eq_ok {name text : String} {schema : Schema} {told : List Warning}
    (h : parse name text = .ok (schema, told)) :
    ∃ document, SchemaDocument.parse text = .ok document ∧ schema = (ofDocument document).1 := by
  unfold parse at h
  split at h
  · rename_i document hdocument
    cases h
    exact ⟨document, hdocument, rfl⟩
  · cases h

theorem types_ofDocument (document : SchemaDocument) :
    (ofDocument document).1.names = builtInScalars ++
      ((document.definitions.map TypeDeclaration.name).filter
        (fun name => name ∉ builtInScalars)).eraseDups := by
  have hbuiltIn : builtInScalars.eraseDups = builtInScalars := by decide
  rw [names_ofDocument, List.eraseDups_append, hbuiltIn]
  simp [List.removeAll]

theorem signs_ofDeclaration (declared : FieldDeclaration) :
    (FieldDefinition.ofDeclaration declared).2.Signs declared :=
  ⟨rfl, OrderedMap.takes_ofList _⟩

theorem declaredBy_of_mem {document : SchemaDocument} (h : document.ExtendsDefined)
    {definition : TypeDefinition} (hmem : definition ∈ (ofDocument document).1.types) :
    definition.DeclaredBy document := by
  have hget := get?_of_mem hmem
  rw [get?_ofDocument, foldl_onto_eq_typeOf? h] at hget
  obtain ⟨declaration, hdefinition, hmade⟩ := Option.map_eq_some_iff.1 hget
  have hkind : declaration.kind = definition.kind := congrArg TypeDefinition.kind hmade
  have hfields : OrderedMap.ofList ((document.fieldsOf definition.name).map
      FieldDefinition.ofDeclaration) = definition.fields := congrArg TypeDefinition.fields hmade
  have htakes := OrderedMap.takes_ofList
    ((document.fieldsOf definition.name).map FieldDefinition.ofDeclaration)
  rw [hfields] at htakes
  refine ⟨by rw [hdefinition, Option.map_some, hkind], ?_, ?_⟩
  · rw [htakes.keys, List.map_map]
    rfl
  · intro name field hfield
    rw [htakes.last, List.filter_map, List.getLast?_map, Option.map_map] at hfield
    obtain ⟨declared, hlast, rfl⟩ := Option.map_eq_some_iff.1 hfield
    exact ⟨declared, hlast, signs_ofDeclaration declared⟩

/-- A document in which each extension comes behind a definition of its type
makes this schema: the built-in scalars come first, then the other names as
they are first defined; each type is what the document declares of its name;
and just the definitions of known names are told as repeated. Such a definition
changes nothing in the schema, and neither do items of other names in a type. -/
theorem types_are_as_first_defined_and_last_declared {document : SchemaDocument}
    (h : document.ExtendsDefined) :
    (ofDocument document).1.names = builtInScalars ++
        ((document.definitions.map TypeDeclaration.name).filter
          (fun name => name ∉ builtInScalars)).eraseDups ∧
      (∀ definition ∈ (ofDocument document).1.types, definition.DeclaredBy document) ∧
      (ofDocument document).2 =
        (repeats builtInScalars (document.definitions.map TypeDeclaration.name)).map
            .duplicateType ++
          (ofDocument document).1.undefinedReferences.map (fun reference =>
            .undefinedType reference.name reference.parent reference.field) ∧
      (∀ (before : SchemaDocument) declaration after,
        document = before ++ .type declaration :: after →
        (before.definition? declaration.name).isSome →
          (ofDocument document).1 = (ofDocument (before ++ after)).1) ∧
      (∀ (other : SchemaDocument) name, other.itemsOf name = document.itemsOf name →
        (ofDocument other).1.get? name = (ofDocument document).1.get? name) := by
  refine ⟨types_ofDocument document, fun definition => declaredBy_of_mem h, ?_, ?_, ?_⟩
  · unfold ofDocument
    dsimp only
    rw [warnings_foldl_add h]
  · rintro before declaration after rfl hknown
    exact ofDocument_of_known hknown after
  · intro other name hsame
    rw [get?_ofDocument, get?_ofDocument, ← foldl_onto_itemsOf, hsame, foldl_onto_itemsOf]

/-- A catalog of books that defines a built-in scalar anew and a type twice, and
that declares a field twice in a definition and another in two extensions. -/
def catalogDocument : SchemaDocument :=
  [.type ⟨"Query", .object,
      [⟨"book", [("id", .named "ID"), ("id", .nonNull (.named "ID"))], .named "Book"⟩,
        ⟨"count", [], .named "Int"⟩, ⟨"book", [], .named "Book"⟩]⟩,
    .type ⟨"Int", .object, [⟨"digits", [], .named "String"⟩]⟩,
    .type ⟨"Book", .object, [⟨"title", [], .named "String"⟩]⟩,
    .extension ⟨"Query", .object,
      [⟨"count", [("of", .named "String")], .nonNull (.named "Int")⟩]⟩,
    .type ⟨"Book", .enum, []⟩,
    .extension ⟨"Query", .object,
      [⟨"first", [], .named "Book"⟩, ⟨"count", [], .named "Int"⟩]⟩]

theorem extendsDefined_catalogDocument : catalogDocument.ExtendsDefined := by
  intro before declaration after hsplit
  simp only [catalogDocument, List.cons_eq_append_iff, List.cons.injEq, reduceCtorEq, false_and,
    and_false, SchemaItem.extension.injEq, List.nil_eq, List.append_eq_nil_iff, exists_const,
    or_false, ↓existsAndEq, true_and, false_or] at hsplit
  rcases hsplit with ⟨rest, rfl, ⟨-, rfl, -⟩ | ⟨-, rfl, -⟩⟩ <;> rfl

theorem types_of_the_catalog_are_as_first_defined_and_last_declared :
    catalogDocument.ExtendsDefined ∧
      (ofDocument catalogDocument).1.names = builtInScalars ++ ["Query", "Book"] ∧
      (∀ definition ∈ (ofDocument catalogDocument).1.types,
        definition.DeclaredBy catalogDocument) ∧
      (ofDocument catalogDocument).2 = [.duplicateType "Int", .duplicateType "Book"] := by
  have hextends := extendsDefined_catalogDocument
  obtain ⟨hnames, htypes, htold, -, -⟩ :=
    types_are_as_first_defined_and_last_declared hextends
  exact ⟨hextends, hnames.trans (by decide +kernel), htypes, htold.trans (by decide +kernel)⟩

end Schema

end OperationModels
