-- Extensions that come early. A document is read in order, so an extension
-- counts only behind a definition of its type: one that stands before it is
-- passed over and told to extend an unknown type, whatever follows.
import OperationModels.Proofs.DefinedTypes

namespace OperationModels

open Graphql

/-! ## What counts and what is told -/

namespace Graphql

namespace SchemaItem

/-- The types that an item defines. -/
def definedNames : SchemaItem → List String
  | .type declaration => [declaration.name]
  | _ => []

/-- Does an item count where these types are known? -/
def counts (known : List String) : SchemaItem → Bool
  | .extension declaration => declaration.name ∈ known
  | _ => true

/-- What is told of an item where these types are known. -/
def told (known : List String) : SchemaItem → List Warning
  | .type declaration =>
    if declaration.name ∈ known then [.duplicateType declaration.name] else []
  | .extension declaration =>
    if declaration.name ∈ known then [] else [.unknownExtension declaration.name]
  | _ => []

theorem definedNames_extension (declaration : TypeDeclaration) :
    definedNames (.extension declaration) = [] := rfl

end SchemaItem

namespace SchemaDocument

def definedNames (document : SchemaDocument) : List String :=
  document.flatMap SchemaItem.definedNames

/-- What the items give in order, each where the types before it are known, and
some from the start. -/
def scan {α : Type} (gives : List String → SchemaItem → List α) (known : List String) :
    SchemaDocument → List α
  | [] => []
  | item :: rest => gives known item ++ scan gives (known ++ item.definedNames) rest

/-- The items that count: all but the extensions before any definition of
their type. -/
def effective (document : SchemaDocument) : SchemaDocument :=
  document.scan (fun known item => if item.counts known then [item] else []) builtInScalars

/-- What is told of the items. -/
def told (document : SchemaDocument) : List Warning :=
  document.scan SchemaItem.told builtInScalars

theorem definedNames_cons (item : SchemaItem) (rest : SchemaDocument) :
    definedNames (item :: rest) = item.definedNames ++ definedNames rest :=
  List.flatMap_cons

theorem definedNames_append (document more : SchemaDocument) :
    definedNames (document ++ more) = document.definedNames ++ more.definedNames :=
  List.flatMap_append

theorem definedNames_eq (document : SchemaDocument) :
    document.definedNames = document.definitions.map TypeDeclaration.name := by
  induction document with
  | nil => rfl
  | cons item rest ih =>
    rw [definedNames_cons, ih]
    cases item <;> rfl

theorem scan_append {α : Type} (gives : List String → SchemaItem → List α) (known : List String)
    (document more : SchemaDocument) :
    scan gives known (document ++ more) =
      scan gives known document ++ scan gives (known ++ document.definedNames) more := by
  induction document generalizing known with
  | nil => rw [List.nil_append, scan, List.nil_append, definedNames, List.flatMap_nil,
      List.append_nil]
  | cons item rest ih =>
    rw [List.cons_append, scan, scan, ih, List.append_assoc, List.append_assoc,
      definedNames_cons]

theorem effective_snoc (document : SchemaDocument) (item : SchemaItem) :
    effective (document ++ [item]) = document.effective ++
      if item.counts (builtInScalars ++ document.definedNames) then [item] else [] := by
  unfold effective
  rw [scan_append, scan, scan, List.append_nil]

theorem told_snoc (document : SchemaDocument) (item : SchemaItem) :
    told (document ++ [item]) =
      document.told ++ item.told (builtInScalars ++ document.definedNames) := by
  unfold told
  rw [scan_append, scan, scan, List.append_nil]

theorem sublist_effective (document : SchemaDocument) :
    document.effective.Sublist document := by
  induction document using List.reverseRecOn with
  | nil => exact .slnil
  | append_singleton document item ih =>
    rw [effective_snoc]
    split
    · exact ih.append (List.Sublist.refl _)
    · exact ih.append (List.nil_sublist _)

/-- The definitions of a document all count. -/
theorem definitions_effective (document : SchemaDocument) :
    document.effective.definitions = document.definitions := by
  induction document using List.reverseRecOn with
  | nil => rfl
  | append_singleton document item ih =>
    unfold definitions at *
    rw [effective_snoc, List.filterMap_append, List.filterMap_append, ih]
    cases item with
    | extension declaration => split <;> rfl
    | _ => rfl

theorem definition?_effective (document : SchemaDocument) (name : String) :
    document.effective.definition? name = document.definition? name := by
  unfold definition?
  rw [definitions_effective]

theorem ExtendsDefined.snoc {document : SchemaDocument} (h : document.ExtendsDefined)
    {item : SchemaItem} (hitem : ∀ declaration, item = .extension declaration →
      (document.definition? declaration.name).isSome) : ExtendsDefined (document ++ [item]) := by
  intro before declaration after hsplit
  refine forall_split_snoc (p := fun before item => ∀ declaration, item = .extension declaration →
    (definition? before declaration.name).isSome) ?_ hitem before _ after hsplit declaration rfl
  rintro before _ after hsplit declaration rfl
  exact h before declaration after hsplit

theorem extendsDefined_effective (document : SchemaDocument) :
    document.effective.ExtendsDefined := by
  induction document using List.reverseRecOn with
  | nil =>
    intro before declaration after hsplit
    cases List.append_eq_nil_iff.1 hsplit.symm |>.2
  | append_singleton document item ih =>
    rw [effective_snoc]
    split
    · rename_i hcounts
      refine ih.snoc ?_
      rintro declaration rfl
      rw [definition?_effective, Schema.isSome_definition?_iff, ← definedNames_eq]
      exact of_decide_eq_true hcounts
    · rwa [List.append_nil]

end SchemaDocument

end Graphql

namespace Schema

/-! ## Reading a document -/

theorem defines_foldl_add_iff_mem (document : SchemaDocument) (name : String) :
    (document.foldl Draft.add .start).schema.defines name = true ↔
      name ∈ builtInScalars ++ document.definedNames := by
  rw [defines_foldl_add_iff, isSome_definition?_iff, document.definedNames_eq]

/-- One item: what is told of it comes last. -/
theorem Draft.warnings_add {draft : Draft} {known : List String}
    (h : ∀ name, draft.schema.defines name = true ↔ name ∈ known) (item : SchemaItem) :
    (draft.add item).warnings = draft.warnings ++ item.told known := by
  cases item with
  | roots names => exact (List.append_nil _).symm
  | directive key => exact (List.append_nil _).symm
  | type declaration =>
    rw [add_type, SchemaItem.told]
    simp only [h]
    split
    · rfl
    · exact (List.append_nil _).symm
  | extension declaration =>
    rw [add_extension, SchemaItem.told]
    simp only [h]
    split
    · exact (List.append_nil _).symm
    · rfl

/-- One item that does not count changes nothing in the schema. -/
theorem Draft.alike_add {draft : Draft} {known : List String}
    (h : ∀ name, draft.schema.defines name = true ↔ name ∈ known) (item : SchemaItem)
    (hcounts : ¬ item.counts known) : (draft.add item).Alike draft := by
  cases item with
  | extension declaration =>
    have hunknown : ¬ draft.schema.defines declaration.name = true := by
      rw [h]
      exact fun hmem => hcounts (decide_eq_true hmem)
    rw [add_extension, if_neg hunknown]
    exact ⟨rfl, rfl⟩
  | _ => exact absurd rfl hcounts

theorem warnings_foldl_add_eq_told (document : SchemaDocument) :
    (document.foldl Draft.add .start).warnings = document.told := by
  induction document using List.reverseRecOn with
  | nil => rfl
  | append_singleton document item ih =>
    rw [List.foldl_append, List.foldl_cons, List.foldl_nil, SchemaDocument.told_snoc,
      Draft.warnings_add (defines_foldl_add_iff_mem document), ih]

theorem alike_foldl_add_effective (document : SchemaDocument) :
    (document.effective.foldl Draft.add .start).Alike (document.foldl Draft.add .start) := by
  induction document using List.reverseRecOn with
  | nil => exact ⟨rfl, rfl⟩
  | append_singleton document item ih =>
    rw [SchemaDocument.effective_snoc, List.foldl_append, List.foldl_append, List.foldl_cons,
      List.foldl_nil]
    split
    · exact ih.add item
    · rename_i hcounts
      exact ih.trans (Draft.alike_add (defines_foldl_add_iff_mem document) item hcounts).symm

/-- Only the items that count make the schema of a document. -/
theorem ofDocument_effective (document : SchemaDocument) :
    (ofDocument document.effective).1 = (ofDocument document).1 :=
  (alike_foldl_add_effective document).ofDocument_eq

/-- What is told of a document: of its items, and then of the references to
types that its schema does not define. -/
theorem warnings_ofDocument (document : SchemaDocument) :
    (ofDocument document).2 = document.told ++
      (ofDocument document).1.undefinedReferences.map (fun reference =>
        .undefinedType reference.name reference.parent reference.field) := by
  unfold ofDocument
  dsimp only
  rw [warnings_foldl_add_eq_told]

/-- Two schemas have the same fields, each of the same signature, on every type. -/
def SameFields (schema other : Schema) : Prop :=
  ∀ type field, (schema.get? type).bind (fun definition => definition.fields.get? field) =
    (other.get? type).bind (fun definition => definition.fields.get? field)

theorem filterMap_get?_names (schema : Schema) :
    schema.names.filterMap schema.get? = schema.types := by
  have hget : ∀ definition ∈ schema.types,
      (schema.get? ∘ TypeDefinition.name) definition = some definition :=
    fun definition hmem => get?_of_mem hmem
  unfold names
  rw [List.filterMap_map, List.filterMap_congr hget, List.filterMap_some]

theorem types_eq_of_get?_eq {schema other : Schema} (hnames : schema.names = other.names)
    (hget : ∀ name, schema.get? name = other.get? name) : schema.types = other.types := by
  rw [← filterMap_get?_names, ← filterMap_get?_names, hnames, funext hget]

theorem undefinedReferences_eq_of_types_eq {schema other : Schema}
    (h : schema.types = other.types) :
    schema.undefinedReferences = other.undefinedReferences := by
  unfold undefinedReferences defines get?
  rw [h]

/-! ## One extension less -/

/-- An extension that comes too early changes nothing in the schema. -/
theorem ofDocument_of_unknown {before : SchemaDocument} {declaration : TypeDeclaration}
    (h : declaration.name ∉ builtInScalars ++ before.definedNames) (after : SchemaDocument) :
    (ofDocument (before ++ .extension declaration :: after)).1 =
      (ofDocument (before ++ after)).1 := by
  have hadd := Draft.alike_add (defines_foldl_add_iff_mem before) (.extension declaration)
    (fun hcounts => h (of_decide_eq_true hcounts))
  apply Draft.Alike.ofDocument_eq
  rw [List.foldl_append, List.foldl_append, List.foldl_cons]
  exact hadd.foldl_add after

end Schema

namespace Graphql.SchemaDocument

variable {before : SchemaDocument} {declaration : TypeDeclaration}

/-- An extension that comes too early is told. -/
theorem told_perm_of_unknown (h : declaration.name ∉ builtInScalars ++ before.definedNames)
    (after : SchemaDocument) :
    (told (before ++ .extension declaration :: after)).Perm
      (.unknownExtension declaration.name :: told (before ++ after)) := by
  unfold told
  rw [scan_append, scan_append, scan, SchemaItem.told, if_neg h,
    SchemaItem.definedNames_extension, List.append_nil]
  exact List.perm_middle

/-- Nothing is told of an extension behind a definition of its type. -/
theorem told_of_known (h : declaration.name ∈ builtInScalars ++ before.definedNames)
    (after : SchemaDocument) :
    told (before ++ .extension declaration :: after) = told (before ++ after) := by
  unfold told
  rw [scan_append, scan_append, scan, SchemaItem.told, if_pos h,
    SchemaItem.definedNames_extension, List.append_nil, List.nil_append]

theorem itemsOf_append (document more : SchemaDocument) (name : String) :
    itemsOf (document ++ more) name = document.itemsOf name ++ more.itemsOf name :=
  List.filter_append _ _

theorem itemsOf_cons (item : SchemaItem) (rest : SchemaDocument) (name : String) :
    itemsOf (item :: rest) name = itemsOf [item] name ++ rest.itemsOf name :=
  itemsOf_append [item] rest name

theorem itemsOf_eq_nil {document : SchemaDocument} {name : String}
    (h : ∀ item ∈ document, item.typeName? ≠ some name) : document.itemsOf name = [] :=
  List.filter_eq_nil_iff.2 (fun item hitem => by simpa using h item hitem)

end Graphql.SchemaDocument

/-! ## An extension that is moved -/

/-- A document with an extension behind a definition, and a place ahead of the
definition, to which the extension may be moved. -/
structure ExtensionMove where
  first : SchemaDocument
  second : SchemaDocument
  definition : TypeDeclaration
  third : SchemaDocument
  extension : TypeDeclaration
  fourth : SchemaDocument

namespace ExtensionMove

/-- The document with the extension behind the definition. -/
def behind (move : ExtensionMove) : SchemaDocument :=
  move.first ++ move.second ++ .type move.definition :: move.third ++
    .extension move.extension :: move.fourth

/-- The document with the extension ahead of the definition. -/
def ahead (move : ExtensionMove) : SchemaDocument :=
  move.first ++ .extension move.extension :: move.second ++
    .type move.definition :: move.third ++ move.fourth

/-- The document without the extension. -/
def without (move : ExtensionMove) : SchemaDocument :=
  move.first ++ move.second ++ .type move.definition :: move.third ++ move.fourth

/-- The extension is one of the defined type, no type is defined twice, and
the extensions of the type keep their order. -/
structure Fair (move : ExtensionMove) : Prop where
  ofType : move.extension.name = move.definition.name
  once : move.behind.definedNames.Nodup
  order : ∀ declaration, .extension declaration ∈ move.second ++ move.third →
    declaration.name ≠ move.definition.name

variable {move : ExtensionMove}

theorem ahead_eq (move : ExtensionMove) : move.ahead = move.first ++ .extension move.extension ::
    (move.second ++ .type move.definition :: move.third ++ move.fourth) := by
  simp [ahead]

theorem without_eq (move : ExtensionMove) : move.without = move.first ++
    (move.second ++ .type move.definition :: move.third ++ move.fourth) := by
  simp [without]

theorem definitions_ahead (move : ExtensionMove) :
    move.ahead.definitions = move.behind.definitions := by
  simp [ahead, behind, SchemaDocument.definitions]

/-- No other item defines the type. -/
theorem Fair.not_mem_definedNames (fair : move.Fair) :
    move.definition.name ∉ move.first.definedNames ++ move.second.definedNames ++
      move.third.definedNames := by
  have hnames : move.behind.definedNames = move.first.definedNames ++ move.second.definedNames ++
      move.definition.name :: (move.third.definedNames ++ move.fourth.definedNames) := by
    simp [behind, SchemaDocument.definedNames_append, SchemaDocument.definedNames_cons,
      SchemaItem.definedNames]
  have honce := fair.once
  rw [hnames, List.nodup_middle, List.nodup_cons, ← List.append_assoc] at honce
  exact fun hmem => honce.1 (List.mem_append_left _ hmem)

/-- Between the two places nothing else is said of the type. -/
theorem Fair.typeName?_ne (fair : move.Fair) :
    ∀ item ∈ move.second ++ move.third, item.typeName? ≠ some move.definition.name := by
  intro item hitem
  cases item with
  | roots names => simp [SchemaItem.typeName?]
  | directive key => simp [SchemaItem.typeName?]
  | extension declaration =>
    intro hname
    exact fair.order declaration hitem (Option.some.inj hname)
  | type declaration =>
    intro hname
    have hnew := fair.not_mem_definedNames
    have hmem : declaration.name ∈ (move.second ++ move.third).flatMap SchemaItem.definedNames :=
      List.mem_flatMap.2 ⟨_, hitem, List.mem_singleton.2 rfl⟩
    rw [Option.some.inj hname, List.flatMap_append] at hmem
    rw [List.append_assoc] at hnew
    exact hnew (List.mem_append_right _ hmem)

/-- Behind the definition the extension counts, and nothing is told of it. -/
theorem Fair.told_behind (fair : move.Fair) : move.behind.told = move.without.told := by
  have hdefined : move.extension.name ∈ builtInScalars ++ (move.first ++ move.second ++
      .type move.definition :: move.third : SchemaDocument).definedNames := by
    simp [SchemaDocument.definedNames_append, SchemaDocument.definedNames_cons,
      SchemaItem.definedNames, fair.ofType]
  exact SchemaDocument.told_of_known hdefined move.fourth

/-- Ahead of the definition the extension counts only if its type is built in. -/
theorem Fair.not_mem_known (fair : move.Fair) (h : move.extension.name ∉ builtInScalars) :
    move.extension.name ∉ builtInScalars ++ move.first.definedNames := by
  have hnew := fair.not_mem_definedNames
  rw [← fair.ofType, List.append_assoc] at hnew
  intro hmem
  rcases List.mem_append.1 hmem with hbuiltIn | hfirst
  · exact h hbuiltIn
  · exact hnew (List.mem_append_left _ hfirst)

open Schema

/-- Without the definition it makes no difference to a type where the extension
stands. -/
theorem Fair.itemsOf_eq (fair : move.Fair) (name : String) :
    (move.first ++ .extension move.extension :: move.second ++ (move.third ++ move.fourth) :
        SchemaDocument).itemsOf name =
      (move.first ++ move.second ++ (move.third ++ .extension move.extension :: move.fourth) :
        SchemaDocument).itemsOf name := by
  simp only [SchemaDocument.itemsOf_append, List.append_assoc]
  rw [SchemaDocument.itemsOf_cons _ move.second, SchemaDocument.itemsOf_cons _ move.fourth]
  by_cases hname : name = move.definition.name
  · subst hname
    have hbetween := SchemaDocument.itemsOf_eq_nil fair.typeName?_ne
    rw [SchemaDocument.itemsOf_append, List.append_eq_nil_iff] at hbetween
    simp only [hbetween.1, hbetween.2, List.append_nil, List.nil_append]
  · have hextension : SchemaDocument.itemsOf [.extension move.extension] name = [] := by
      apply SchemaDocument.itemsOf_eq_nil
      intro item hitem hsame
      rw [List.mem_singleton.1 hitem] at hsame
      exact hname ((Option.some.inj hsame).symm.trans fair.ofType)
    rw [hextension, List.nil_append, List.nil_append]

/-- A definition of a built-in scalar changes nothing, so the types are the same
in both places. -/
theorem Fair.get?_ahead (fair : move.Fair) (h : move.extension.name ∈ builtInScalars)
    (name : String) :
    (ofDocument move.ahead).1.get? name = (ofDocument move.behind).1.get? name := by
  have hknown : ∀ before : SchemaDocument,
      (before.definition? move.definition.name).isSome = true := by
    intro before
    rw [isSome_definition?_iff, ← fair.ofType]
    exact List.mem_append_left _ h
  have hahead := ofDocument_of_known
    (hknown (move.first ++ .extension move.extension :: move.second)) (move.third ++ move.fourth)
  have hbehind := ofDocument_of_known (hknown (move.first ++ move.second))
    (move.third ++ .extension move.extension :: move.fourth)
  have hsplitAhead : move.ahead = move.first ++ .extension move.extension :: move.second ++
      .type move.definition :: (move.third ++ move.fourth) := by
    simp [ahead]
  have hsplitBehind : move.behind = move.first ++ move.second ++
      .type move.definition :: (move.third ++ .extension move.extension :: move.fourth) := by
    simp [behind]
  rw [hsplitAhead, hsplitBehind, hahead, hbehind, get?_ofDocument, get?_ofDocument,
    ← foldl_onto_itemsOf, fair.itemsOf_eq, foldl_onto_itemsOf]

theorem Fair.types_ahead (fair : move.Fair) (h : move.extension.name ∈ builtInScalars) :
    (ofDocument move.ahead).1.types = (ofDocument move.behind).1.types := by
  refine types_eq_of_get?_eq ?_ (fair.get?_ahead h)
  rw [names_ofDocument, names_ofDocument, definitions_ahead]

end ExtensionMove

namespace Schema

/-! ## The law -/

/-- An extension that is moved ahead of the definition of its type is kept only
if the type is built in: then all fields and all warnings stay the same. Else
the document makes the schema that it makes without the extension, and tells
that the extension is of an unknown type. -/
theorem an_extension_moved_ahead_is_kept_only_if_built_in {move : ExtensionMove}
    (fair : move.Fair) :
    ((SameFields (ofDocument move.ahead).1 (ofDocument move.behind).1 ∧
        (ofDocument move.ahead).2 = (ofDocument move.behind).2) ↔
      move.extension.name ∈ builtInScalars) ∧
    (move.extension.name ∉ builtInScalars →
      (ofDocument move.ahead).1 = (ofDocument move.without).1 ∧
      (ofDocument move.ahead).2.Perm
        (.unknownExtension move.extension.name :: (ofDocument move.without).2)) := by
  have hbehind := fair.told_behind
  have hahead : move.extension.name ∉ builtInScalars → move.ahead.told.Perm
      (.unknownExtension move.extension.name :: move.without.told) := by
    intro hnew
    rw [move.ahead_eq, move.without_eq]
    exact SchemaDocument.told_perm_of_unknown (fair.not_mem_known hnew) _
  refine ⟨⟨?_, ?_⟩, ?_⟩
  · rintro ⟨-, hwarnings⟩
    by_contra hnew
    -- the references to undefined types are no reports of extensions
    have hcount : ∀ document : SchemaDocument,
        (ofDocument document).2.count (.unknownExtension move.extension.name) =
          document.told.count (.unknownExtension move.extension.name) := by
      intro document
      rw [warnings_ofDocument, List.count_append, Nat.add_eq_left, List.count_eq_zero]
      simp
    have hmore := (hahead hnew).count_eq (.unknownExtension move.extension.name)
    rw [List.count_cons_self, ← hcount, hwarnings, hcount, hbehind] at hmore
    omega
  · intro hbuiltIn
    have htold : move.ahead.told = move.without.told := by
      rw [move.ahead_eq, move.without_eq]
      exact SchemaDocument.told_of_known (List.mem_append_left _ hbuiltIn) _
    refine ⟨?_, ?_⟩
    · intro type field
      rw [fair.get?_ahead hbuiltIn]
    · rw [warnings_ofDocument, warnings_ofDocument, htold, hbehind,
        undefinedReferences_eq_of_types_eq (fair.types_ahead hbuiltIn)]
  · intro hnew
    have hschema : (ofDocument move.ahead).1 = (ofDocument move.without).1 := by
      rw [move.ahead_eq, move.without_eq]
      exact ofDocument_of_unknown (fair.not_mem_known hnew) _
    refine ⟨hschema, ?_⟩
    rw [warnings_ofDocument, warnings_ofDocument, hschema, ← List.cons_append]
    exact (hahead hnew).append_right _

/-- A book that gets its title from an extension. -/
def bookMove : ExtensionMove where
  first := [.type ⟨"Query", .object, [⟨"book", [], .named "Book"⟩]⟩]
  second := []
  definition := ⟨"Book", .object, [⟨"pages", [], .named "Int"⟩]⟩
  third := []
  extension := ⟨"Book", .object, [⟨"title", [], .named "String"⟩]⟩
  fourth := []

theorem fair_bookMove : bookMove.Fair where
  ofType := rfl
  once := by decide
  order _ hmem := by cases hmem

theorem an_extension_of_the_book_moved_ahead_is_not_kept :
    bookMove.Fair ∧ bookMove.extension.name ∉ builtInScalars ∧
      ¬ (SameFields (ofDocument bookMove.ahead).1 (ofDocument bookMove.behind).1 ∧
        (ofDocument bookMove.ahead).2 = (ofDocument bookMove.behind).2) ∧
      (ofDocument bookMove.ahead).1 = (ofDocument bookMove.without).1 ∧
      (ofDocument bookMove.ahead).2.Perm
        (.unknownExtension "Book" :: (ofDocument bookMove.without).2) := by
  have hnew : bookMove.extension.name ∉ builtInScalars := by decide
  obtain ⟨hkept, hlost⟩ := an_extension_moved_ahead_is_kept_only_if_built_in fair_bookMove
  exact ⟨fair_bookMove, hnew, fun hsame => hnew (hkept.1 hsame), hlost hnew⟩

/-- Of two texts with the same definitions, the one with the extension ahead has
no title of a book. -/
theorem the_title_of_a_book_is_lost_ahead_of_its_definition :
    bookMove.Fair ∧
      SchemaDocument.parse ("type Query { book: Book } type Book { pages: Int } " ++
        "extend type Book { title: String }") = .ok bookMove.behind ∧
      SchemaDocument.parse ("type Query { book: Book } extend type Book { title: String } " ++
        "type Book { pages: Int }") = .ok bookMove.ahead ∧
      ¬ SameFields (ofDocument bookMove.ahead).1 (ofDocument bookMove.behind).1 ∧
      (ofDocument bookMove.behind).2 = [] ∧
      (ofDocument bookMove.ahead).2 = [.unknownExtension "Book"] := by
  refine ⟨fair_bookMove, by decide +kernel, by decide +kernel, ?_, by decide +kernel,
    by decide +kernel⟩
  intro hsame
  have htitle := congrArg Option.isSome (hsame "Book" "title")
  revert htitle
  decide +kernel

end Schema

end OperationModels
