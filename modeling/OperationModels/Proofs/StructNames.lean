-- The names of structs. A struct is named for its type with the first letter in
-- upper case, and that name is never repaired as the name of a field is. The
-- law says which types make a name that cannot stand in the text of a module.
import OperationModels.Proofs.DocumentNames
import OperationModels.Proofs.Modules

namespace OperationModels

open Graphql Model

/-! ## Names that can stand -/

namespace Source

/-- The wrappers that the text of a type is written with. -/
def wrapperNames : List String := ["Option", "Vec"]

/-- A struct can have the name: it is spelt as a GraphQL name, which is how an
identifier of ASCII characters is spelt, and it is no keyword and no wrapper
that it would hide. -/
def CanStand (name : String) : Prop :=
  isName name = true ∧ name ∉ rawKeywords ++ reservedWords ∧ name ∉ wrapperNames

instance (name : String) : Decidable (CanStand name) := inferInstanceAs (Decidable (_ ∧ _ ∧ _))

/-- The types whose structs get a name that cannot stand. -/
def misleadingTypes : List String := ["Option", "option", "Vec", "vec", "Self", "self", "_"]

end Source

/-! ## Names with their first letter in upper case -/

theorem isAscii_of_isNameStart {c : Char} (h : isNameStart c = true) :
    Text.isAscii c = true := by
  rw [isNameStart, Bool.or_eq_true, decide_eq_true_eq] at h
  rcases h with hletter | rfl
  · have hcase : (decide ('A'.val ≤ c.val ∧ c.val ≤ 'Z'.val) ||
        (decide ('a'.val ≤ c.val) && decide (c.val ≤ 'z'.val))) = true := hletter
    simp only [Bool.or_eq_true, Bool.and_eq_true, decide_eq_true_eq] at hcase
    rcases hcase with ⟨-, hlast⟩ | ⟨-, hlast⟩
    · exact decide_eq_true (Nat.lt_of_le_of_lt hlast (by decide))
    · exact decide_eq_true (Nat.lt_of_le_of_lt hlast (by decide))
  · decide

/-- What starts a name is in upper case an underscore or a capital letter, and it
is that itself or its lower case. -/
theorem toUpper_of_isNameStart {c : Char} (h : isNameStart c = true) :
    isNameStart c.toUpper = true ∧ c.toUpper.isLower = false ∧
      (c = c.toUpper ∨ c = c.toUpper.toLower) :=
  Text.of_isAscii (p := fun c => isNameStart c = true →
    isNameStart c.toUpper = true ∧ c.toUpper.isLower = false ∧
      (c = c.toUpper ∨ c = c.toUpper.toLower)) (by decide +kernel) (isAscii_of_isNameStart h) h

theorem capitalizeFirst_ofList {first : Char} (h : isNameStart first = true) (rest : List Char) :
    Text.capitalizeFirst (String.ofList (first :: rest)) =
      String.ofList (first.toUpper :: rest) := by
  unfold Text.capitalizeFirst Text.toUpper
  simp [isAscii_of_isNameStart h]

theorem isName_capitalizeFirst {text : String} (h : isName text = true) :
    isName (Text.capitalizeFirst text) = true := by
  obtain ⟨first, rest, rfl, hstart, hrest⟩ := isName_iff.1 h
  rw [capitalizeFirst_ofList hstart]
  exact isName_iff.2 ⟨_, _, rfl, (toUpper_of_isNameStart hstart).1, hrest⟩

theorem not_startsLower_capitalizeFirst {text : String} (h : isName text = true) :
    (Text.capitalizeFirst text).toList.head?.any Char.isLower = false := by
  obtain ⟨first, rest, rfl, hstart, -⟩ := isName_iff.1 h
  rw [capitalizeFirst_ofList hstart, String.toList_ofList, List.head?_cons, Option.any_some]
  exact (toUpper_of_isNameStart hstart).2.1

/-- A word with its first letter in lower case. -/
def lowerFirst (word : String) : String :=
  match word.toList with
  | [] => ""
  | first :: rest => String.ofList (first.toLower :: rest)

/-- Only two names give a word: the word itself and the word with its first
letter in lower case. -/
theorem eq_of_capitalizeFirst_eq {text word : String} (h : isName text = true)
    (hword : Text.capitalizeFirst text = word) : text = word ∨ text = lowerFirst word := by
  obtain ⟨first, rest, rfl, hstart, -⟩ := isName_iff.1 h
  rw [capitalizeFirst_ofList hstart] at hword
  subst hword
  unfold lowerFirst
  rw [String.toList_ofList]
  rcases (toUpper_of_isNameStart hstart).2.2 with hsame | hlower
  · exact .inl (by rw [← hsame])
  · refine .inr ?_
    show _ = String.ofList (first.toUpper.toLower :: rest)
    rw [← hlower]

namespace Source

/-! ## The names of structs -/

/-- A word that no struct may be named by starts with a lower case letter, or
the types that lead to it are misleading. -/
theorem startsLower_or_misleading : ∀ word ∈ rawKeywords ++ reservedWords ++ wrapperNames,
    word.toList.head?.any Char.isLower = true ∨
      word ∈ misleadingTypes ∧ lowerFirst word ∈ misleadingTypes := by
  decide +kernel

theorem not_canStand_of_misleading : ∀ type ∈ misleadingTypes, ¬ CanStand (recordName type) := by
  decide +kernel

/-- The name of a record can stand, but for the misleading types. -/
theorem canStand_recordName_iff {type : String} (h : isName type = true) :
    CanStand (recordName type) ↔ type ∉ misleadingTypes := by
  constructor
  · intro hstands hmisleading
    exact not_canStand_of_misleading type hmisleading hstands
  · intro hnot
    have hfree : recordName type ∉ rawKeywords ++ reservedWords ++ wrapperNames := by
      intro hmem
      rcases startsLower_or_misleading _ hmem with hlower | ⟨hword, hlowered⟩
      · have hcapital := not_startsLower_capitalizeFirst h
        exact absurd hlower (by rw [recordName, hcapital]; decide)
      · rcases eq_of_capitalizeFirst_eq h rfl with hsame | hsame
        · exact hnot (by rw [hsame]; exact hword)
        · exact hnot (by rw [hsame]; exact hlowered)
    rw [List.mem_append, not_or] at hfree
    exact ⟨isName_capitalizeFirst h, hfree⟩

end Source

/-! ## The names of types -/

/-- Every type of the schema of a text has a GraphQL name. -/
theorem Schema.isName_of_mem_names {text : String} {document : SchemaDocument}
    (h : SchemaDocument.parse text = .ok document) {name : String}
    (hname : name ∈ (ofDocument document).1.names) : isName name = true := by
  rw [names_ofDocument, List.mem_eraseDups, List.mem_append] at hname
  rcases hname with hbuiltIn | hdefined
  · have hall : ∀ name ∈ builtInScalars, isName name = true := by decide
    exact hall name hbuiltIn
  · obtain ⟨declaration, hmem, rfl⟩ := List.mem_map.1 hdefined
    exact (SchemaDocument.written_of_parse h _ (SchemaDocument.mem_definitions_iff.1 hmem)).named

theorem Schema.defines_of_isComposite {schema : Schema} {name : String}
    (h : schema.isComposite name = true) : schema.defines name = true := by
  unfold isComposite kindOf? at h
  unfold defines
  cases hget : schema.get? name with
  | none => simp [hget] at h
  | some definition => rfl

theorem LoadedSchema.isName_of_isComposite {name text : String} {metadata : Metadata}
    {loaded : LoadedSchema} (h : LoadedSchema.ofText name text metadata = .ok loaded)
    {type : String} (htype : loaded.schema.isComposite type = true) : isName type = true := by
  obtain ⟨⟨schema, told⟩, hparse, rfl⟩ := map_eq_ok.1 h
  obtain ⟨document, hdocument, rfl⟩ := Schema.parse_eq_ok hparse
  have hdefines := Schema.defines_of_isComposite htype
  exact Schema.isName_of_mem_names hdocument (Schema.defines_iff.1 hdefines)

theorem LoadedSchema.makesRecord_of_misleading {name text : String} {loaded : LoadedSchema}
    (h : LoadedSchema.ofText name text .none = .ok loaded) {type : String}
    (htype : type ∈ Source.misleadingTypes) : loaded.naming.makesRecord type = true := by
  obtain ⟨⟨schema, told⟩, -, rfl⟩ := map_eq_ok.1 h
  have hall : ∀ type ∈ Source.misleadingTypes,
      (NameMapping.withOverrides Metadata.none.mappings.entries).map type = recordName type := by
    decide +kernel
  exact decide_eq_true (hall type htype)

/-! ## The names of the structs of a module -/

/-- The structs of a module that leaves nothing out are named as its records,
and `Variables`. -/
theorem Source.forall_structs_ofModel_none {p : String → Prop} {operation : Operation}
    {nested : List Record} {data : Record} {variableFields : List Field} {extras : Extras} :
    (∀ struct ∈ (Module.ofModel operation (nested ++ [data]) variableFields extras .none).structs,
        p struct.name) ↔
      (∀ record ∈ nested, p record.name) ∧ p data.name ∧ p variablesRecord := by
  simp only [mem_structs_ofModel]
  constructor
  · intro h
    refine ⟨fun record hrecord => ?_, h _ (.inr (.inl ⟨rfl, rfl⟩)), h _ (.inr (.inr ⟨rfl, rfl⟩))⟩
    exact h _ (.inl ⟨record, hrecord, List.not_mem_nil, rfl⟩)
  · rintro ⟨hnested, hdata, hvariables⟩ struct
      (⟨record, hrecord, -, rfl⟩ | ⟨-, rfl⟩ | ⟨-, rfl⟩)
    · exact hnested record hrecord
    · exact hdata
    · exact hvariables

/-- The records of a walk are named for the composite types that its selected
fields lead to. -/
theorem Model.Naming.forall_name_iff_of_walk {naming : Naming} {root : String}
    {tree : SelectionTree} {harvest : Harvest} (h : naming.walk root tree = .ok harvest)
    (p : String → Prop) :
    (∀ record ∈ harvest.records, p record.name) ↔
      ∀ selected ∈ tree.selectedFields [], ∀ type,
        naming.schema.typeAt? root (selected.inside ++ [selected.field]) = some type →
        naming.schema.isComposite type = true → naming.makesRecord type = true →
        p (recordName type) := by
  have htop : naming.schema.typeAt? root [] = some root := rfl
  have hrecords := Naming.recordsFor_of_walk htop tree h
  have hnamed : ∀ selected record, naming.RecordFor root selected record →
      ((∀ type, naming.schema.typeAt? root (selected.inside ++ [selected.field]) = some type →
        p (recordName type)) ↔ p record.name) := by
    rintro selected record ⟨type, htype, hname, -⟩
    rw [hname]
    constructor
    · intro hall
      exact hall type htype
    · intro hp other hother
      rw [htype, Option.some.injEq] at hother
      rwa [← hother]
  rw [← forall_mem_iff_of_forall₂ hrecords hnamed]
  simp only [List.mem_filter, Naming.getsRecord, Option.any_eq_true, Bool.and_eq_true]
  constructor
  · intro hall selected hselected type htype hcomposite hmakes
    exact hall selected ⟨hselected, type, htype, hcomposite, hmakes⟩ type htype
  · rintro hall selected ⟨hselected, known, hknown, hcomposite, hmakes⟩ type htype
    rw [hknown, Option.some.injEq] at htype
    subst htype
    exact hall selected hselected known hknown hcomposite hmakes

/-! ## The law -/

/-- The structs of a module that leaves nothing out have names that can stand
just if no selected field leads to one of the misleading types. -/
theorem struct_names_can_stand_iff_no_type_misleads (name text document : String)
    (wanted : Option String) (source : VariableSource) (loaded : LoadedSchema)
    (generated : Generated) (hloaded : LoadedSchema.ofText name text .none = .ok loaded)
    (h : loaded.generate document ⟨wanted, source, .none⟩ = .ok generated) :
    ∃ root, loaded.schema.root? generated.operation.kind = some root ∧
      generated.source = (loaded.moduleOf ⟨wanted, source, .none⟩ generated.operation
        generated.records generated.variableFields).render ∧
      ((∀ struct ∈ (loaded.moduleOf ⟨wanted, source, .none⟩ generated.operation
            generated.records generated.variableFields).structs, Source.CanStand struct.name) ↔
        ∀ selected ∈ generated.operation.selection.selectedFields [], ∀ type,
          loaded.schema.typeAt? root (selected.inside ++ [selected.field]) = some type →
          loaded.schema.isComposite type = true → type ∉ Source.misleadingTypes) := by
  obtain ⟨root, response, bound, hrun⟩ := LoadedSchema.generates_of_generate h
  obtain ⟨harvest, hwalk, hrecords⟩ := hrun.exists_walk
  have hdata : Source.CanStand dataRecord := by decide +kernel
  have hvariables : Source.CanStand variablesRecord := by decide +kernel
  refine ⟨root, hrun.rooted, hrun.source, ?_⟩
  unfold LoadedSchema.moduleOf
  rw [hrecords, Source.forall_structs_ofModel_none, Naming.forall_name_iff_of_walk hwalk]
  simp only [hdata, hvariables, and_true]
  refine forall_congr' fun selected => forall_congr' fun _ => forall_congr' fun type =>
    forall_congr' fun _ => forall_congr' fun hcomposite => ?_
  rw [Source.canStand_recordName_iff (LoadedSchema.isName_of_isComposite hloaded hcomposite)]
  constructor
  · intro hfits hmisleading
    exact hfits (LoadedSchema.makesRecord_of_misleading hloaded hmisleading) hmisleading
  · intro hfits _
    exact hfits

/-- A schema with a type that is named as the word for the struct itself. -/
def selfText : String :=
  "type Query { me: Self friend: person } type Self { id: Int! } type person { id: Int! }"

theorem struct_names_of_a_friend_can_stand_iff_no_type_misleads :
    ∃ loaded generated, LoadedSchema.ofText "api" selfText .none = .ok loaded ∧
      loaded.generate "{ friend { id } }" ⟨none, .auto, .none⟩ = .ok generated ∧
      ∃ root, loaded.schema.root? generated.operation.kind = some root ∧
        generated.source = (loaded.moduleOf ⟨none, .auto, .none⟩ generated.operation
          generated.records generated.variableFields).render ∧
        ((∀ struct ∈ (loaded.moduleOf ⟨none, .auto, .none⟩ generated.operation
              generated.records generated.variableFields).structs,
            Source.CanStand struct.name) ↔
          ∀ selected ∈ generated.operation.selection.selectedFields [], ∀ type,
            loaded.schema.typeAt? root (selected.inside ++ [selected.field]) = some type →
            loaded.schema.isComposite type = true → type ∉ Source.misleadingTypes) := by
  obtain ⟨loaded, hloaded, hgenerates⟩ :=
    exists_of_any_toOption (x := LoadedSchema.ofText "api" selfText .none)
      (p := fun loaded =>
        (loaded.generate "{ friend { id } }" ⟨none, .auto, .none⟩).toOption.any (fun _ => true))
      (by decide +kernel)
  obtain ⟨generated, hgenerated, -⟩ := exists_of_any_toOption hgenerates
  exact ⟨loaded, generated, hloaded, hgenerated,
    struct_names_can_stand_iff_no_type_misleads _ _ _ _ _ _ _ hloaded hgenerated⟩

/-- A field of such a type gives a struct that is named by a keyword. -/
theorem a_type_named_self_gives_a_struct_named_self :
    ∃ loaded generated, LoadedSchema.ofText "api" selfText .none = .ok loaded ∧
      loaded.generate "{ me { id } }" ⟨none, .auto, .none⟩ = .ok generated ∧
      (loaded.moduleOf ⟨none, .auto, .none⟩ generated.operation generated.records
        generated.variableFields).structs.map Source.Struct.name = ["Self", "Data", "Variables"] ∧
      ¬ Source.CanStand "Self" := by
  obtain ⟨loaded, hloaded, hgenerates⟩ :=
    exists_of_any_toOption (x := LoadedSchema.ofText "api" selfText .none)
      (p := fun loaded =>
        (loaded.generate "{ me { id } }" ⟨none, .auto, .none⟩).toOption.any (fun generated =>
          (loaded.moduleOf ⟨none, .auto, .none⟩ generated.operation generated.records
            generated.variableFields).structs.map Source.Struct.name =
              ["Self", "Data", "Variables"]))
      (by decide +kernel)
  obtain ⟨generated, hgenerated, hstructs⟩ := exists_of_any_toOption hgenerates
  exact ⟨loaded, generated, hloaded, hgenerated, of_decide_eq_true hstructs, by decide⟩

end OperationModels
