-- Types and their texts. A name that begins as a wrapper does can be taken for a
-- wrapped type. Of types without such names at the bottom no two have one text,
-- and a run makes no other types as long as the metadata of the schema names none,
-- for every other name comes from a GraphQL name.
import OperationModels.Proofs.ReferredNames
import OperationModels.Proofs.StructNames

namespace OperationModels

open Graphql Model Source

/-! ## Texts of types -/

namespace Model.FieldType

/-- How the texts of wrapped types begin. -/
def openings : List String := ["Option<", "Vec<"]

/-- A name without an opening of a wrapper at its beginning. Wrappers may stand
inside it. -/
def IsPlainName (name : String) : Prop := ∀ opening ∈ openings, ¬ opening.toList <+: name.toList

instance (name : String) : Decidable (IsPlainName name) :=
  inferInstanceAs (Decidable (∀ opening ∈ openings, _))

/-- A type with a plain name at its bottom. -/
def IsPlain (type : FieldType) : Prop := IsPlainName type.innermost

instance (type : FieldType) : Decidable type.IsPlain :=
  inferInstanceAs (Decidable (IsPlainName type.innermost))

variable {type one two inner item : FieldType}

theorem not_isPlainName_append {opening : String} (h : opening ∈ openings) (rest : String) :
    ¬ IsPlainName (opening ++ rest) := by
  intro hplain
  refine hplain opening h ?_
  rw [String.toList_append]
  exact List.prefix_append _ _

/-- Only a name has the text of a plain name. -/
theorem eq_named_of_isPlainName {name : String} (hname : IsPlainName name)
    (h : type.render = name) : type = named name := by
  subst h
  cases type with
  | named name => rfl
  | list item =>
    rw [render, String.append_assoc] at hname
    exact absurd hname (not_isPlainName_append (by decide) _)
  | optional inner =>
    rw [render, String.append_assoc] at hname
    exact absurd hname (not_isPlainName_append (by decide) _)

theorem render_list_ne_render_optional : (list item).render ≠ (optional inner).render := by
  intro h
  have hfirst : some 'V' = some 'O' := by
    have hsame := congrArg (fun text => text.toList.head?) h
    simp only [render, String.toList_append] at hsame
    exact hsame
  exact absurd hfirst (by decide)

theorem render_list_inj : (list one).render = (list two).render ↔ one.render = two.render := by
  rw [render, render, String.append_left_inj, String.append_right_inj]

theorem render_optional_inj :
    (optional one).render = (optional two).render ↔ one.render = two.render := by
  rw [render, render, String.append_left_inj, String.append_right_inj]

/-- Types with plain names at the bottom have different texts. -/
theorem IsPlain.eq_of_render_eq (hone : one.IsPlain) (htwo : two.IsPlain)
    (h : one.render = two.render) : one = two := by
  -- two wrappers of one kind are taken off at both ends, two kinds differ in the first letter
  induction one generalizing two with
  | named name => exact (eq_named_of_isPlainName hone h.symm).symm
  | list item ih =>
    cases two with
    | named name => exact eq_named_of_isPlainName htwo h
    | list other => exact congrArg list (ih hone htwo (render_list_inj.1 h))
    | optional inner => exact absurd h render_list_ne_render_optional
  | optional inner ih =>
    cases two with
    | named name => exact eq_named_of_isPlainName htwo h
    | list item => exact absurd h.symm render_list_ne_render_optional
    | optional other => exact congrArg optional (ih hone htwo (render_optional_inj.1 h))

end Model.FieldType

/-! ## Names of types -/

open FieldType

/-- No GraphQL name opens a wrapper, since it has no angle brackets. -/
theorem Graphql.isPlainName_of_isName {text : String} (h : isName text = true) :
    IsPlainName text := by
  obtain ⟨first, rest, rfl, hstart, hrest⟩ := isName_iff.1 h
  intro opening hopening hprefix
  have hbracket : '<' ∈ first :: rest := by
    have hall : ∀ opening ∈ openings, '<' ∈ opening.toList := by decide
    have hinside := hprefix.subset (hall opening hopening)
    rwa [String.toList_ofList] at hinside
  rcases List.mem_cons.1 hbracket with rfl | hmem
  · exact absurd hstart (by decide)
  · exact absurd (List.all_eq_true.1 hrest _ hmem) (by decide)

/-- The names of types in models are plain if those that the metadata gives are. -/
theorem NameMapping.isPlainName_map {overrides : List (String × String)}
    (h : ∀ entry ∈ overrides, IsPlainName entry.2) {type : String} (htype : isName type = true) :
    IsPlainName ((NameMapping.withOverrides overrides).map type) := by
  unfold NameMapping.map
  cases hget : (NameMapping.withOverrides overrides).entries.get? type with
  | none => exact isPlainName_of_isName (isName_capitalizeFirst htype)
  | some target =>
    rcases OrderedMap.mem_insertAll (OrderedMap.mem_of_get?_eq_some hget) with hbuiltIn | hown
    · have hall : ∀ entry ∈ NameMapping.standard.entries.entries, IsPlainName entry.2 := by
        decide +kernel
      exact hall _ hbuiltIn
    · exact h _ hown

/-! ## The types of a module -/

namespace LoadedSchema

variable {loaded : LoadedSchema}

/-- The field is in a module that a run against the schema makes of some document. -/
def MakesField (loaded : LoadedSchema) (field : StructField) : Prop :=
  ∃ document options generated, loaded.generate document options = .ok generated ∧
    ∃ struct ∈ (loaded.moduleOf options generated.operation generated.records
      generated.variableFields).structs, field ∈ struct.fields

theorem isPlain_of_makesField {name text : String} {metadata : Metadata}
    (hloaded : ofText name text metadata = .ok loaded)
    (hplain : ∀ entry ∈ metadata.mappings.entries, IsPlainName entry.2)
    (hfield : loaded.MakesField field) : field.type.IsPlain := by
  obtain ⟨⟨schema, told⟩, hparse, rfl⟩ := map_eq_ok.1 hloaded
  obtain ⟨document, options, generated, h, struct, hstruct, hmem⟩ := hfield
  have hschema : schema.RefersToNames := Schema.refersToNames_of_parse hparse
  obtain ⟨type, htype, hname⟩ := exists_isName_of_mem_structs hschema h hstruct hmem
  unfold IsPlain
  rw [hname]
  exact NameMapping.isPlainName_map hplain htype

end LoadedSchema

/-! ## The law -/

/-- Types with plain names at the bottom have one text just if they are the same.
So if no name that the metadata of a schema gives begins with `Option<` or
`Vec<`, then of all fields of all modules that are made against the schema, two
have one text for their types just if these are the same. -/
theorem types_with_plain_names_differ_in_their_texts :
    (∀ one two : FieldType, one.IsPlain → two.IsPlain →
      (one.render = two.render ↔ one = two)) ∧
    ∀ name text metadata loaded, LoadedSchema.ofText name text metadata = .ok loaded →
      (∀ entry ∈ metadata.mappings.entries, IsPlainName entry.2) →
      ∀ one two, loaded.MakesField one → loaded.MakesField two →
        (one.type.render = two.type.render ↔ one.type = two.type) := by
  have htypes : ∀ one two : FieldType, one.IsPlain → two.IsPlain →
      (one.render = two.render ↔ one = two) :=
    fun one two hone htwo => ⟨hone.eq_of_render_eq htwo, congrArg FieldType.render⟩
  refine ⟨htypes, ?_⟩
  intro name text metadata loaded hloaded hplain one two hone htwo
  exact htypes _ _ (LoadedSchema.isPlain_of_makesField hloaded hplain hone)
    (LoadedSchema.isPlain_of_makesField hloaded hplain htwo)

/-- A clock that tells several times, and the next one behind a time. -/
def clockText : String := "scalar Time type Query { all: [Time!]! next(from: Time): Time }"

/-- Times have a name in models that takes a parameter. -/
def clockMetadata : Metadata := ⟨.ofList [("Time", "chrono::DateTime<chrono::Utc>")], [], []⟩

def clockDocument : String := "query ($from: Time) { all next(from: $from) }"

/-- The fields of the response of the clock. -/
def allTimes : StructField := ⟨"all", .list (.named "chrono::DateTime<chrono::Utc>"), []⟩

def nextTime : StructField :=
  ⟨"next", .optional (.named "chrono::DateTime<chrono::Utc>"), [.default]⟩

/-- A name with a wrapper inside, and a type in wrappers. -/
def vectorName : FieldType := .named "Vec2<Option<i32>>"

def vectorType : FieldType := .list (.optional (.named "i32"))

theorem types_of_times_and_vectors_differ_in_their_texts :
    vectorName.IsPlain ∧ vectorType.IsPlain ∧
      (vectorName.render = vectorType.render ↔ vectorName = vectorType) ∧
      ∃ loaded, LoadedSchema.ofText "clock" clockText clockMetadata = .ok loaded ∧
        (∀ entry ∈ clockMetadata.mappings.entries, IsPlainName entry.2) ∧
        loaded.MakesField allTimes ∧ loaded.MakesField nextTime ∧
        allTimes.type.render = "Vec<chrono::DateTime<chrono::Utc>>" ∧
        nextTime.type.render = "Option<chrono::DateTime<chrono::Utc>>" ∧
        (allTimes.type.render = nextTime.type.render ↔ allTimes.type = nextTime.type) := by
  obtain ⟨htypes, hfields⟩ := types_with_plain_names_differ_in_their_texts
  have hname : vectorName.IsPlain := by decide +kernel
  have htype : vectorType.IsPlain := by decide +kernel
  have hmetadata : ∀ entry ∈ clockMetadata.mappings.entries, IsPlainName entry.2 := by
    decide +kernel
  obtain ⟨loaded, hloaded, hgenerates⟩ :=
    exists_of_any_toOption (x := LoadedSchema.ofText "clock" clockText clockMetadata)
      (p := fun loaded => (loaded.generate clockDocument plainOptions).toOption.any
        (fun generated => (loaded.moduleOf plainOptions generated.operation generated.records
          generated.variableFields).structs.any
            (fun struct => struct.fields = [allTimes, nextTime])))
      (by decide +kernel)
  obtain ⟨generated, hgenerated, hstructs⟩ := exists_of_any_toOption hgenerates
  obtain ⟨struct, hstruct, hsame⟩ := List.any_eq_true.1 hstructs
  rw [decide_eq_true_eq] at hsame
  have hmakes : ∀ field ∈ [allTimes, nextTime], loaded.MakesField field := fun field hfield =>
    ⟨_, _, generated, hgenerated, struct, hstruct, hsame ▸ hfield⟩
  have hall := hmakes allTimes (by simp)
  have hnext := hmakes nextTime (by simp)
  exact ⟨hname, htype, htypes _ _ hname htype, loaded, hloaded, hmetadata, hall, hnext, rfl, rfl,
    hfields _ _ _ _ hloaded hmetadata _ _ hall hnext⟩

end OperationModels
