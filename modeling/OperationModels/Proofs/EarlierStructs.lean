-- The structs that a struct refers to. In the order in which selected fields
-- come, those that a selection set picks come before the field it is below,
-- so each record that a field of a response is typed by stands earlier in the
-- module, unless the destination provides it. Nothing of the kind holds of
-- variables: they are typed by what their arguments are declared with, and no
-- struct is made for that.
import OperationModels.Proofs.FirstBindings
import OperationModels.Proofs.WireNames

namespace OperationModels

/-! ## Lists in which what an item needs comes before it -/

/-- Each item of a list finds what it needs among the items before it. -/
inductive Served {α : Type} (serves : List α → α → Prop) : List α → Prop
  | nil : Served serves []
  | snoc {items : List α} {item : α} :
      Served serves items → serves items item → Served serves (items ++ [item])

namespace Served

variable {α β : Type} {serves : List α → α → Prop}

theorem of_split {items : List α} (h : Served serves items) {before after : List α} {item : α}
    (hsplit : items = before ++ item :: after) : serves before item := by
  suffices hall : ∀ before item after, items = before ++ item :: after → serves before item from
    hall before item after hsplit
  clear hsplit
  induction h with
  | nil =>
    intro before item after hsplit
    simp at hsplit
  | snoc _ hlast ih => exact forall_split_snoc ih hlast

theorem append {items more : List α} (hitems : Served serves items) (hmore : Served serves more)
    (hmono : ∀ before item, serves before item → serves (items ++ before) item) :
    Served serves (items ++ more) := by
  induction hmore with
  | nil => simpa using hitems
  | snoc _ hlast ih =>
    rw [← List.append_assoc]
    exact ih.snoc (hmono _ _ hlast)

/-- Items may be left out if those that stay can do without them. -/
theorem filter {serves' : List α → α → Prop} {items : List α} (h : Served serves items)
    (p : α → Bool)
    (hkeep : ∀ before item, p item = true → serves before item → serves' (before.filter p) item) :
    Served serves' (items.filter p) := by
  induction h with
  | nil => exact .nil
  | @snoc before item _ hlast ih =>
    rw [List.filter_append]
    by_cases hitem : p item = true
    · rw [List.filter_singleton, hitem, cond_true]
      exact ih.snoc (hkeep before item hitem hlast)
    · rw [Bool.not_eq_true] at hitem
      rw [List.filter_singleton, hitem, cond_false, List.append_nil]
      exact ih

theorem map {serves' : List β → β → Prop} {items : List α} (h : Served serves items) (f : α → β)
    (hmap : ∀ before item, serves before item → serves' (before.map f) (f item)) :
    Served serves' (items.map f) := by
  induction h with
  | nil => exact .nil
  | snoc _ hlast ih =>
    rw [List.map_append]
    exact ih.snoc (hmap _ _ hlast)

end Served

/-- Where a list is split, the list that stands for it splits at the same place. -/
theorem exists_split_of_forall₂ {α β : Type} {r : α → β → Prop} {as : List α}
    {before after : List β} {b : β} (h : List.Forall₂ r as (before ++ b :: after)) :
    ∃ left a right, as = left ++ a :: right ∧ List.Forall₂ r left before ∧ r a b := by
  induction before generalizing as with
  | nil =>
    obtain ⟨a, right, hab, -, rfl⟩ := List.forall₂_cons_right_iff.1 h
    exact ⟨[], a, right, rfl, .nil, hab⟩
  | cons first rest ih =>
    obtain ⟨one, others, hone, hothers, rfl⟩ := List.forall₂_cons_right_iff.1 h
    obtain ⟨left, a, right, rfl, hleft, hab⟩ := ih hothers
    exact ⟨one :: left, a, right, rfl, .cons hone hleft, hab⟩

/-! ## Fields come behind those below them -/

namespace SelectionTree

mutual

/-- Each field that a tree picks is one of those selected in it. -/
theorem exists_selectedField_of_pick {inside : List String} {outer : Option String}
    (tree : SelectionTree) {pick : Pick} (h : pick ∈ tree.picks outer) :
    ∃ selected ∈ tree.selectedFields inside,
      selected.inside = inside ∧ selected.field = pick.field := by
  cases tree with
  | select field bindings child =>
    rw [picks, List.mem_singleton] at h
    subst h
    exact ⟨⟨inside, field, child⟩, by simp [selectedFields], rfl, rfl⟩
  | rename key child =>
    rw [picks] at h
    rw [selectedFields]
    exact exists_selectedField_of_pick child h
  | group members =>
    rw [picks] at h
    rw [selectedFields]
    exact exists_selectedField_of_pickAll members h
  | nothing => simp [picks] at h
  | unsupported construct => simp [picks] at h

theorem exists_selectedField_of_pickAll {inside : List String} {outer : Option String}
    (trees : List SelectionTree) {pick : Pick} (h : pick ∈ picksAll outer trees) :
    ∃ selected ∈ selectedFieldsAll inside trees,
      selected.inside = inside ∧ selected.field = pick.field := by
  cases trees with
  | nil => simp [picksAll] at h
  | cons first rest =>
    rw [picksAll, List.mem_append] at h
    rw [selectedFieldsAll]
    rcases h with hfirst | hrest
    · obtain ⟨selected, hmem, hsame⟩ := exists_selectedField_of_pick first hfirst
      exact ⟨selected, List.mem_append_left _ hmem, hsame⟩
    · obtain ⟨selected, hmem, hsame⟩ := exists_selectedField_of_pickAll rest hrest
      exact ⟨selected, List.mem_append_right _ hmem, hsame⟩

end

end SelectionTree

/-- Before a selected field stand the fields that are picked below it. -/
def PicksBefore (before : List SelectedField) (selected : SelectedField) : Prop :=
  ∀ pick ∈ selected.child.picks none, ∃ earlier ∈ before,
    earlier.inside = selected.inside ++ [selected.field] ∧ earlier.field = pick.field

theorem PicksBefore.append {before : List SelectedField} {selected : SelectedField}
    (earlier : List SelectedField) (h : PicksBefore before selected) :
    PicksBefore (earlier ++ before) selected := by
  intro pick hpick
  obtain ⟨found, hmem, hsame⟩ := h pick hpick
  exact ⟨found, List.mem_append_right _ hmem, hsame⟩

mutual

theorem SelectionTree.served_selectedFields (inside : List String) (tree : SelectionTree) :
    Served PicksBefore (tree.selectedFields inside) := by
  cases tree with
  | select field bindings child =>
    rw [SelectionTree.selectedFields]
    apply (SelectionTree.served_selectedFields (inside ++ [field]) child).snoc
    intro pick hpick
    exact child.exists_selectedField_of_pick hpick
  | rename key child =>
    rw [SelectionTree.selectedFields]
    exact SelectionTree.served_selectedFields inside child
  | group members =>
    rw [SelectionTree.selectedFields]
    exact SelectionTree.served_selectedFieldsAll inside members
  | nothing =>
    rw [SelectionTree.selectedFields]
    exact .nil
  | unsupported construct =>
    rw [SelectionTree.selectedFields]
    exact .nil

theorem SelectionTree.served_selectedFieldsAll (inside : List String)
    (trees : List SelectionTree) :
    Served PicksBefore (SelectionTree.selectedFieldsAll inside trees) := by
  cases trees with
  | nil =>
    rw [SelectionTree.selectedFieldsAll]
    exact .nil
  | cons first rest =>
    rw [SelectionTree.selectedFieldsAll]
    apply (SelectionTree.served_selectedFields inside first).append
      (SelectionTree.served_selectedFieldsAll inside rest)
    intro before selected h
    exact h.append _

end

/-! ## The names at the bottom of types -/

/-- The name below all lists and marks of a declared type. -/
def Graphql.TypeRef.innermost : Graphql.TypeRef → String
  | .named name => name
  | .list item => item.innermost
  | .nonNull inner => inner.innermost

namespace Model

theorem Naming.innermost_of_typeOf? {naming : Naming} {type : SchemaType} {known : FieldType}
    (h : naming.typeOf? type = some known) :
    ∃ name, type.underlying? = some name ∧ known.innermost = naming.mapping.map name := by
  induction type generalizing known with
  | named name =>
    rw [Naming.typeOf?, Option.some.injEq] at h
    subst h
    exact ⟨name, rfl, rfl⟩
  | list item ih =>
    rw [Naming.typeOf?, Option.map_eq_some_iff] at h
    obtain ⟨inner, hinner, rfl⟩ := h
    have hbelow := ih hinner
    exact hbelow
  | nullable item ih =>
    rw [Naming.typeOf?, Option.map_eq_some_iff] at h
    obtain ⟨inner, hinner, rfl⟩ := h
    have hbelow := ih hinner
    exact hbelow
  | untyped => cases h

theorem FieldType.innermost_required (type : FieldType) :
    type.required.innermost = type.innermost := by
  cases type <;> rfl

theorem Naming.innermost_declaredType (naming : Naming) (reference : Graphql.TypeRef) :
    (naming.declaredType reference).innermost = naming.mapping.map reference.innermost := by
  induction reference with
  | named name => rfl
  | list item ih => exact ih
  | nonNull inner ih =>
    rw [Naming.declaredType, FieldType.innermost_required]
    exact ih

end Model

/-! ## The selection sets that become structs -/

open Model Source

namespace Model

/-- Does the destination have the record of a selection set? -/
def Naming.provides (naming : Naming) (provided : List String) (root : String)
    (set : SelectionSet) : Bool :=
  (naming.schema.typeAt? root set.path).any (fun type => provided.contains (recordName type))

/-- The selection sets of a tree that become structs, in the order of these:
those below fields, unless the destination has their records, and last that of
the whole response, unless the destination has it. -/
def Naming.emittedSets (naming : Naming) (provided : ProvidedDeclarations) (root : String)
    (tree : SelectionTree) : List SelectionSet :=
  (((tree.selectedFields []).filter (naming.getsRecord root)).filter
      (fun selected => !naming.provides provided.records root selected.set)).map
    SelectedField.set ++
    if provided.response.struct then [] else [⟨[], tree⟩]

/-- Before a selection set stand the sets below the fields that it picks, as
far as these get records that the destination does not have. -/
def Naming.SetsBefore (naming : Naming) (provided : List String) (root : String)
    (before : List SelectionSet) (set : SelectionSet) : Prop :=
  ∀ pick ∈ set.tree.picks none, ∀ type,
    naming.schema.typeAt? root (set.path ++ [pick.field]) = some type →
    naming.schema.isComposite type = true → naming.makesRecord type = true →
      recordName type ∈ provided ∨ ∃ earlier ∈ before, earlier.path = set.path ++ [pick.field]

/-- What stands before a set in a tree stands before it among the sets that
become structs. -/
theorem Naming.setsBefore_of_picks {naming : Naming} {provided : List String} {root : String}
    {before : List SelectedField} {set : SelectionSet}
    (h : ∀ pick ∈ set.tree.picks none, ∃ earlier ∈ before,
      earlier.inside = set.path ∧ earlier.field = pick.field) :
    naming.SetsBefore provided root
      (((before.filter (naming.getsRecord root)).filter
        (fun selected => !naming.provides provided root selected.set)).map SelectedField.set)
      set := by
  intro pick hpick type htype hcomposite hrecord
  obtain ⟨earlier, hmem, hinside, hfield⟩ := h pick hpick
  have hpath : earlier.set.path = set.path ++ [pick.field] := by
    simp [SelectedField.set, hinside, hfield]
  by_cases hprovided : recordName type ∈ provided
  · exact .inl hprovided
  · right
    have hgets : naming.getsRecord root earlier = true := by
      simp [Naming.getsRecord, hinside, hfield, htype, hcomposite, hrecord]
    have hnew : naming.provides provided root earlier.set = false := by
      simp [Naming.provides, hpath, htype, hprovided]
    refine ⟨earlier.set, ?_, hpath⟩
    apply List.mem_map_of_mem
    simp [List.mem_filter, hmem, hgets, hnew]

theorem Naming.served_emittedSets (naming : Naming) (provided : ProvidedDeclarations)
    (root : String) (tree : SelectionTree) :
    Served (naming.SetsBefore provided.records root) (naming.emittedSets provided root tree) := by
  have hfields := tree.served_selectedFields []
  have hsets : Served (naming.SetsBefore provided.records root)
      ((((tree.selectedFields []).filter (naming.getsRecord root)).filter
        (fun selected => !naming.provides provided.records root selected.set)).map
          SelectedField.set) := by
    rw [List.filter_filter]
    refine (hfields.filter _ ?_).map SelectedField.set (fun before item h => h)
    intro before selected _ hbefore
    rw [← List.filter_filter]
    exact Naming.setsBefore_of_picks hbefore
  unfold Naming.emittedSets
  split
  · simpa using hsets
  · apply hsets.snoc
    apply Naming.setsBefore_of_picks
    intro pick hpick
    exact tree.exists_selectedField_of_pick hpick

/-! ## The structs of a response -/

/-- A field of a struct stands for a pick of a selection set: it has the key
of the pick on the wire and, at the bottom of its type, the name in models of
the type that the pick leads to. -/
def Naming.Leads (naming : Naming) (root : String) (path : List String) (pick : Pick)
    (type : String) (field : StructField) : Prop :=
  field.wireName = pick.key ∧ naming.schema.typeAt? root (path ++ [pick.field]) = some type ∧
    field.type.innermost = naming.mapping.map type

/-- A struct stands for a selection set: it has the name of the type that the
set is on, unless the set is the whole response, and a field for each pick. -/
def Naming.StructFor (naming : Naming) (root : String) (set : SelectionSet) (struct : Struct) :
    Prop :=
  (∀ type, set.path ≠ [] → naming.schema.typeAt? root set.path = some type →
    struct.name = recordName type) ∧
  List.Forall₂ (fun pick field => ∃ type, naming.Leads root set.path pick type field)
    (set.tree.picks none) struct.fields

theorem Naming.AnswersAll.leads {naming : Naming} {root parent : String} {path : List String}
    {tree : SelectionTree} {record : Record}
    (h : naming.AnswersAll parent tree record.fields)
    (hat : naming.schema.typeAt? root path = some parent) (extras : Extras) (doc : Option String) :
    List.Forall₂ (fun pick field => ∃ type, naming.Leads root path pick type field)
      (tree.picks none) (structOfRecord extras doc record).fields := by
  refine forall₂_trans ?_ h (standsFor_structFields .default record.fields)
  rintro pick field inStruct ⟨hkey, htype⟩ hstands
  obtain ⟨type, hunder, hname⟩ := Naming.innermost_of_typeOf? htype
  refine ⟨type, ?_, ?_, ?_⟩
  · rw [hstands.wireName_eq SerdeArgument.default_ne_rename, hkey]
  · rw [Schema.typeAt?_snoc hat, Schema.typeBelow?, hunder]
  · rw [hstands.1, hname]

theorem Naming.RecordFor.structFor {naming : Naming} {root : String} {selected : SelectedField}
    {record : Record} (h : naming.RecordFor root selected record) (extras : Extras)
    (doc : Option String) :
    naming.StructFor root selected.set (structOfRecord extras doc record) := by
  obtain ⟨type, htype, hname, hfields⟩ := h
  refine ⟨?_, hfields.leads htype extras doc⟩
  intro other _ hother
  have hsame : some type = some other := htype.symm.trans hother
  cases hsame
  exact hname

theorem Naming.RecordFor.provides_eq {naming : Naming} {root : String} {selected : SelectedField}
    {record : Record} (h : naming.RecordFor root selected record) (provided : List String) :
    naming.provides provided root selected.set = provided.contains record.name := by
  obtain ⟨type, htype, hname, -⟩ := h
  unfold Naming.provides SelectedField.set
  rw [htype, hname, Option.any_some]

/-- The structs of the records of a response stand, one for one and in order,
for the selection sets that become structs. -/
theorem Naming.structFor_recordStructs {naming : Naming} {root : String} {tree : SelectionTree}
    {harvest : Harvest} (h : naming.walk root tree = .ok harvest) (extras : Extras)
    (provided : ProvidedDeclarations) (operation : Operation) :
    List.Forall₂ (naming.StructFor root) (naming.emittedSets provided root tree)
      (recordStructs extras provided operation
        (harvest.records ++ [⟨dataRecord, harvest.fields⟩])) := by
  have hstart : naming.schema.typeAt? root [] = some root := rfl
  have hrecords := Naming.recordsFor_of_walk hstart tree h
  have hdata : naming.AnswersAll root tree (Record.mk dataRecord harvest.fields).fields :=
    Naming.answersAll_of_walk tree h
  unfold Naming.emittedSets recordStructs
  simp only [List.dropLast_concat, List.getLast?_concat, Option.toList_some, List.map_singleton]
  apply List.rel_append
  · rw [List.forall₂_map_left_iff, List.forall₂_map_right_iff]
    have hkept : List.Forall₂ (naming.RecordFor root)
        (((tree.selectedFields []).filter (naming.getsRecord root)).filter
          (fun selected => !naming.provides provided.records root selected.set))
        (harvest.records.filter (fun record => !provided.records.contains record.name)) := by
      refine List.rel_filter ?_ hrecords
      intro selected record hfor
      show (!naming.provides provided.records root selected.set) = true ↔ _
      rw [hfor.provides_eq]
    exact hkept.imp fun selected record hfor => hfor.structFor extras none
  · cases provided.response.struct with
    | true => exact .nil
    | false =>
      refine .cons ⟨?_, ?_⟩ .nil
      · intro type hpath
        exact absurd rfl hpath
      · exact hdata.leads hstart extras _

/-- The structs before a struct have those of the records that it refers to. -/
theorem Naming.StructFor.exists_earlier {naming : Naming} {provided : List String} {root : String}
    {sets : List SelectionSet} {before : List Struct} {set : SelectionSet} {struct : Struct}
    (h : naming.StructFor root set struct)
    (hbefore : List.Forall₂ (naming.StructFor root) sets before)
    (hsets : naming.SetsBefore provided root sets set) :
    List.Forall₂ (fun pick field => ∃ type, naming.Leads root set.path pick type field ∧
        (naming.schema.isComposite type = true → naming.mapping.map type = recordName type →
          (∃ earlier ∈ before, earlier.name = recordName type) ∨ recordName type ∈ provided))
      (set.tree.picks none) struct.fields := by
  have hpicks := (List.forall₂_and_left _ _).2 ⟨hsets, h.2⟩
  refine hpicks.imp ?_
  rintro pick field ⟨hneeds, type, hleads⟩
  refine ⟨type, hleads, ?_⟩
  intro hcomposite hown
  have hrecord : naming.makesRecord type = true := by simpa [Naming.makesRecord] using hown
  rcases hneeds type hleads.2.1 hcomposite hrecord with hprovided | ⟨earlier, hmem, hpath⟩
  · exact .inr hprovided
  · left
    have hnamed : ∀ other ∈ sets, other.path = set.path ++ [pick.field] →
        ∃ made ∈ before, made.name = recordName type := by
      intro other hother hsame
      obtain ⟨made, hmade, hfor⟩ := exists_of_mem_forall₂ hbefore hother
      refine ⟨made, hmade, hfor.1 type ?_ ?_⟩
      · simp [hsame]
      · rw [hsame]
        exact hleads.2.1
    exact hnamed earlier hmem hpath

end Model

/-! ## The struct of the variables -/

/-- The first argument that a variable is given to, where a walk comes to it,
is declared with the type, below all lists and marks. -/
def Schema.FirstGives (schema : Schema) (root : String) (tree : SelectionTree)
    (name type : String) : Prop :=
  ∃ given declared, ((tree.givenArguments []).filter (schema.reaches root)).find?
      (fun given => given.binding.name = name) = some given ∧
    schema.argumentAt? root given = some declared ∧ declared.underlying? = some type

theorem Model.Bound.Keeps.exists_firstGives {naming : Naming} {root : String}
    {tree : SelectionTree} {bound : Bound} {occurrences : List Field}
    (h : bound.Keeps occurrences)
    (hbinds : List.Forall₂ (naming.Binds root)
      ((tree.givenArguments []).filter (naming.schema.reaches root)) occurrences)
    {kept : Field} (hkept : kept ∈ bound.fields) :
    ∃ type, naming.schema.FirstGives root tree kept.name type ∧
      kept.type.innermost = naming.mapping.map type := by
  obtain ⟨given, declared, hgiven, hdeclared, htype⟩ := h.exists_given hbinds hkept
  obtain ⟨type, hunder, hname⟩ := Naming.innermost_of_typeOf? htype
  exact ⟨type, ⟨given, declared, hgiven, hdeclared, hunder⟩, hname⟩

/-- The fields of the variables have the names in models of the types that they
are declared with, or that the first argument they are given to is. -/
structure LoadedSchema.VariablesNamed (loaded : LoadedSchema) (options : GenerationOptions)
    (operation : Operation) (root : String) (fields : List StructField) : Prop where
  declared : options.variableSource.usesDeclared operation = true →
    List.Forall₂ (fun (declaration : Graphql.VariableDeclaration) (field : StructField) =>
        field.type.innermost = loaded.mapping.map declaration.type.innermost)
      operation.declarations fields
  bound : options.variableSource.usesDeclared operation = false →
    ∀ field ∈ fields, ∃ type,
      loaded.schema.FirstGives root operation.selection field.wireName type ∧
        field.type.innermost = loaded.mapping.map type

theorem Model.Naming.forall₂_declaredVariables (naming : Naming)
    (declared : List Graphql.VariableDeclaration) :
    List.Forall₂ (fun (declaration : Graphql.VariableDeclaration) (known : Field) =>
        known.type = naming.declaredType declaration.type)
      declared (naming.declaredVariables declared) := by
  unfold Naming.declaredVariables
  rw [List.forall₂_map_right_iff, List.forall₂_same]
  intro declaration _
  rfl

theorem LoadedSchema.variablesNamed_of_variablesOf {loaded : LoadedSchema}
    {options : GenerationOptions} {operation : Operation} {root : String} {bound : Bound}
    (hroot : loaded.naming.rootType (.named root) = .ok root)
    (h : variablesOf loaded.naming options.variableSource operation (.named root) = .ok bound) :
    loaded.VariablesNamed options operation root
      (structOfVariables loaded.extras operation bound.fields).fields := by
  have hstands := standsFor_structFields .skipNone bound.fields
  unfold variablesOf at h
  refine ⟨?_, ?_⟩
  · intro hdeclared
    rw [if_pos hdeclared] at h
    cases h
    refine forall₂_trans ?_ (loaded.naming.forall₂_declaredVariables _) hstands
    intro declaration known field hknown hfield
    rw [hfield.1, hknown]
    exact loaded.naming.innermost_declaredType declaration.type
  · intro hbound
    rw [if_neg (by simp [hbound])] at h
    obtain ⟨name, hname, hcollect⟩ := Naming.boundVariables_eq_ok.1 h
    rw [hroot, Except.ok.injEq] at hname
    subst hname
    have hstart : loaded.naming.schema.entered? root [] = some root := rfl
    obtain ⟨occurrences, hbinds, hkeeps⟩ := Naming.keeps_of_collect hstart _ hcollect
    intro field hfield
    obtain ⟨kept, hkept, hflip⟩ := exists_of_mem_forall₂ hstands.flip hfield
    have hsame : StandsFor .skipNone kept field := hflip
    obtain ⟨type, hfirst, hname⟩ := hkeeps.exists_firstGives hbinds hkept
    refine ⟨type, ?_, ?_⟩
    · rw [hsame.wireName_eq SerdeArgument.skipNone_ne_rename]
      exact hfirst
    · rw [hsame.1]
      exact hname

/-! ## The law -/

/-- In a generated module every field of the struct of a response has, at the
bottom of its type, the name in models of the type that it leads to. If that
type is composite and has no name of its own in models, a struct of its name
stands earlier in the module, unless the destination declares it. The fields of
the variables have the names of the types of these, and no more is promised. -/
theorem every_record_of_a_response_has_its_struct_before (loaded : LoadedSchema)
    (document : String) (options : GenerationOptions) (generated : Generated)
    (h : loaded.generate document options = .ok generated) :
    ∃ root responses, loaded.schema.root? generated.operation.kind = some root ∧
      generated.source = (loaded.moduleOf options generated.operation generated.records
        generated.variableFields).render ∧
      (loaded.moduleOf options generated.operation generated.records
          generated.variableFields).structs =
        responses ++ (if options.provided.request.struct then [] else
          [structOfVariables loaded.extras generated.operation generated.variableFields]) ∧
      (∀ before struct after, responses = before ++ struct :: after →
        ∃ set, (loaded.naming.emittedSets options.provided root
            generated.operation.selection)[before.length]? = some set ∧
          List.Forall₂ (fun pick field => ∃ type,
              loaded.naming.Leads root set.path pick type field ∧
              (loaded.schema.isComposite type = true →
                loaded.mapping.map type = recordName type →
                (∃ earlier ∈ before, earlier.name = recordName type) ∨
                  recordName type ∈ options.provided.records))
            (set.tree.picks none) struct.fields) ∧
      loaded.VariablesNamed options generated.operation root
        (structOfVariables loaded.extras generated.operation generated.variableFields).fields := by
  obtain ⟨root, response, bound, hrun⟩ := LoadedSchema.generates_of_generate h
  obtain ⟨name, hroot, harvest, hwalk, hresponse⟩ := Naming.resolve_eq_ok.1 hrun.resolved
  obtain ⟨hname, -⟩ := Naming.rootType_eq_ok.1 hroot
  have hname : root = name := hname
  subst hname
  have hrecords : generated.records = harvest.records ++ [⟨dataRecord, harvest.fields⟩] := by
    rw [hrun.records, ← hresponse]
  have hstructs := Naming.structFor_recordStructs hwalk loaded.extras options.provided
    generated.operation
  have hserved := loaded.naming.served_emittedSets options.provided root
    generated.operation.selection
  rw [← hrecords] at hstructs
  refine ⟨root, _, hrun.rooted, hrun.source, Source.structs_ofModel .., ?_, ?_⟩
  · intro before struct after hsplit
    rw [hsplit] at hstructs
    obtain ⟨left, set, right, hsets, hleft, hset⟩ := exists_split_of_forall₂ hstructs
    refine ⟨set, ?_, hset.exists_earlier hleft (hserved.of_split hsets)⟩
    rw [hsets, ← hleft.length_eq]
    simp
  · rw [hrun.variableFields]
    exact LoadedSchema.variablesNamed_of_variablesOf hroot hrun.bindings

/-- The people with their pets, as a loaded schema. -/
def peopleSchema : LoadedSchema where
  name := "people"
  schema := peopleNaming.schema
  mapping := peopleNaming.mapping
  extras := ⟨[], []⟩
  warnings := []

/-- The hero with the owner of a pet: one record below another one, and below
a type with a name of its own. -/
def heroDocument : String := "query ($n: Int) { hero { pet { owner { name } } lead: name } }"

theorem every_record_of_the_hero_has_its_struct_before :
    ∃ generated, peopleSchema.generate heroDocument plainOptions = .ok generated ∧
      ∃ root responses, peopleSchema.schema.root? generated.operation.kind = some root ∧
        generated.source = (peopleSchema.moduleOf plainOptions generated.operation
          generated.records generated.variableFields).render ∧
        (peopleSchema.moduleOf plainOptions generated.operation generated.records
            generated.variableFields).structs =
          responses ++ (if plainOptions.provided.request.struct then [] else
            [structOfVariables peopleSchema.extras generated.operation
              generated.variableFields]) ∧
        (∀ before struct after, responses = before ++ struct :: after →
          ∃ set, (peopleSchema.naming.emittedSets plainOptions.provided root
              generated.operation.selection)[before.length]? = some set ∧
            List.Forall₂ (fun pick field => ∃ type,
                peopleSchema.naming.Leads root set.path pick type field ∧
                (peopleSchema.schema.isComposite type = true →
                  peopleSchema.mapping.map type = recordName type →
                  (∃ earlier ∈ before, earlier.name = recordName type) ∨
                    recordName type ∈ plainOptions.provided.records))
              (set.tree.picks none) struct.fields) ∧
        peopleSchema.VariablesNamed plainOptions generated.operation root
          (structOfVariables peopleSchema.extras generated.operation
            generated.variableFields).fields := by
  obtain ⟨generated, hrun, -⟩ :=
    exists_of_any_toOption (x := peopleSchema.generate heroDocument plainOptions)
      (p := fun _ => true) (by decide +kernel)
  exact ⟨generated, hrun, every_record_of_a_response_has_its_struct_before _ _ _ _ hrun⟩

/-- A schema with an argument that is declared with a type of objects. -/
def likenessText : String := "type Query { find(like: Item): Int } type Item { name: ID }"

/-- An argument may be declared with a composite type. The struct of the
variables then refers to a record, and no struct of its name is made. -/
theorem a_variable_of_a_composite_type_has_no_struct_before :
    ∃ loaded generated, LoadedSchema.ofText "api" likenessText .none = .ok loaded ∧
      loaded.generate "query ($like: Item) { find(like: $like) }" plainOptions =
        .ok generated ∧
      plainOptions.provided.records = [] ∧
      loaded.schema.isComposite "Item" = true ∧
      loaded.mapping.map "Item" = recordName "Item" ∧
      (loaded.schema.field? "Query" "find").bind (fun field => field.arguments.get? "like") =
        some (.nullable (.named "Item")) ∧
      (loaded.moduleOf plainOptions generated.operation generated.records
        generated.variableFields).structs.map (fun struct => (struct.name, struct.fields)) =
          [("Data", [⟨"find", .optional (.named "i32"), [.default]⟩]),
            ("Variables", [⟨"like", .optional (.named "Item"), [.skipNone]⟩])] := by
  obtain ⟨loaded, hloaded, hrest⟩ :=
    exists_of_any_toOption (x := LoadedSchema.ofText "api" likenessText .none)
      (p := fun loaded => loaded.schema.isComposite "Item" &&
        loaded.mapping.map "Item" = recordName "Item" &&
        (loaded.schema.field? "Query" "find").bind (fun field => field.arguments.get? "like") =
          some (.nullable (.named "Item")) &&
        (loaded.generate "query ($like: Item) { find(like: $like) }"
            plainOptions).toOption.any (fun generated =>
          (loaded.moduleOf plainOptions generated.operation generated.records
            generated.variableFields).structs.map (fun struct => (struct.name, struct.fields)) =
              [("Data", [⟨"find", .optional (.named "i32"), [.default]⟩]),
                ("Variables", [⟨"like", .optional (.named "Item"), [.skipNone]⟩])]))
      (by decide +kernel)
  simp only [Bool.and_eq_true, decide_eq_true_eq] at hrest
  obtain ⟨⟨⟨hcomposite, hown⟩, hargument⟩, hgenerates⟩ := hrest
  obtain ⟨generated, hgenerated, hstructs⟩ := exists_of_any_toOption hgenerates
  exact ⟨loaded, generated, hloaded, hgenerated, rfl, hcomposite, hown, hargument,
    of_decide_eq_true hstructs⟩

end OperationModels
