-- The names of fields on the wire, said of the selections as they are written.
-- A selection set of a document has a response key for each field written
-- directly in it, and these are, in order, the names on the wire of the struct
-- that the set becomes.
import OperationModels.Proofs.EarlierStructs

namespace OperationModels

/-! ## Selection sets as they are written -/

namespace Graphql

/-- The response key of a selection: the name that is written before a field,
or the name of the field. A fragment has none. -/
def Selection.responseKey? : Selection → Option String
  | .field own name _ _ _ => some (own.getD name)
  | .spread .. => none
  | .inline .. => none

/-- The response keys of a selection set, in order. -/
def responseKeys (selections : List Selection) : List String :=
  selections.filterMap Selection.responseKey?

/-- A selection set of a document: the fields that lead to it, outermost first,
and its selections. A field without a set has one without selections. -/
structure WrittenSet where
  path : List String
  selections : List Selection

mutual

/-- The selection sets below a selection that lies inside some fields already,
inner ones first. No set inside a fragment counts. -/
def Selection.setsBelow (inside : List String) : Selection → List WrittenSet
  | .field _ name _ _ selections =>
    setsBelowAll (inside ++ [name]) selections ++ [⟨inside ++ [name], selections⟩]
  | .spread .. => []
  | .inline .. => []

/-- The selection sets below selections, one selection after the other. -/
def Selection.setsBelowAll (inside : List String) : List Selection → List WrittenSet
  | [] => []
  | first :: rest => first.setsBelow inside ++ setsBelowAll inside rest

end

end Graphql

open Graphql

/-! ## The tree of a selection -/

namespace SelectionTree

/-- The tree below a field. -/
def childOf (selections : List Selection) : SelectionTree :=
  if selections.isEmpty then .nothing else .group (ofSelections selections)

theorem ofSelection_field (own : Option String) (name : String) (arguments : List (String × Value))
    (directives : List Directive) (selections : List Selection) :
    ofSelection (.field own name arguments directives selections) =
      .keyed own name (.select name (bindingsOf arguments) (childOf selections)) := by
  cases selections with
  | nil => rw [ofSelection, childOf, List.isEmpty_nil, if_pos rfl]
  | cons first rest => rw [ofSelection, childOf, ofSelections]; rfl

/-- To give a field its own name is to give it no other. -/
theorem picks_keyed (own : Option String) (field : String) (bindings : List Binding)
    (child : SelectionTree) :
    (keyed own field (.select field bindings child)).picks none = [⟨own.getD field, field⟩] := by
  cases own with
  | none => simp [keyed, picks]
  | some key =>
    by_cases hsame : key = field <;> simp [keyed, picks, hsame]

theorem selectedFields_keyed (own : Option String) (field : String) (tree : SelectionTree)
    (inside : List String) :
    (keyed own field tree).selectedFields inside = tree.selectedFields inside := by
  cases own with
  | none => rfl
  | some key =>
    by_cases hsame : key = field
    · simp [keyed, hsame]
    · rw [keyed, if_neg hsame, selectedFields]

theorem keys_ofSelection (selection : Selection) :
    (ofSelection selection).keys = selection.responseKey?.toList := by
  unfold keys
  cases selection with
  | field own name arguments directives selections =>
    rw [ofSelection_field, picks_keyed]
    rfl
  | spread fragment directives => simp [ofSelection, picks, Selection.responseKey?]
  | inline type directives selections =>
    cases type <;> simp [ofSelection, picks, Selection.responseKey?]

theorem keys_group_ofSelections (selections : List Selection) :
    (group (ofSelections selections)).keys = responseKeys selections := by
  induction selections with
  | nil => simp [keys, picks, ofSelections, picksAll, responseKeys]
  | cons first rest ih =>
    have hfirst := keys_ofSelection first
    unfold keys at *
    rw [picks] at *
    rw [ofSelections, picksAll, List.map_append, hfirst, ih]
    unfold responseKeys
    rw [List.filterMap_cons]
    cases first.responseKey? <;> rfl

theorem keys_childOf (selections : List Selection) :
    (childOf selections).keys = responseKeys selections := by
  unfold childOf
  split
  · rename_i hempty
    rw [List.isEmpty_iff.1 hempty]
    simp [keys, picks, responseKeys]
  · exact keys_group_ofSelections selections

theorem selectedFields_childOf (selections : List Selection) (inside : List String) :
    (childOf selections).selectedFields inside =
      selectedFieldsAll inside (ofSelections selections) := by
  unfold childOf
  split
  · rename_i hempty
    rw [List.isEmpty_iff.1 hempty]
    simp [selectedFields, ofSelections, selectedFieldsAll]
  · rw [selectedFields]

end SelectionTree

/-- A selected field of a tree stands for a selection set: it leads to the set,
and what is selected below it picks the response keys of the set. -/
def StandsForSet (written : WrittenSet) (selected : SelectedField) : Prop :=
  selected.inside ++ [selected.field] = written.path ∧
    selected.child.keys = responseKeys written.selections

mutual

theorem forall₂_setsBelow (inside : List String) (selection : Selection) :
    List.Forall₂ StandsForSet (selection.setsBelow inside)
      ((SelectionTree.ofSelection selection).selectedFields inside) := by
  cases selection with
  | field own name arguments directives selections =>
    rw [SelectionTree.ofSelection_field, SelectionTree.selectedFields_keyed,
      SelectionTree.selectedFields, SelectionTree.selectedFields_childOf, Selection.setsBelow]
    apply List.rel_append (forall₂_setsBelowAll (inside ++ [name]) selections)
    exact .cons ⟨rfl, SelectionTree.keys_childOf selections⟩ .nil
  | spread fragment directives =>
    rw [SelectionTree.ofSelection, SelectionTree.selectedFields, Selection.setsBelow]
    exact .nil
  | inline type directives selections =>
    cases type <;>
    · rw [SelectionTree.ofSelection, SelectionTree.selectedFields, Selection.setsBelow]
      exact .nil

theorem forall₂_setsBelowAll (inside : List String) (selections : List Selection) :
    List.Forall₂ StandsForSet (Selection.setsBelowAll inside selections)
      (SelectionTree.selectedFieldsAll inside (SelectionTree.ofSelections selections)) := by
  cases selections with
  | nil =>
    rw [Selection.setsBelowAll, SelectionTree.ofSelections, SelectionTree.selectedFieldsAll]
    exact .nil
  | cons first rest =>
    rw [Selection.setsBelowAll, SelectionTree.ofSelections, SelectionTree.selectedFieldsAll]
    exact List.rel_append (forall₂_setsBelow inside first) (forall₂_setsBelowAll inside rest)

end

/-! ## The structs of selection sets -/

open Model Source

namespace Model

/-- Does a selection set get a struct? It does on a composite type that has no
name of its own in models. -/
def Naming.getsStruct (naming : Naming) (root : String) (written : WrittenSet) : Bool :=
  (naming.schema.typeAt? root written.path).any
    (fun type => naming.schema.isComposite type && naming.makesRecord type)

/-- The struct of a selection set: named for the type that the set is on, with
the response keys of the set as the names of its fields on the wire. -/
def Naming.StructOf (naming : Naming) (root : String) (written : WrittenSet) (struct : Struct) :
    Prop :=
  ∃ type, naming.schema.typeAt? root written.path = some type ∧
    struct.name = recordName type ∧ struct.wireNames = responseKeys written.selections

theorem Naming.getsStruct_eq_getsRecord (naming : Naming) (root : String) {written : WrittenSet}
    {selected : SelectedField} (hset : StandsForSet written selected) :
    naming.getsStruct root written = naming.getsRecord root selected := by
  unfold Naming.getsStruct Naming.getsRecord
  rw [hset.1]

theorem Naming.structOf_of_recordFor {naming : Naming} {root : String} {written : WrittenSet}
    {selected : SelectedField} {record : Record} (hset : StandsForSet written selected)
    (h : naming.RecordFor root selected record) (extras : Extras) (doc : Option String) :
    naming.StructOf root written (structOfRecord extras doc record) := by
  obtain ⟨type, htype, hname, hfields⟩ := h
  refine ⟨type, ?_, hname, ?_⟩
  · rw [← hset.1, htype]
  · rw [wireNames_structOfRecord, hfields.map_name, hset.2]

/-- The records of a walk over selections as they are written become the
structs of the sets below them. -/
theorem Naming.forall₂_structOf_of_walk {naming : Naming} {root : String}
    {selections : List Selection} {harvest : Harvest}
    (h : naming.walk root (.group (SelectionTree.ofSelections selections)) = .ok harvest)
    (extras : Extras) (doc : Option String) :
    List.Forall₂ (naming.StructOf root)
      ((Selection.setsBelowAll [] selections).filter (naming.getsStruct root))
      (harvest.records.map (structOfRecord extras doc)) := by
  have htop : naming.schema.typeAt? root [] = some root := rfl
  have hrecords := Naming.recordsFor_of_walk htop _ h
  rw [SelectionTree.selectedFields] at hrecords
  have hsets : List.Forall₂ StandsForSet
      ((Selection.setsBelowAll [] selections).filter (naming.getsStruct root))
      ((SelectionTree.selectedFieldsAll [] (SelectionTree.ofSelections selections)).filter
        (naming.getsRecord root)) := by
    refine List.rel_filter ?_ (forall₂_setsBelowAll [] selections)
    intro written selected hset
    exact Bool.eq_iff_iff.1 (naming.getsStruct_eq_getsRecord root hset)
  rw [List.forall₂_map_right_iff]
  refine forall₂_trans ?_ hsets hrecords
  intro written selected record hset hrecord
  exact Naming.structOf_of_recordFor hset hrecord extras doc

end Model

theorem Source.recordStructs_none (extras : Extras) (operation : Operation) (nested : List Record)
    (data : Record) :
    recordStructs extras .none operation (nested ++ [data]) =
      nested.map (structOfRecord extras none) ++
        [structOfRecord extras (some (responseDoc operation)) data] := by
  simp [recordStructs, ProvidedDeclarations.none]

/-! ## The operation of a document -/

theorem Operation.parse_eq_ok {text : String} {wanted : Option String} {operation : Operation}
    {told : List Warning} (h : Operation.parse text wanted = .ok (operation, told)) :
    ∃ document definition, QueryDocument.parse text = .ok document ∧
      chooseOperation document.operations wanted = .ok definition ∧
      operation = Operation.ofDefinition definition text ∧
      told = fragmentWarnings document ++ choiceWarnings document.operations wanted ++
        selectionsWarnings definition.selections := by
  unfold Operation.parse at h
  split at h
  · cases h
  · split at h
    · rename_i document hparse
      unfold Operation.ofDocument at h
      rw [bind_eq_ok] at h
      obtain ⟨definition, hchoose, hpure⟩ := h
      rw [pure_eq_ok, Prod.mk.injEq] at hpure
      exact ⟨document, definition, hparse, hchoose, hpure.1.symm, hpure.2.symm⟩
    · cases h

/-! ## The law -/

/-- A module that leaves nothing out has a struct for each selection set that
gets one, inner ones first, then `Data` for the whole response and the struct of
the variables. The names of a struct on the wire are the response keys of its
set, in order: those of the fields written directly in it, whatever the field
that leads to the set is called and whatever fragments stand between them. -/
theorem names_on_the_wire_are_the_response_keys (loaded : LoadedSchema) (document : String)
    (operationName : Option String) (source : VariableSource) (generated : Generated)
    (h : loaded.generate document ⟨operationName, source, .none⟩ = .ok generated) :
    ∃ parsed definition root nested data, QueryDocument.parse document = .ok parsed ∧
      chooseOperation parsed.operations operationName = .ok definition ∧
      loaded.schema.root? definition.kind = some root ∧
      generated.source = (loaded.moduleOf ⟨operationName, source, .none⟩ generated.operation
        generated.records generated.variableFields).render ∧
      (loaded.moduleOf ⟨operationName, source, .none⟩ generated.operation generated.records
          generated.variableFields).structs = nested ++ [data,
        structOfVariables loaded.extras generated.operation generated.variableFields] ∧
      data.name = "Data" ∧ data.wireNames = responseKeys definition.selections ∧
      List.Forall₂ (loaded.naming.StructOf root)
        ((Selection.setsBelowAll [] definition.selections).filter
          (loaded.naming.getsStruct root)) nested := by
  obtain ⟨root, response, bound, hrun⟩ := LoadedSchema.generates_of_generate h
  obtain ⟨told, hparsed⟩ := hrun.parsed
  obtain ⟨parsed, definition, hparse, hchoose, hoperation, -⟩ := Operation.parse_eq_ok hparsed
  obtain ⟨harvest, hwalk, hrecords⟩ := hrun.exists_walk
  have hselection : generated.operation.selection =
      .group (SelectionTree.ofSelections definition.selections) := by
    rw [hoperation]
    rfl
  rw [hselection] at hwalk
  have hkind : generated.operation.kind = definition.kind := by
    rw [hoperation]
    rfl
  refine ⟨parsed, definition, root, harvest.records.map (structOfRecord loaded.extras none),
    structOfRecord loaded.extras (some (responseDoc generated.operation))
      ⟨dataRecord, harvest.fields⟩, hparse, hchoose, ?_, hrun.source, ?_, rfl, ?_, ?_⟩
  · rw [← hkind]
    exact hrun.rooted
  · unfold LoadedSchema.moduleOf
    rw [hrecords, Source.structs_ofModel, Source.recordStructs_none, List.append_assoc]
    rfl
  · rw [wireNames_structOfRecord, ← SelectionTree.keys_group_ofSelections]
    exact (Naming.answersAll_of_walk _ hwalk).map_name
  · exact Naming.forall₂_structOf_of_walk hwalk loaded.extras none

/-- The hero under another name, with a field renamed to its own name and one to
another name below it, and with fragments in between. -/
def leadDocument : String :=
  "{ lead: hero { ...F me: name ... on person { name } pet: pet { owner { name } } } }"

theorem names_of_the_lead_on_the_wire_are_the_response_keys :
    ∃ generated, peopleSchema.generate leadDocument ⟨none, .auto, .none⟩ = .ok generated ∧
      ∃ parsed definition root nested data, QueryDocument.parse leadDocument = .ok parsed ∧
        chooseOperation parsed.operations none = .ok definition ∧
        peopleSchema.schema.root? definition.kind = some root ∧
        generated.source = (peopleSchema.moduleOf ⟨none, .auto, .none⟩ generated.operation
          generated.records generated.variableFields).render ∧
        (peopleSchema.moduleOf ⟨none, .auto, .none⟩ generated.operation generated.records
            generated.variableFields).structs = nested ++ [data,
          structOfVariables peopleSchema.extras generated.operation generated.variableFields] ∧
        data.name = "Data" ∧ data.wireNames = responseKeys definition.selections ∧
        List.Forall₂ (peopleSchema.naming.StructOf root)
          ((Selection.setsBelowAll [] definition.selections).filter
            (peopleSchema.naming.getsStruct root)) nested := by
  obtain ⟨generated, hrun, -⟩ :=
    exists_of_any_toOption (x := peopleSchema.generate leadDocument ⟨none, .auto, .none⟩)
      (p := fun _ => true) (by decide +kernel)
  exact ⟨generated, hrun, names_on_the_wire_are_the_response_keys _ _ _ _ _ hrun⟩

end OperationModels
