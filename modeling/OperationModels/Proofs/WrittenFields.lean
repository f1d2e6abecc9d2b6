-- What is told of an operation. The fragments of its document come first, then
-- the choice among several operations, and then the fields of the operation as
-- they stand in the document, of each its directives ahead of the arguments
-- that hide a variable. A field is bound with its arguments that are variables.
import OperationModels.Proofs.SilentDrops

namespace OperationModels

open Graphql

namespace Graphql

/-! ## What stands in a document -/

/-- A field as it stands in a selection set, without the selections below it. -/
structure WrittenField where
  name : String
  arguments : List (String × Value)
  directives : List Directive

mutual

/-- The fields of a selection, each ahead of those below it. No field inside a
fragment counts. -/
def Selection.fields : Selection → List WrittenField
  | .field _ name arguments directives selections =>
    ⟨name, arguments, directives⟩ :: fieldsOf selections
  | .spread .. => []
  | .inline .. => []

/-- The same of selections, one after the other. -/
def Selection.fieldsOf : List Selection → List WrittenField
  | [] => []
  | first :: rest => first.fields ++ fieldsOf rest

end

def Value.isVariable : Value → Bool
  | .variable _ => true
  | _ => false

/-- A value hides a variable: it is none itself, but a part of it is one. -/
def Value.Hides (value : Value) : Prop :=
  (∀ name, value ≠ .variable name) ∧ ∃ name, value.Holds name

theorem Value.hides_iff (value : Value) :
    value.Hides ↔ value.isVariable = false ∧ value.holdsVariable = true := by
  unfold Value.Hides
  rw [Value.holdsVariable_iff]
  apply and_congr_left'
  cases value <;> simp [Value.isVariable]

instance (value : Value) : Decidable value.Hides := decidable_of_iff _ value.hides_iff.symm

/-- What is told of a field: its directives, and then its arguments that hide a
variable. -/
def WrittenField.warnings (field : WrittenField) : List Warning :=
  field.directives.map (fun directive => .directiveIgnored directive.name field.name) ++
    (field.arguments.filter (fun argument => argument.2.Hides)).map
      (fun argument => .nestedVariable argument.1 field.name)

/-- An operation answers what is asked for: it has the name that is asked for, if
one is. -/
def OperationDefinition.Answers (definition : OperationDefinition) (wanted : Option String) :
    Prop :=
  wanted = none ∨ definition.name = wanted

instance (definition : OperationDefinition) (wanted : Option String) :
    Decidable (definition.Answers wanted) :=
  inferInstanceAs (Decidable (wanted = none ∨ definition.name = wanted))

namespace QueryDocument

/-- The definitions of fragments, in order. -/
def fragments (document : QueryDocument) : List FragmentDefinition :=
  document.filterMap (fun item => match item with
    | .fragment definition => some definition
    | .operation _ => none)

/-- What is told of the fragments of a document. -/
def fragmentsTold (document : QueryDocument) : List Warning :=
  document.fragments.map (fun fragment => .fragmentIgnored fragment.name)

/-- A document offers an operation: of all its operations it is the first that
answers what is asked for. -/
def Offers (document : QueryDocument) (wanted : Option String)
    (definition : OperationDefinition) : Prop :=
  ∃ before after, document.operations = before ++ definition :: after ∧
    definition.Answers wanted ∧ ∀ other ∈ before, ¬ other.Answers wanted

end QueryDocument

end Graphql

/-- A binding as it stands among the arguments of a field. -/
def Binding.written (binding : Binding) : String × Value :=
  (binding.argument, .variable binding.name)

/-- A field that a tree selects, with the variables given to its arguments. -/
structure BoundField where
  field : String
  bindings : List Binding

namespace SelectionTree

mutual

/-- The fields that a tree selects, each ahead of those below it. -/
def boundFields : SelectionTree → List BoundField
  | .select field bindings child => ⟨field, bindings⟩ :: child.boundFields
  | .rename _ child => child.boundFields
  | .group members => boundFieldsAll members
  | .nothing => []
  | .unsupported _ => []

/-- The same of trees, one after the other. -/
def boundFieldsAll : List SelectionTree → List BoundField
  | [] => []
  | first :: rest => first.boundFields ++ boundFieldsAll rest

end

end SelectionTree

/-- A field of a tree stands for one of a document: it has its name, and it is
bound with just those of its arguments that are variables, in order. -/
def BindsAs (written : WrittenField) (bound : BoundField) : Prop :=
  bound.field = written.name ∧
    bound.bindings.map Binding.written =
      written.arguments.filter (fun argument => argument.2.isVariable)

/-! ## Fields -/

theorem nestedVariables_eq (field : String) (arguments : List (String × Value)) :
    nestedVariables field arguments =
      (arguments.filter (fun argument => argument.2.Hides)).map
        (fun argument => .nestedVariable argument.1 field) := by
  unfold nestedVariables
  rw [← List.filterMap_eq_map, List.filterMap_filter]
  refine List.filterMap_congr fun argument _ => ?_
  obtain ⟨key, value⟩ := argument
  simp only [Value.hides_iff, Function.comp_apply]
  cases value <;> simp [Value.isVariable]

theorem map_written_bindingsOf (arguments : List (String × Value)) :
    (bindingsOf arguments).map Binding.written =
      arguments.filter (fun argument => argument.2.isVariable) := by
  unfold bindingsOf
  rw [List.map_filterMap, ← List.filterMap_eq_filter]
  refine List.filterMap_congr fun argument _ => ?_
  obtain ⟨key, value⟩ := argument
  cases value <;> simp [Value.isVariable, Binding.written, Option.guard]

mutual

/-- What is told of a selection is told of its fields, one by one. -/
theorem selectionWarnings_eq (selection : Selection) :
    selectionWarnings selection = selection.fields.flatMap WrittenField.warnings := by
  cases selection with
  | field own name arguments directives selections =>
    rw [selectionWarnings, Selection.fields, List.flatMap_cons, WrittenField.warnings,
      nestedVariables_eq, selectionsWarnings_eq selections]
  | spread fragment directives => rw [selectionWarnings, Selection.fields, List.flatMap_nil]
  | inline type directives selections =>
    rw [selectionWarnings, Selection.fields, List.flatMap_nil]

theorem selectionsWarnings_eq (selections : List Selection) :
    selectionsWarnings selections =
      (Selection.fieldsOf selections).flatMap WrittenField.warnings := by
  cases selections with
  | nil => rw [selectionsWarnings, Selection.fieldsOf, List.flatMap_nil]
  | cons first rest =>
    rw [selectionsWarnings, Selection.fieldsOf, List.flatMap_append, selectionWarnings_eq first,
      selectionsWarnings_eq rest]

end

namespace SelectionTree

theorem boundFields_keyed (own : Option String) (field : String) (tree : SelectionTree) :
    (keyed own field tree).boundFields = tree.boundFields := by
  cases own with
  | none => rfl
  | some key =>
    rw [keyed]
    split
    · rfl
    · rw [boundFields]

theorem boundFields_childOf (selections : List Selection) :
    (childOf selections).boundFields = boundFieldsAll (ofSelections selections) := by
  unfold childOf
  split
  · rename_i hempty
    rw [List.isEmpty_iff.1 hempty, boundFields, ofSelections, boundFieldsAll]
  · rw [boundFields]

mutual

/-- The fields of a tree stand for those of the selection that it is made of. -/
theorem bindsAs_boundFields (selection : Selection) :
    List.Forall₂ BindsAs selection.fields (ofSelection selection).boundFields := by
  cases selection with
  | field own name arguments directives selections =>
    rw [ofSelection_field, boundFields_keyed, boundFields, boundFields_childOf, Selection.fields]
    exact .cons ⟨rfl, map_written_bindingsOf arguments⟩ (bindsAs_boundFieldsAll selections)
  | spread fragment directives =>
    rw [ofSelection, boundFields, Selection.fields]
    exact .nil
  | inline type directives selections =>
    cases type <;>
    · rw [ofSelection, boundFields, Selection.fields]
      exact .nil

theorem bindsAs_boundFieldsAll (selections : List Selection) :
    List.Forall₂ BindsAs (Selection.fieldsOf selections)
      (boundFieldsAll (ofSelections selections)) := by
  cases selections with
  | nil =>
    rw [ofSelections, boundFieldsAll, Selection.fieldsOf]
    exact .nil
  | cons first rest =>
    rw [ofSelections, boundFieldsAll, Selection.fieldsOf]
    exact List.rel_append (bindsAs_boundFields first) (bindsAs_boundFieldsAll rest)

end

end SelectionTree

/-! ## Operations -/

theorem fragmentWarnings_eq (document : QueryDocument) :
    fragmentWarnings document = document.fragmentsTold := by
  unfold fragmentWarnings QueryDocument.fragmentsTold QueryDocument.fragments
  rw [List.map_filterMap]
  refine List.filterMap_congr fun item _ => ?_
  cases item <;> rfl

/-- The operation that is chosen is the first that answers, if one does. -/
theorem toOption_chooseOperation (operations : List OperationDefinition)
    (wanted : Option String) :
    (chooseOperation operations wanted).toOption =
      operations.find? (fun definition => definition.Answers wanted) := by
  cases wanted with
  | some name =>
    unfold chooseOperation
    simp only [OperationDefinition.Answers, reduceCtorEq, false_or]
    cases operations.find? (fun definition => decide (definition.name = some name)) <;> rfl
  | none => cases operations <;> rfl

theorem Graphql.QueryDocument.offers_iff {document : QueryDocument} {wanted : Option String}
    {definition : OperationDefinition} :
    document.Offers wanted definition ↔
      document.operations.find? (fun definition => definition.Answers wanted) =
        some definition := by
  rw [List.find?_eq_some_iff_append]
  unfold QueryDocument.Offers
  simp only [decide_eq_true_eq, Bool.not_eq_true', decide_eq_false_iff_not]
  tauto

theorem chooseOperation_eq_ok_iff {document : QueryDocument} {wanted : Option String}
    {definition : OperationDefinition} :
    chooseOperation document.operations wanted = .ok definition ↔
      document.Offers wanted definition := by
  rw [QueryDocument.offers_iff, ← toOption_chooseOperation]
  cases chooseOperation document.operations wanted <;> simp [Except.toOption]

theorem Operation.ofDocument_eq_ok_iff {document : QueryDocument} {wanted : Option String}
    {source : String} {operation : Operation} {told : List Warning} :
    Operation.ofDocument document wanted source = .ok (operation, told) ↔
      ∃ definition, document.Offers wanted definition ∧
        Operation.ofDefinition definition source = operation ∧
        document.fragmentsTold ++ choiceWarnings document.operations wanted ++
          (Selection.fieldsOf definition.selections).flatMap WrittenField.warnings = told := by
  unfold Operation.ofDocument
  simp only [bind_eq_ok, pure_eq_ok, Prod.mk.injEq, chooseOperation_eq_ok_iff,
    fragmentWarnings_eq, selectionsWarnings_eq]

/-- What is told of a choice among several operations, if no name is asked for. -/
theorem choiceWarnings_of_offers {document : QueryDocument} {wanted : Option String}
    {definition : OperationDefinition} (h : document.Offers wanted definition) :
    choiceWarnings document.operations wanted =
      if wanted = none ∧ 1 < document.operations.length then
        [.severalOperations document.operations.length definition.name] else [] := by
  obtain ⟨before, after, hsplit, -, hbefore⟩ := h
  cases wanted with
  | some name => rfl
  | none =>
    -- every operation answers, so none stands ahead of the one that is offered
    have hfirst : before = [] := by
      rw [List.eq_nil_iff_forall_not_mem]
      exact fun other hother => hbefore other hother (.inl rfl)
    rw [hsplit, hfirst, List.nil_append]
    cases after <;> rfl

/-! ## The law -/

/-- What is told of a document and the operation that is taken from it: all
fragments of the document, the choice if no name is asked for and there are
several operations, and then each field of the operation that is not inside a
fragment, in the order of the document, its directives ahead of its arguments
that hide a variable. The fields of the tree are these fields, and they are bound
with just the arguments that are variables. -/
theorem an_operation_is_told_of_in_document_order (document : QueryDocument)
    (wanted : Option String) (source : String) (operation : Operation) (told : List Warning)
    (h : Operation.ofDocument document wanted source = .ok (operation, told)) :
    ∃ definition, document.Offers wanted definition ∧
      told = document.fragments.map (fun fragment => .fragmentIgnored fragment.name) ++
        (if wanted = none ∧ 1 < document.operations.length then
          [.severalOperations document.operations.length definition.name] else []) ++
        (Selection.fieldsOf definition.selections).flatMap WrittenField.warnings ∧
      List.Forall₂ BindsAs (Selection.fieldsOf definition.selections)
        operation.selection.boundFields := by
  obtain ⟨definition, hoffers, rfl, rfl⟩ := Operation.ofDocument_eq_ok_iff.1 h
  refine ⟨definition, hoffers, ?_, ?_⟩
  · rw [choiceWarnings_of_offers hoffers]
    rfl
  · rw [Operation.ofDefinition, SelectionTree.boundFields]
    exact SelectionTree.bindsAs_boundFieldsAll definition.selections

/-- A document with fragments around two operations. Variables are hidden in a
list inside an object, below a field and inside a fragment that is passed over. -/
def searchDocument : QueryDocument :=
  [.fragment ⟨"Hit", "Item", [], [.field none "id" [] [⟨"lost", []⟩] []]⟩,
    .operation ⟨.query, some "Search", [], [⟨"live", []⟩],
      [.field (some "hits") "search"
        [("near", .object [("points", .list [.literal, .variable "p"])]),
          ("text", .variable "t"), ("max", .literal), ("like", .list [.variable "t"]),
          ("page", .variable "p")]
        [⟨"include", [("if", .variable "i")]⟩, ⟨"cost", []⟩]
        [.spread "Hit" [⟨"lost", []⟩],
          .inline none [] [.field none "count" [("of", .list [.variable "c"])] [] []],
          .field none "rank" [("by", .object [("key", .variable "k")])] [⟨"skip", []⟩] []],
        .field none "count" [] [] []]⟩,
    .operation ⟨.mutation, none, [], [], [.field none "clear" [] [⟨"lost", []⟩] []]⟩,
    .fragment ⟨"Rest", "Item", [], []⟩]

/-- What is told of its first operation if no name is asked for. -/
def searchWarnings : List Warning :=
  [.fragmentIgnored "Hit", .fragmentIgnored "Rest", .severalOperations 2 (some "Search"),
    .directiveIgnored "include" "search", .directiveIgnored "cost" "search",
    .nestedVariable "near" "search", .nestedVariable "like" "search",
    .directiveIgnored "skip" "rank", .nestedVariable "by" "rank"]

theorem a_search_is_told_of_in_document_order :
    ∃ operation, Operation.ofDocument searchDocument none "" = .ok (operation, searchWarnings) ∧
      ∃ definition, searchDocument.Offers none definition ∧
        searchWarnings =
          searchDocument.fragments.map (fun fragment => .fragmentIgnored fragment.name) ++
          (if (none : Option String) = none ∧ 1 < searchDocument.operations.length then
            [.severalOperations searchDocument.operations.length definition.name] else []) ++
          (Selection.fieldsOf definition.selections).flatMap WrittenField.warnings ∧
        List.Forall₂ BindsAs (Selection.fieldsOf definition.selections)
          operation.selection.boundFields := by
  obtain ⟨⟨operation, told⟩, hmade, htold⟩ :=
    exists_of_any_toOption (x := Operation.ofDocument searchDocument none "")
      (p := fun made => made.2 = searchWarnings) (by decide +kernel)
  obtain rfl : told = searchWarnings := of_decide_eq_true htold
  exact ⟨operation, hmade, an_operation_is_told_of_in_document_order _ _ _ _ _ hmade⟩

end OperationModels
