-- What a run passes over without a word. A fragment, a directive on a field and
-- a variable inside a literal are told of wherever they stand, so a run that
-- tells nothing has understood its operation but for one thing: the directives
-- of the operation itself, which are dropped and never told of.
import OperationModels.Proofs.ResponseKeys

namespace OperationModels

namespace Graphql

/-! ## What an operation is made of -/

/-- A value holds a variable: it is the variable, or a part of it holds it. -/
inductive Value.Holds (name : String) : Value → Prop
  | variable : Holds name (.variable name)
  | item {items : List Value} {item : Value} :
    item ∈ items → Holds name item → Holds name (.list items)
  | entry {entries : List (String × Value)} {entry : String × Value} :
    entry ∈ entries → Holds name entry.2 → Holds name (.object entries)

/-- A literal of some arguments hides a variable: it is none, but holds one. -/
def HidesVariable (arguments : List (String × Value)) : Prop :=
  ∃ argument ∈ arguments, (∀ name, argument.2 ≠ .variable name) ∧
    ∃ name, argument.2.Holds name

mutual

/-- A selection and all those below it, inside fields and fragments. -/
def Selection.all : Selection → List Selection
  | .field own name arguments directives selections =>
    .field own name arguments directives selections :: allOf selections
  | .spread fragment directives => [.spread fragment directives]
  | .inline type directives selections => .inline type directives selections :: allOf selections

/-- The same of selections, one after the other. -/
def Selection.allOf : List Selection → List Selection
  | [] => []
  | first :: rest => first.all ++ allOf rest

end

theorem Selection.mem_all (selection : Selection) : selection ∈ selection.all := by
  cases selection <;> simp [Selection.all]

/-- A selection that is taken as it is written: a field without directives, none
of whose literals hides a variable. -/
inductive Selection.IsPlain : Selection → Prop
  | field (own : Option String) (name : String) (arguments : List (String × Value))
    (selections : List Selection) :
    ¬ HidesVariable arguments → IsPlain (.field own name arguments [] selections)

/-- Nothing of an operation and its document has to be dropped. -/
structure NothingDropped (document : QueryDocument) (definition : OperationDefinition) : Prop where
  noFragments : ∀ item ∈ document, ∃ known, item = .operation known
  noDirectives : definition.directives = []
  plain : ∀ selection ∈ Selection.allOf definition.selections, selection.IsPlain

/-! ## Values -/

mutual

theorem Value.holdsVariable_iff (value : Value) :
    value.holdsVariable = true ↔ ∃ name, value.Holds name := by
  rcases value with name | _ | items | entries
  · rw [Value.holdsVariable]
    exact iff_of_true rfl ⟨name, .variable⟩
  · rw [Value.holdsVariable]
    exact iff_of_false (by simp) (fun ⟨_, h⟩ => nomatch h)
  · rw [Value.holdsVariable, Value.anyHolds_iff items]
    constructor
    · rintro ⟨item, hmem, name, hholds⟩
      exact ⟨name, .item hmem hholds⟩
    · rintro ⟨name, h⟩
      cases h with
      | item hmem hholds => exact ⟨_, hmem, name, hholds⟩
  · rw [Value.holdsVariable, Value.anyEntryHolds_iff entries]
    constructor
    · rintro ⟨entry, hmem, name, hholds⟩
      exact ⟨name, .entry hmem hholds⟩
    · rintro ⟨name, h⟩
      cases h with
      | entry hmem hholds => exact ⟨_, hmem, name, hholds⟩

theorem Value.anyHolds_iff (items : List Value) :
    Value.anyHolds items = true ↔ ∃ item ∈ items, ∃ name, item.Holds name := by
  cases items with
  | nil => simp [Value.anyHolds]
  | cons item rest =>
    rw [Value.anyHolds, Bool.or_eq_true, Value.holdsVariable_iff item, Value.anyHolds_iff rest]
    simp

theorem Value.anyEntryHolds_iff (entries : List (String × Value)) :
    Value.anyEntryHolds entries = true ↔ ∃ entry ∈ entries, ∃ name, entry.2.Holds name := by
  cases entries with
  | nil => simp [Value.anyEntryHolds]
  | cons entry rest =>
    obtain ⟨key, value⟩ := entry
    rw [Value.anyEntryHolds, Bool.or_eq_true, Value.holdsVariable_iff value,
      Value.anyEntryHolds_iff rest]
    simp

end

end Graphql

open Graphql

/-! ## Warnings of the document -/

theorem nestedVariables_eq_nil_iff (field : String) (arguments : List (String × Value)) :
    nestedVariables field arguments = [] ↔ ¬ HidesVariable arguments := by
  unfold nestedVariables HidesVariable
  rw [List.filterMap_eq_nil_iff]
  push Not
  refine forall₂_congr fun argument _ => ?_
  obtain ⟨key, value⟩ := argument
  have hholds := value.holdsVariable_iff
  rcases value with name | _ | items | entries
  · simp
  all_goals
    simp only [ne_eq, reduceCtorEq, not_false_eq_true, implies_true, forall_const]
    rw [← not_exists, ← hholds]
    simp

theorem isPlain_field_iff {own : Option String} {name : String}
    {arguments : List (String × Value)} {directives : List Directive}
    {selections : List Selection} :
    (Selection.field own name arguments directives selections).IsPlain ↔
      directives = [] ∧ ¬ HidesVariable arguments := by
  constructor
  · rintro ⟨_, _, _, _, hplain⟩
    exact ⟨rfl, hplain⟩
  · rintro ⟨rfl, hplain⟩
    exact .field _ _ _ _ hplain

theorem not_isPlain_spread {fragment : String} {directives : List Directive} :
    ¬ (Selection.spread fragment directives).IsPlain := nofun

theorem not_isPlain_inline {type : Option String} {directives : List Directive}
    {selections : List Selection} : ¬ (Selection.inline type directives selections).IsPlain := nofun

theorem fragmentWarnings_eq_nil_iff (document : QueryDocument) :
    fragmentWarnings document = [] ↔ ∀ item ∈ document, ∃ known, item = .operation known := by
  unfold fragmentWarnings
  rw [List.filterMap_eq_nil_iff]
  refine forall₂_congr fun item _ => ?_
  cases item <;> simp

/-- Of the choice among several operations nothing is told if there is only one,
or one was asked for. -/
theorem choiceWarnings_eq_nil_iff {operations : List OperationDefinition}
    {wanted : Option String} {definition : OperationDefinition}
    (h : chooseOperation operations wanted = .ok definition) :
    choiceWarnings operations wanted = [] ↔ (wanted = none → operations.length = 1) := by
  unfold choiceWarnings
  cases wanted with
  | some name => simp
  | none =>
    match operations with
    | [] => cases h
    | [only] => simp
    | first :: second :: rest => simp

/-- Of a field itself nothing is told exactly if it is plain. -/
theorem selectionWarnings_field_eq_nil_iff (own : Option String) (name : String)
    (arguments : List (String × Value)) (directives : List Directive)
    (selections : List Selection) :
    selectionWarnings (.field own name arguments directives selections) = [] ↔
      (Selection.field own name arguments directives selections).IsPlain ∧
        selectionsWarnings selections = [] := by
  rw [selectionWarnings, List.append_eq_nil_iff, List.append_eq_nil_iff, List.map_eq_nil_iff,
    nestedVariables_eq_nil_iff, isPlain_field_iff]

/-! ## Warnings of the walk -/

namespace Model

/-- A selection set on a composite type that selects nothing. -/
def Naming.LacksSelections (naming : Naming) (root : String) (written : WrittenSet) : Prop :=
  written.selections = [] ∧
    ∃ type, naming.schema.typeAt? root written.path = some type ∧
      naming.schema.isComposite type = true

/-- To give a field another name tells nothing. -/
theorem Naming.exists_of_walk_keyed {naming : Naming} {parent : String} {own : Option String}
    {field : String} {tree : SelectionTree} {harvest : Harvest}
    (h : naming.walk parent (.keyed own field tree) = .ok harvest) :
    ∃ below, naming.walk parent tree = .ok below ∧ harvest.warnings = below.warnings := by
  unfold SelectionTree.keyed at h
  split at h
  · split at h
    · exact ⟨harvest, h, rfl⟩
    · obtain ⟨below, hbelow, rfl⟩ := Naming.walk_rename_eq_ok.1 h
      exact ⟨below, hbelow, rfl⟩
  · exact ⟨harvest, h, rfl⟩

theorem Naming.walk_childOf (naming : Naming) (parent : String) (selections : List Selection) :
    naming.walk parent (SelectionTree.childOf selections) =
      naming.walkAll parent (SelectionTree.ofSelections selections) := by
  unfold SelectionTree.childOf
  cases selections with
  | nil => rw [List.isEmpty_nil, if_pos rfl, Naming.walk, SelectionTree.ofSelections, Naming.walkAll]
  | cons first rest => rw [List.isEmpty_cons, if_neg (by simp), Naming.walk]

theorem isNothing_childOf (selections : List Selection) :
    (SelectionTree.childOf selections).isNothing = selections.isEmpty := by
  unfold SelectionTree.childOf
  cases selections <;> rfl

/-- A walk over a field as it is written: on a composite type it tells what is
told below the field, and if nothing is selected there; on any other type
nothing is selected and nothing told. -/
theorem Naming.warnings_of_walk_field {naming : Naming} {parent : String} {own : Option String}
    {name : String} {arguments : List (String × Value)} {directives : List Directive}
    {selections : List Selection} {harvest : Harvest}
    (h : naming.walk parent
      (SelectionTree.ofSelection (.field own name arguments directives selections)) =
        .ok harvest) :
    ∃ type, naming.schema.typeBelow? parent name = some type ∧
      ((naming.schema.isComposite type = true ∧ ∃ below,
          naming.walkAll type (SelectionTree.ofSelections selections) = .ok below ∧
          (harvest.warnings = [] ↔ below.warnings = [] ∧ selections ≠ [])) ∨
        (naming.schema.isComposite type = false ∧ selections = [] ∧ harvest.warnings = [])) := by
  rw [SelectionTree.ofSelection_field] at h
  obtain ⟨picked, hpicked, hwarnings⟩ := Naming.exists_of_walk_keyed h
  obtain ⟨target, htarget, hcase⟩ := Naming.walk_select_eq_ok.1 hpicked
  obtain ⟨-, htype, -⟩ := Naming.target_eq_ok.1 htarget
  refine ⟨target.type, htype, ?_⟩
  rw [hwarnings]
  rcases hcase with ⟨hcomposite, below, hbelow, rfl⟩ | ⟨hleaf, hnothing, rfl⟩
  · rw [Naming.walk_childOf] at hbelow
    refine .inl ⟨hcomposite, below, hbelow, ?_⟩
    rw [isNothing_childOf, List.append_eq_nil_iff]
    cases selections <;> simp
  · rw [isNothing_childOf, List.isEmpty_iff] at hnothing
    exact .inr ⟨hleaf, hnothing, rfl⟩

mutual

/-- Nothing is told of a selection that is walked exactly if all in it is plain
and no field on a composite type selects nothing. -/
theorem Naming.silent_walk_iff {naming : Naming} {root parent : String} {inside : List String}
    (hat : naming.schema.typeAt? root inside = some parent) (selection : Selection)
    {harvest : Harvest}
    (h : naming.walk parent (SelectionTree.ofSelection selection) = .ok harvest) :
    (selectionWarnings selection = [] ∧ harvest.warnings = []) ↔
      (∀ inner ∈ selection.all, inner.IsPlain) ∧
        ∀ written ∈ selection.setsBelow inside, ¬ naming.LacksSelections root written := by
  cases selection with
  | field own name arguments directives selections =>
    obtain ⟨type, htype, hcase⟩ := Naming.warnings_of_walk_field h
    have hbelow : naming.schema.typeAt? root (inside ++ [name]) = some type := by
      rw [Schema.typeAt?_snoc hat, htype]
    rw [selectionWarnings_field_eq_nil_iff, Selection.all, Selection.setsBelow,
      List.forall_mem_cons, List.forall_mem_append, List.forall_mem_singleton]
    rcases hcase with ⟨hcomposite, below, hwalk, hwarnings⟩ | ⟨hleaf, hnone, hwarnings⟩
    · have hlacks : naming.LacksSelections root ⟨inside ++ [name], selections⟩ ↔
          selections = [] := by
        unfold Naming.LacksSelections
        simp [hbelow, hcomposite]
      rw [hwarnings, hlacks]
      have hinner := Naming.silent_walkAll_iff hbelow selections hwalk
      tauto
    · have hlacks : ¬ naming.LacksSelections root ⟨inside ++ [name], selections⟩ := by
        unfold Naming.LacksSelections
        simp [hbelow, hleaf]
      subst hnone
      simp [hwarnings, hlacks, selectionsWarnings, Selection.allOf, Selection.setsBelowAll]
  | spread fragment directives =>
    rw [SelectionTree.ofSelection, Naming.walk, pure_eq_ok] at h
    subst h
    refine iff_of_false (by simp) fun hplain => ?_
    exact not_isPlain_spread (hplain.1 _ (Selection.mem_all _))
  | inline type directives selections =>
    obtain ⟨construct, hconstruct⟩ : ∃ construct,
        SelectionTree.ofSelection (.inline type directives selections) =
          .unsupported construct := by
      cases type <;> exact ⟨_, by rw [SelectionTree.ofSelection]⟩
    rw [hconstruct, Naming.walk, pure_eq_ok] at h
    subst h
    refine iff_of_false (by simp) fun hplain => ?_
    exact not_isPlain_inline (hplain.1 _ (Selection.mem_all _))

theorem Naming.silent_walkAll_iff {naming : Naming} {root parent : String} {inside : List String}
    (hat : naming.schema.typeAt? root inside = some parent) (selections : List Selection)
    {harvest : Harvest}
    (h : naming.walkAll parent (SelectionTree.ofSelections selections) = .ok harvest) :
    (selectionsWarnings selections = [] ∧ harvest.warnings = []) ↔
      (∀ inner ∈ Selection.allOf selections, inner.IsPlain) ∧
        ∀ written ∈ Selection.setsBelowAll inside selections,
          ¬ naming.LacksSelections root written := by
  cases selections with
  | nil =>
    rw [SelectionTree.ofSelections, Naming.walkAll, pure_eq_ok] at h
    subst h
    simp [selectionsWarnings, Selection.allOf, Selection.setsBelowAll, Harvest.none]
  | cons first rest =>
    rw [SelectionTree.ofSelections] at h
    obtain ⟨here, hhere, later, hlater, rfl⟩ := Naming.walkAll_cons_eq_ok.1 h
    have hfirst := Naming.silent_walk_iff hat first hhere
    have hrest := Naming.silent_walkAll_iff hat rest hlater
    rw [selectionsWarnings, Selection.allOf, Selection.setsBelowAll, List.forall_mem_append,
      List.forall_mem_append, List.append_eq_nil_iff]
    show _ ∧ here.warnings ++ later.warnings = [] ↔ _
    rw [List.append_eq_nil_iff]
    tauto

end

end Model

/-! ## The law -/

open Model

/-- What a run that gives models makes on its way: the document, the operation
chosen from it, and what is told of the document and of the response. -/
structure LoadedSchema.Makes (loaded : LoadedSchema) (text : String)
    (options : GenerationOptions) (generated : Generated) (document : QueryDocument)
    (definition : OperationDefinition) (told : List Warning) (root : String)
    (response : Response) : Prop where
  parsed : QueryDocument.parse text = .ok document
  chosen : chooseOperation document.operations options.operationName = .ok definition
  adapted : Operation.parse text options.operationName = .ok (generated.operation, told)
  rooted : loaded.schema.root? definition.kind = some root
  resolved : loaded.naming.resolve generated.operation.selection (.named root) = .ok response
  warnings : ∃ bound, generated.warnings = loaded.warnings ++ told ++ response.warnings ++ bound

theorem LoadedSchema.exists_makes {loaded : LoadedSchema} {text : String}
    {options : GenerationOptions} {generated : Generated}
    (h : loaded.generate text options = .ok generated) :
    ∃ document definition told root response,
      loaded.Makes text options generated document definition told root response := by
  unfold LoadedSchema.generate at h
  simp only [bind_eq_ok, pure_eq_ok, Prod.exists] at h
  obtain ⟨operation, told, hparse, start, hroot, response, hresolve, bound, -, rfl⟩ := h
  obtain ⟨document, definition, hdocument, hchoose, hoperation, -⟩ := Operation.parse_eq_ok hparse
  obtain ⟨root, hname, rfl⟩ := LoadedSchema.rootFor_eq_ok.1 hroot
  have hkind : operation.kind = definition.kind := by
    rw [hoperation]
    rfl
  rw [hkind] at hname
  exact ⟨document, definition, told, root, response, hdocument, hchoose, hparse, hname, hresolve,
    _, rfl⟩

/-- Nothing is told of a document and its response exactly if there is nothing
to drop but the directives of the operation, the operation is the one asked for
or the only one, and no field on a composite type selects nothing. So a run
without a warning drops nothing if, and only if, the operation itself has no
directives. -/
theorem silent_iff_only_directives_of_the_operation_are_dropped (loaded : LoadedSchema)
    (text : String) (options : GenerationOptions) (generated : Generated)
    (h : loaded.generate text options = .ok generated) :
    ∃ document definition told root response,
      loaded.Makes text options generated document definition told root response ∧
      ((told = [] ∧ response.warnings = []) ↔
        NothingDropped document { definition with directives := [] } ∧
          (options.operationName = none → document.operations.length = 1) ∧
          ∀ written ∈ Selection.setsBelowAll [] definition.selections,
            ¬ loaded.naming.LacksSelections root written) ∧
      (told = [] → response.warnings = [] →
        (NothingDropped document definition ↔ definition.directives = [])) := by
  obtain ⟨document, definition, told, root, response, hmakes⟩ := LoadedSchema.exists_makes h
  obtain ⟨known, chosen, hparse, hchoose, hoperation, htold⟩ :=
    Operation.parse_eq_ok hmakes.adapted
  obtain rfl : known = document := Except.ok.inj (hparse.symm.trans hmakes.parsed)
  obtain rfl : chosen = definition := Except.ok.inj (hchoose.symm.trans hmakes.chosen)
  obtain ⟨start, hstart, harvest, hwalk, hresponse⟩ := Naming.resolve_eq_ok.1 hmakes.resolved
  obtain ⟨rfl, -⟩ := Naming.rootType_eq_ok.1 hstart
  have hselections : loaded.naming.walkAll root
      (SelectionTree.ofSelections chosen.selections) = .ok harvest := by
    rw [hoperation] at hwalk
    unfold Operation.ofDefinition at hwalk
    rw [Naming.walk] at hwalk
    exact hwalk
  have htop : loaded.naming.schema.typeAt? root [] = some root := rfl
  have hsilent := Naming.silent_walkAll_iff htop chosen.selections hselections
  have hiff : (told = [] ∧ response.warnings = []) ↔
      NothingDropped known { chosen with directives := [] } ∧
        (options.operationName = none → known.operations.length = 1) ∧
        ∀ written ∈ Selection.setsBelowAll [] chosen.selections,
          ¬ loaded.naming.LacksSelections root written := by
    rw [htold, ← hresponse, List.append_eq_nil_iff, List.append_eq_nil_iff,
      fragmentWarnings_eq_nil_iff, choiceWarnings_eq_nil_iff hchoose, and_assoc, hsilent]
    constructor
    · rintro ⟨⟨hfragments, hone⟩, hplain, hsets⟩
      exact ⟨⟨hfragments, rfl, hplain⟩, hone, hsets⟩
    · rintro ⟨hnothing, hone, hsets⟩
      exact ⟨⟨hnothing.noFragments, hone⟩, hnothing.plain, hsets⟩
  refine ⟨known, chosen, told, root, response, hmakes, hiff, ?_⟩
  intro hadapter hresolver
  obtain ⟨hnothing, -, -⟩ := hiff.1 ⟨hadapter, hresolver⟩
  exact ⟨fun hall => hall.noDirectives,
    fun hnone => ⟨hnothing.noFragments, hnone, hnothing.plain⟩⟩

/-- An operation with a directive of its own. -/
def liveDocument : String := "query @live \x7b count \x7d"

theorem a_live_query_is_silent_iff_only_its_directives_are_dropped :
    ∃ generated, countSchema.generate liveDocument plainOptions = .ok generated ∧
      ∃ document definition told root response,
        countSchema.Makes liveDocument plainOptions generated document definition told root
            response ∧
          ((told = [] ∧ response.warnings = []) ↔
            NothingDropped document { definition with directives := [] } ∧
              (plainOptions.operationName = none → document.operations.length = 1) ∧
              ∀ written ∈ Selection.setsBelowAll [] definition.selections,
                ¬ countSchema.naming.LacksSelections root written) ∧
          (told = [] → response.warnings = [] →
            (NothingDropped document definition ↔ definition.directives = [])) := by
  obtain ⟨generated, hrun, -⟩ :=
    exists_of_any_toOption (x := countSchema.generate liveDocument plainOptions)
      (p := fun _ => true) (by decide +kernel)
  exact ⟨generated, hrun, silent_iff_only_directives_of_the_operation_are_dropped _ _ _ _ hrun⟩

/-- The directive of an operation is dropped, and a run over the document tells
nothing of it. -/
theorem a_directive_of_the_operation_is_dropped_silently :
    ∃ generated, countSchema.generate liveDocument plainOptions = .ok generated ∧
      generated.warnings = [] ∧
      ∃ document definition told root response,
        countSchema.Makes liveDocument plainOptions generated document definition told root
            response ∧
          told = [] ∧ response.warnings = [] ∧
          definition.directives.map Directive.name = ["live"] ∧
          ¬ NothingDropped document definition := by
  obtain ⟨generated, hrun, hsilent⟩ :=
    exists_of_any_toOption (x := countSchema.generate liveDocument plainOptions)
      (p := fun generated => generated.warnings = []) (by decide +kernel)
  rw [decide_eq_true_eq] at hsilent
  obtain ⟨document, definition, told, root, response, hmakes⟩ := LoadedSchema.exists_makes hrun
  have hdirectives : definition.directives.map Directive.name = ["live"] := by
    have hany : (QueryDocument.parse liveDocument).toOption.any (fun document =>
        (chooseOperation document.operations none).toOption.any (fun definition =>
          definition.directives.map Directive.name = ["live"])) = true := by
      decide +kernel
    rw [hmakes.parsed] at hany
    have hchosen : chooseOperation document.operations none = .ok definition := hmakes.chosen
    simpa [Except.toOption, hchosen] using hany
  obtain ⟨bound, hwarnings⟩ := hmakes.warnings
  rw [hsilent] at hwarnings
  have hparts := hwarnings.symm
  simp only [List.append_eq_nil_iff] at hparts
  refine ⟨generated, hrun, hsilent, document, definition, told, root, response, hmakes,
    hparts.1.1.2, hparts.1.2, hdirectives, fun hnothing => ?_⟩
  rw [hnothing.noDirectives] at hdirectives
  cases hdirectives

end OperationModels
