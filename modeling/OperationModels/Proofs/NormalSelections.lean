-- The normal form of a tree of selections. A document that is read gives a tree
-- of one shape only: a group of one member or more, each of which is a field, a
-- field under another name or a construct that is not supported, and below a
-- field there is nothing or such a group again. On such a tree each member of a
-- group gives the record of its group one field, or none if it is not supported,
-- and each name that is given to a field is given to one field.
import OperationModels.Proofs.ConflictWarnings
import OperationModels.Proofs.DocumentNames
import OperationModels.Proofs.WrittenFields

namespace OperationModels

open Graphql

/-! ## The normal form -/

namespace SelectionTree

/-- Is the tree a selection set, a group of one member or more? -/
def isSet : SelectionTree → Bool
  | .group members => !members.isEmpty
  | _ => false

/-- May the tree be a member of a group? -/
def isMember : SelectionTree → Bool
  | .select .. => true
  | .rename .. => true
  | .unsupported _ => true
  | .group _ => false
  | .nothing => false

/-- Is the top of the tree as it is everywhere in a tree in normal form? -/
def isNormalAt : SelectionTree → Bool
  | .select _ _ child => child.isNothing || child.isSet
  | .rename key (.select field _ _) => key ≠ field
  | .rename _ _ => false
  | .group members => members.all isMember
  | .nothing => true
  | .unsupported _ => true

/-- The normal form of a tree: it is a selection set, members of groups are
fields, fields under other names and constructs that are not supported, a name
is given to one field, which has another name itself, and below a field there
is nothing or a selection set. -/
def isNormal (tree : SelectionTree) : Bool :=
  tree.isSet && (tree.subtrees []).all (fun part => part.tree.isNormalAt)

theorem exists_of_isSet {tree : SelectionTree} (h : tree.isSet = true) :
    ∃ members, tree = .group members := by
  cases tree with
  | group members => exact ⟨members, rfl⟩
  | _ => cases h

theorem isNormal_iff {tree : SelectionTree} :
    tree.isNormal = true ↔
      tree.isSet = true ∧ ∀ part ∈ tree.subtrees [], part.tree.isNormalAt = true := by
  rw [isNormal, Bool.and_eq_true, List.all_eq_true]

/-! ## The trees of selections as they are written -/

theorem isMember_ofSelection (selection : Selection) : (ofSelection selection).isMember = true := by
  cases selection with
  | field own name arguments directives selections =>
    rw [ofSelection_field]
    cases own with
    | none => rfl
    | some key => by_cases hsame : key = name <;> simp [keyed, hsame, isMember]
  | spread fragment directives => simp [ofSelection, isMember]
  | inline type directives selections => cases type <;> simp [ofSelection, isMember]

theorem isMember_of_mem_ofSelections {selections : List Selection} :
    ∀ member ∈ ofSelections selections, member.isMember = true := by
  induction selections with
  | nil => simp [ofSelections]
  | cons first rest ih =>
    rw [ofSelections, List.forall_mem_cons]
    exact ⟨isMember_ofSelection first, ih⟩

theorem isSet_group_ofSelections {selections : List Selection} (h : selections ≠ []) :
    (group (ofSelections selections)).isSet = true := by
  cases selections with
  | nil => exact absurd rfl h
  | cons first rest => simp [ofSelections, isSet]

theorem isNormalAt_group_ofSelections (selections : List Selection) :
    (group (ofSelections selections)).isNormalAt = true := by
  rw [isNormalAt, List.all_eq_true]
  exact isMember_of_mem_ofSelections

theorem isNormalAt_select_childOf (field : String) (bindings : List Binding)
    (selections : List Selection) :
    (select field bindings (childOf selections)).isNormalAt = true := by
  rw [isNormalAt, childOf]
  split
  · rfl
  · rename_i hwritten
    rw [isSet_group_ofSelections (fun hnone => hwritten (List.isEmpty_iff.2 hnone)), Bool.or_true]

/-- What stands in a field under its key stands in the field, but for the field
under a name that is not its own. -/
theorem isNormalAt_or_mem_of_mem_subtrees_keyed {own : Option String} {field : String}
    {bindings : List Binding} {child : SelectionTree} {inside : List String} {part : Subtree}
    (h : part ∈ (keyed own field (.select field bindings child)).subtrees inside) :
    part.tree.isNormalAt = true ∨ part ∈ (select field bindings child).subtrees inside := by
  unfold keyed at h
  split at h
  · rename_i key
    split at h
    · exact .inr h
    · rename_i hother
      rw [subtrees, List.mem_cons] at h
      rcases h with rfl | hbelow
      · exact .inl (by simp [isNormalAt, hother])
      · exact .inr hbelow
  · exact .inr h

theorem isNormalAt_of_mem_subtrees_childOf {selections : List Selection} {inside : List String}
    (h : ∀ part ∈ subtreesAll inside (ofSelections selections), part.tree.isNormalAt = true) :
    ∀ part ∈ (childOf selections).subtrees inside, part.tree.isNormalAt = true := by
  unfold childOf
  split
  · simp [subtrees, isNormalAt]
  · rw [subtrees, List.forall_mem_cons]
    exact ⟨isNormalAt_group_ofSelections selections, h⟩

mutual

theorem isNormalAt_of_mem_subtrees_ofSelection (selection : Selection) (inside : List String) :
    ∀ part ∈ (ofSelection selection).subtrees inside, part.tree.isNormalAt = true := by
  cases selection with
  | field own name arguments directives selections =>
    intro part hpart
    rw [ofSelection_field] at hpart
    rcases isNormalAt_or_mem_of_mem_subtrees_keyed hpart with hnormal | hselected
    · exact hnormal
    · rw [subtrees, List.mem_cons] at hselected
      rcases hselected with rfl | hbelow
      · exact isNormalAt_select_childOf _ _ _
      · have hdeeper :=
          isNormalAt_of_mem_subtreesAll_ofSelections selections (inside ++ [name])
        exact isNormalAt_of_mem_subtrees_childOf hdeeper part hbelow
  | spread fragment directives => simp [ofSelection, subtrees, isNormalAt]
  | inline type directives selections => cases type <;> simp [ofSelection, subtrees, isNormalAt]

theorem isNormalAt_of_mem_subtreesAll_ofSelections (selections : List Selection)
    (inside : List String) :
    ∀ part ∈ subtreesAll inside (ofSelections selections), part.tree.isNormalAt = true := by
  cases selections with
  | nil => simp [ofSelections, subtreesAll]
  | cons first rest =>
    rw [ofSelections, subtreesAll, List.forall_mem_append]
    exact ⟨isNormalAt_of_mem_subtrees_ofSelection first inside,
      isNormalAt_of_mem_subtreesAll_ofSelections rest inside⟩

end

/-- The tree of a selection set that is written is in normal form. -/
theorem isNormal_group_ofSelections {selections : List Selection} (h : selections ≠ []) :
    (group (ofSelections selections)).isNormal = true := by
  rw [isNormal_iff, subtrees, List.forall_mem_cons]
  exact ⟨isSet_group_ofSelections h, isNormalAt_group_ofSelections selections,
    isNormalAt_of_mem_subtreesAll_ofSelections selections []⟩

end SelectionTree

/-! ## What a document can hold -/

namespace Graphql

open Reader

theorem Reader.gives_someClosedBy_ne_nil {α : Type} (close : Char) {item : Reader α}
    (hitem : item.Keeps) : (someClosedBy close item).Gives (fun items => items ≠ []) :=
  hitem.bind fun first _ => (gives_manyClosedBy close hitem).bind fun others _ =>
    gives_pure (List.cons_ne_nil first others)

/-- The operation that an item defines, if any, selects something. -/
def QueryItem.Selects : QueryItem → Prop
  | .operation definition => definition.selections ≠ []
  | .fragment _ => True

namespace QueryDocument

theorem gives_readSelections (depth : Nat) :
    (readSelections depth).Gives (fun selections => selections ≠ []) := by
  induction depth with
  | zero => exact gives_fail
  | succ depth ih =>
    rw [readSelections]
    refine (keeps_expect _).bind fun _ _ => gives_someClosedBy_ne_nil _ ?_
    refine (keeps_accept _).bind fun spread _ => ?_
    split
    · refine (keeps_accept _).bind fun typed _ => ?_
      split
      · exact gives_name.bind fun _ _ => keeps_directives.bind fun _ _ => ih.bind fun _ _ =>
          gives_pure trivial
      · refine (keeps_take? _).bind fun fragment _ => ?_
        split
        · exact keeps_directives.bind fun _ _ => gives_pure trivial
        · exact keeps_directives.bind fun _ _ => ih.bind fun _ _ => gives_pure trivial
    · refine gives_name.bind fun first _ => ?_
      have hkey : Keeps (do
          if ← accept (.punctuator ':') then pure (some (← name)) else pure none) := by
        refine (keeps_accept _).bind fun renamed _ => ?_
        split
        · exact gives_name.bind fun _ _ => gives_pure trivial
        · exact gives_pure trivial
      have hchildren : Keeps (do
          if ← nextIs (.punctuator '\x7b') then readSelections depth else pure []) := by
        refine (keeps_nextIs _).bind fun opens _ => ?_
        split
        · exact ih.keeps
        · exact gives_pure trivial
      refine hkey.bind fun second _ => keeps_arguments.bind fun given _ =>
        keeps_directives.bind fun marks _ => hchildren.bind fun children _ => ?_
      split
      · exact gives_pure trivial
      · exact gives_pure trivial

theorem keeps_variableDeclaration : variableDeclaration.Keeps := by
  unfold variableDeclaration
  refine (keeps_expect _).bind fun _ _ => gives_name.bind fun key _ =>
    (keeps_expect _).bind fun _ _ => keeps_typeRef.bind fun type _ =>
      (keeps_accept _).bind fun preset _ => ?_
  dsimp only
  split
  · exact (keeps_readValue false maxDepth).bind fun _ _ => gives_pure trivial
  · exact gives_pure trivial

theorem gives_operation (kind : OperationKind) :
    (operation kind).Gives (fun definition => definition.selections ≠ []) := by
  unfold operation
  exact (keeps_take? _).bind fun _ _ =>
    (gives_bracketed _ _ keeps_variableDeclaration).bind fun _ _ =>
      keeps_directives.bind fun _ _ => (gives_readSelections maxDepth).bind fun _ hwritten =>
        gives_pure hwritten

theorem keeps_fragment : fragment.Keeps := by
  unfold fragment
  exact gives_name.bind fun _ _ => (keeps_expect _).bind fun _ _ => gives_name.bind fun _ _ =>
    keeps_directives.bind fun _ _ => (gives_readSelections maxDepth).bind fun _ _ =>
      gives_pure trivial

/-- The items of a document are good if those around operations are, with a
selection set alone or behind a keyword. -/
theorem gives_item {good : QueryItem → Prop}
    (hshort : selections.Gives (fun written => good (.operation ⟨.query, none, [], [], written⟩)))
    (hoperation : ∀ kind, (operation kind).Gives (fun definition => good (.operation definition)))
    (hfragment : ∀ definition, good (.fragment definition)) : item.Gives good := by
  unfold item
  refine (keeps_nextIs _).bind fun opens _ => ?_
  split
  · exact hshort.bind fun _ hgood => gives_pure hgood
  · refine (keeps_accept _).bind fun fragments _ => ?_
    split
    · exact keeps_fragment.bind fun definition _ => gives_pure (hfragment definition)
    · exact (keeps_take _).bind fun kind _ => (hoperation kind).bind fun _ hgood =>
        gives_pure hgood

theorem forall_mem_of_parse {good : QueryItem → Prop} (hitem : item.Gives good) {text : String}
    {parsed : QueryDocument} (h : parse text = .ok parsed) : ∀ item ∈ parsed, good item := by
  have hdocument : document.Gives (fun items => ∀ item ∈ items, good item) :=
    hitem.bind fun _ hfirst => (gives_many keeps_atEnd hitem).bind fun _ hothers =>
      gives_pure (List.forall_mem_cons.2 ⟨hfirst, hothers⟩)
  unfold parse Reader.run at h
  obtain ⟨⟨items, rest⟩, hrun, rfl⟩ := map_eq_ok.1 h
  exact (hdocument _ _ _ (areNamed_tokensOf text) hrun).1

theorem mem_operations_iff {document : QueryDocument} {definition : OperationDefinition} :
    definition ∈ document.operations ↔ .operation definition ∈ document := by
  unfold operations
  rw [List.mem_filterMap]
  constructor
  · rintro ⟨item, hitem, hsame⟩
    cases item with
    | operation written =>
      cases hsame
      exact hitem
    | fragment written => cases hsame
  · intro hitem
    exact ⟨_, hitem, rfl⟩

/-- Each operation of a document that is read selects something. -/
theorem ne_nil_of_parse {text : String} {document : QueryDocument} (h : parse text = .ok document) :
    ∀ definition ∈ document.operations, definition.selections ≠ [] := by
  have hselects : ∀ item ∈ document, item.Selects := by
    refine forall_mem_of_parse (gives_item ?_ gives_operation (fun _ => trivial)) h
    exact gives_readSelections maxDepth
  intro definition hdefinition
  exact hselects _ (mem_operations_iff.1 hdefinition)

end QueryDocument

end Graphql

/-! ## Parts of parts -/

namespace SelectionTree

theorem subset_subtreesAll {trees : List SelectionTree} {tree : SelectionTree} (h : tree ∈ trees)
    (inside : List String) : tree.subtrees inside ⊆ subtreesAll inside trees := by
  induction trees with
  | nil => cases h
  | cons first rest ih =>
    rw [subtreesAll]
    rcases List.mem_cons.1 h with rfl | hrest
    · exact List.subset_append_left _ _
    · exact List.Subset.trans (ih hrest) (List.subset_append_right _ _)

mutual

/-- What is inside a part of a tree is inside the tree. -/
theorem subtrees_subset {inside : List String} (tree : SelectionTree) {part : Subtree}
    (h : part ∈ tree.subtrees inside) : part.tree.subtrees part.inside ⊆ tree.subtrees inside := by
  cases tree with
  | select field bindings child =>
    rw [subtrees, List.mem_cons] at h
    rcases h with rfl | hbelow
    · exact List.Subset.refl _
    · rw [subtrees]
      exact List.subset_cons_of_subset _ (subtrees_subset child hbelow)
  | rename key child =>
    rw [subtrees, List.mem_cons] at h
    rcases h with rfl | hbelow
    · exact List.Subset.refl _
    · rw [subtrees]
      exact List.subset_cons_of_subset _ (subtrees_subset child hbelow)
  | group members =>
    rw [subtrees, List.mem_cons] at h
    rcases h with rfl | hbelow
    · exact List.Subset.refl _
    · rw [subtrees]
      exact List.subset_cons_of_subset _ (subtrees_subset_subtreesAll members hbelow)
  | nothing =>
    rw [subtrees, List.mem_singleton] at h
    subst h
    exact List.Subset.refl _
  | unsupported construct =>
    rw [subtrees, List.mem_singleton] at h
    subst h
    exact List.Subset.refl _

theorem subtrees_subset_subtreesAll {inside : List String} (trees : List SelectionTree)
    {part : Subtree} (h : part ∈ subtreesAll inside trees) :
    part.tree.subtrees part.inside ⊆ subtreesAll inside trees := by
  cases trees with
  | nil => cases h
  | cons first rest =>
    rw [subtreesAll, List.mem_append] at h
    rw [subtreesAll]
    rcases h with hfirst | hrest
    · have hinside := subtrees_subset first hfirst
      exact List.Subset.trans hinside (List.subset_append_left _ _)
    · have hinside := subtrees_subset_subtreesAll rest hrest
      exact List.Subset.trans hinside (List.subset_append_right _ _)

end

theorem mem_subtrees_of_mem_group {tree member : SelectionTree} {members : List SelectionTree}
    {outer inside : List String} (h : ⟨inside, .group members⟩ ∈ tree.subtrees outer)
    (hmember : member ∈ members) : ⟨inside, member⟩ ∈ tree.subtrees outer := by
  apply subtrees_subset tree h
  rw [subtrees]
  apply List.mem_cons_of_mem
  exact subset_subtreesAll hmember inside (mem_subtrees_self inside member)

end SelectionTree

namespace Model

/-! ## What members of groups give -/

/-- What a member of a group adds to the fields of a record: a field and a
field under another name add one with their name, and a construct that is not
supported adds none. -/
inductive Adds : SelectionTree → List Field → Prop
  | selected (field : String) (bindings : List Binding) (child : SelectionTree) (type : FieldType) :
    Adds (.select field bindings child) [⟨field, type⟩]
  | renamed (key : String) (child : SelectionTree) (type : FieldType) :
    Adds (.rename key child) [⟨key, type⟩]
  | unsupported (construct : String) : Adds (.unsupported construct) []

/-- The fields that a walk from a root type has at the end of a part of the
tree, if it succeeds there. -/
def Naming.fieldsAt? (naming : Naming) (root : String) (part : Subtree) : Option (List Field) :=
  (naming.schema.typeAt? root part.inside).bind (fun type =>
    (naming.walk type part.tree).toOption.map Harvest.fields)

theorem Naming.fieldsAt?_eq_some_iff {naming : Naming} {root : String} {part : Subtree}
    {fields : List Field} :
    naming.fieldsAt? root part = some fields ↔
      ∃ type, naming.schema.typeAt? root part.inside = some type ∧
        ∃ harvest, naming.walk type part.tree = .ok harvest ∧ harvest.fields = fields := by
  unfold Naming.fieldsAt?
  rw [Option.bind_eq_some_iff]
  refine exists_congr fun type => and_congr_right fun _ => ?_
  cases naming.walk type part.tree <;> simp [Except.toOption]

/-- How a walk from a root type answers the members of groups, one by one. -/
structure Naming.AnswersMembers (naming : Naming) (root : String) (tree : SelectionTree)
    (records : List Record) : Prop where
  /-- The fields of a group are what its members add, in order. -/
  groups : ∀ inside members, ⟨inside, .group members⟩ ∈ tree.subtrees [] →
    ∃ added, List.Forall₂ (fun member fields =>
        naming.fieldsAt? root ⟨inside, member⟩ = some fields ∧ Adds member fields) members added ∧
      naming.fieldsAt? root ⟨inside, .group members⟩ = some added.flatten
  /-- A name that is given is the name of one field. -/
  renames : ∀ inside key child, ⟨inside, .rename key child⟩ ∈ tree.subtrees [] →
    ∃ type, naming.fieldsAt? root ⟨inside, .rename key child⟩ = some [⟨key, type⟩]
  /-- The fields of a record, if there are any, are those of a group. -/
  records : ∀ record ∈ records, record.fields = [] ∨
    ∃ inside members, ⟨inside, .group members⟩ ∈ tree.subtrees [] ∧
      naming.fieldsAt? root ⟨inside, .group members⟩ = some record.fields

/-! ## Where a walk comes to -/

section

variable {naming : Naming} {root parent : String} {inside : List String}

theorem Naming.fieldsAt?_of_walk (hat : naming.schema.typeAt? root inside = some parent)
    {tree : SelectionTree} {harvest : Harvest} (h : naming.walk parent tree = .ok harvest) :
    naming.fieldsAt? root ⟨inside, tree⟩ = some harvest.fields :=
  Naming.fieldsAt?_eq_some_iff.2 ⟨parent, hat, harvest, h, rfl⟩

theorem Naming.fields_of_walk_select {field : String} {bindings : List Binding}
    {child : SelectionTree} {harvest : Harvest}
    (h : naming.walk parent (.select field bindings child) = .ok harvest) :
    ∃ type, harvest.fields = [⟨field, type⟩] := by
  obtain ⟨target, htarget, hcase⟩ := Naming.walk_select_eq_ok.1 h
  obtain ⟨rfl, -, -⟩ := Naming.target_eq_ok.1 htarget
  refine ⟨target.field.type, ?_⟩
  rcases hcase with ⟨-, below, -, rfl⟩ | ⟨-, -, rfl⟩ <;> rfl

/-- A walk below a field, on the type of the field: it succeeds where the walk
over the field does. On a type that is not composite there is nothing to walk. -/
theorem Naming.exists_walk_below (hat : naming.schema.typeAt? root inside = some parent)
    {field : String} {bindings : List Binding} {child : SelectionTree} {harvest : Harvest}
    (h : naming.walk parent (.select field bindings child) = .ok harvest) :
    ∃ type below, naming.schema.typeAt? root (inside ++ [field]) = some type ∧
      naming.walk type child = .ok below ∧
      ∀ record ∈ harvest.records, record ∈ below.records ∨ record.fields = below.fields := by
  obtain ⟨target, htarget, hcase⟩ := Naming.walk_select_eq_ok.1 h
  obtain ⟨-, htype, -⟩ := Naming.target_eq_ok.1 htarget
  have hbelow : naming.schema.typeAt? root (inside ++ [field]) = some target.type := by
    rw [Schema.typeAt?_snoc hat, htype]
  rcases hcase with ⟨-, below, hwalk, rfl⟩ | ⟨-, hnothing, rfl⟩
  · refine ⟨target.type, below, hbelow, hwalk, ?_⟩
    intro record hrecord
    rcases List.mem_append.1 hrecord with hinner | hown
    · exact .inl hinner
    · split at hown
      · exact .inr (List.mem_singleton.1 hown ▸ rfl)
      · cases hown
  · cases child with
    | nothing => exact ⟨target.type, .none, hbelow, rfl, List.forall_mem_nil _⟩
    | _ => cases hnothing

end

mutual

/-- A walk that succeeds has fields at each part of its tree. -/
theorem Naming.exists_fieldsAt?_of_walk {naming : Naming} {root parent : String}
    {inside : List String} (hat : naming.schema.typeAt? root inside = some parent)
    (tree : SelectionTree) {harvest : Harvest} (h : naming.walk parent tree = .ok harvest) :
    ∀ part ∈ tree.subtrees inside, ∃ fields, naming.fieldsAt? root part = some fields := by
  have hself := Naming.fieldsAt?_of_walk hat h
  cases tree with
  | select field bindings child =>
    obtain ⟨type, below, hbelow, hwalk, -⟩ := Naming.exists_walk_below hat h
    rw [SelectionTree.subtrees, List.forall_mem_cons]
    exact ⟨⟨_, hself⟩, Naming.exists_fieldsAt?_of_walk hbelow child hwalk⟩
  | rename key child =>
    obtain ⟨below, hwalk, -⟩ := Naming.walk_rename_eq_ok.1 h
    rw [SelectionTree.subtrees, List.forall_mem_cons]
    exact ⟨⟨_, hself⟩, Naming.exists_fieldsAt?_of_walk hat child hwalk⟩
  | group members =>
    rw [Naming.walk] at h
    rw [SelectionTree.subtrees, List.forall_mem_cons]
    exact ⟨⟨_, hself⟩, Naming.exists_fieldsAt?_of_walkAll hat members h⟩
  | nothing =>
    rw [SelectionTree.subtrees, List.forall_mem_singleton]
    exact ⟨_, hself⟩
  | unsupported construct =>
    rw [SelectionTree.subtrees, List.forall_mem_singleton]
    exact ⟨_, hself⟩

theorem Naming.exists_fieldsAt?_of_walkAll {naming : Naming} {root parent : String}
    {inside : List String} (hat : naming.schema.typeAt? root inside = some parent)
    (trees : List SelectionTree) {harvest : Harvest}
    (h : naming.walkAll parent trees = .ok harvest) :
    ∀ part ∈ SelectionTree.subtreesAll inside trees,
      ∃ fields, naming.fieldsAt? root part = some fields := by
  cases trees with
  | nil =>
    rw [SelectionTree.subtreesAll]
    exact List.forall_mem_nil _
  | cons first rest =>
    obtain ⟨here, hhere, later, hlater, -⟩ := Naming.walkAll_cons_eq_ok.1 h
    rw [SelectionTree.subtreesAll, List.forall_mem_append]
    exact ⟨Naming.exists_fieldsAt?_of_walk hat first hhere,
      Naming.exists_fieldsAt?_of_walkAll hat rest hlater⟩

end

mutual

/-- Each record that a walk closes has the fields of what is selected below a
field of its tree. -/
theorem Naming.exists_select_of_walk {naming : Naming} {root parent : String}
    {inside : List String} (hat : naming.schema.typeAt? root inside = some parent)
    (tree : SelectionTree) {harvest : Harvest} (h : naming.walk parent tree = .ok harvest) :
    ∀ record ∈ harvest.records, ∃ outer field bindings child,
      ⟨outer, .select field bindings child⟩ ∈ tree.subtrees inside ∧
        naming.fieldsAt? root ⟨outer ++ [field], child⟩ = some record.fields := by
  intro record hrecord
  cases tree with
  | select field bindings child =>
    obtain ⟨type, below, hbelow, hwalk, hclosed⟩ := Naming.exists_walk_below hat h
    rw [SelectionTree.subtrees]
    rcases hclosed record hrecord with hinner | hown
    · obtain ⟨outer, deeper, given, under, hpart, hfields⟩ :=
        Naming.exists_select_of_walk hbelow child hwalk record hinner
      exact ⟨outer, deeper, given, under, List.mem_cons_of_mem _ hpart, hfields⟩
    · refine ⟨inside, field, bindings, child, List.mem_cons_self, ?_⟩
      rw [hown]
      exact Naming.fieldsAt?_of_walk hbelow hwalk
  | rename key child =>
    obtain ⟨below, hwalk, rfl⟩ := Naming.walk_rename_eq_ok.1 h
    obtain ⟨outer, deeper, given, under, hpart, hfields⟩ :=
      Naming.exists_select_of_walk hat child hwalk record hrecord
    rw [SelectionTree.subtrees]
    exact ⟨outer, deeper, given, under, List.mem_cons_of_mem _ hpart, hfields⟩
  | group members =>
    rw [Naming.walk] at h
    obtain ⟨outer, deeper, given, under, hpart, hfields⟩ :=
      Naming.exists_select_of_walkAll hat members h record hrecord
    rw [SelectionTree.subtrees]
    exact ⟨outer, deeper, given, under, List.mem_cons_of_mem _ hpart, hfields⟩
  | nothing =>
    rw [Naming.walk, pure_eq_ok] at h
    subst h
    cases hrecord
  | unsupported construct =>
    rw [Naming.walk, pure_eq_ok] at h
    subst h
    cases hrecord

theorem Naming.exists_select_of_walkAll {naming : Naming} {root parent : String}
    {inside : List String} (hat : naming.schema.typeAt? root inside = some parent)
    (trees : List SelectionTree) {harvest : Harvest}
    (h : naming.walkAll parent trees = .ok harvest) :
    ∀ record ∈ harvest.records, ∃ outer field bindings child,
      ⟨outer, .select field bindings child⟩ ∈ SelectionTree.subtreesAll inside trees ∧
        naming.fieldsAt? root ⟨outer ++ [field], child⟩ = some record.fields := by
  intro record hrecord
  cases trees with
  | nil =>
    rw [Naming.walkAll, pure_eq_ok] at h
    subst h
    cases hrecord
  | cons first rest =>
    obtain ⟨here, hhere, later, hlater, rfl⟩ := Naming.walkAll_cons_eq_ok.1 h
    rw [SelectionTree.subtreesAll]
    rcases List.mem_append.1 hrecord with hfirst | hrest
    · obtain ⟨outer, field, bindings, child, hpart, hfields⟩ :=
        Naming.exists_select_of_walk hat first hhere record hfirst
      exact ⟨outer, field, bindings, child, List.mem_append_left _ hpart, hfields⟩
    · obtain ⟨outer, field, bindings, child, hpart, hfields⟩ :=
        Naming.exists_select_of_walkAll hat rest hlater record hrest
      exact ⟨outer, field, bindings, child, List.mem_append_right _ hpart, hfields⟩

end

/-! ## Walks over trees in normal form -/

section

variable {naming : Naming} {root parent : String} {inside : List String}

theorem Naming.fields_of_walk_rename {key : String} {child : SelectionTree} {harvest : Harvest}
    (hnormal : (SelectionTree.rename key child).isNormalAt = true)
    (h : naming.walk parent (.rename key child) = .ok harvest) :
    ∃ type, harvest.fields = [⟨key, type⟩] := by
  obtain ⟨below, hwalk, rfl⟩ := Naming.walk_rename_eq_ok.1 h
  cases child with
  | select field bindings child =>
    obtain ⟨type, hfields⟩ := Naming.fields_of_walk_select hwalk
    exact ⟨type, by rw [Harvest.rename, hfields]; rfl⟩
  | _ => cases hnormal

theorem Naming.adds_of_walk {member : SelectionTree} {harvest : Harvest}
    (hmember : member.isMember = true) (hnormal : member.isNormalAt = true)
    (h : naming.walk parent member = .ok harvest) : Adds member harvest.fields := by
  cases member with
  | select field bindings child =>
    obtain ⟨type, hfields⟩ := Naming.fields_of_walk_select h
    exact hfields ▸ .selected field bindings child type
  | rename key child =>
    obtain ⟨type, hfields⟩ := Naming.fields_of_walk_rename hnormal h
    exact hfields ▸ .renamed key child type
  | unsupported construct =>
    rw [Naming.walk, pure_eq_ok] at h
    subst h
    exact .unsupported construct
  | group members => cases hmember
  | nothing => cases hmember

/-- A walk over the members of a group has what each of them adds, in order. -/
theorem Naming.exists_added_of_walkAll (hat : naming.schema.typeAt? root inside = some parent)
    {members : List SelectionTree}
    (hmembers : ∀ member ∈ members, member.isMember = true ∧ member.isNormalAt = true)
    {harvest : Harvest} (h : naming.walkAll parent members = .ok harvest) :
    ∃ added, List.Forall₂ (fun member fields =>
        naming.fieldsAt? root ⟨inside, member⟩ = some fields ∧ Adds member fields) members added ∧
      harvest.fields = added.flatten := by
  induction members generalizing harvest with
  | nil =>
    rw [Naming.walkAll, pure_eq_ok] at h
    subst h
    exact ⟨[], .nil, rfl⟩
  | cons first rest ih =>
    obtain ⟨here, hhere, later, hlater, rfl⟩ := Naming.walkAll_cons_eq_ok.1 h
    obtain ⟨⟨hmember, hnormal⟩, hrest⟩ := List.forall_mem_cons.1 hmembers
    obtain ⟨added, hadded, hfields⟩ := ih hrest hlater
    have hfirst := Naming.adds_of_walk hmember hnormal hhere
    refine ⟨here.fields :: added, .cons ⟨Naming.fieldsAt?_of_walk hat hhere, hfirst⟩ hadded, ?_⟩
    rw [List.flatten_cons, ← hfields]
    rfl

/-- The fields of a group of a tree in normal form are what its members add. -/
theorem Naming.exists_added_of_walk {tree : SelectionTree} (hnormal : tree.isNormal = true)
    {harvest : Harvest} (h : naming.walk root tree = .ok harvest) {members : List SelectionTree}
    (hgroup : ⟨inside, .group members⟩ ∈ tree.subtrees []) :
    ∃ added, List.Forall₂ (fun member fields =>
        naming.fieldsAt? root ⟨inside, member⟩ = some fields ∧ Adds member fields) members added ∧
      naming.fieldsAt? root ⟨inside, .group members⟩ = some added.flatten := by
  obtain ⟨-, hparts⟩ := SelectionTree.isNormal_iff.1 hnormal
  have hmembers : ∀ member ∈ members, member.isMember = true ∧ member.isNormalAt = true := by
    intro member hmember
    have hall := List.all_eq_true.1 (hparts _ hgroup)
    exact ⟨hall member hmember, hparts _ (SelectionTree.mem_subtrees_of_mem_group hgroup hmember)⟩
  obtain ⟨fields, hfields⟩ := Naming.exists_fieldsAt?_of_walk rfl tree h _ hgroup
  obtain ⟨parent, hat, below, hbelow, rfl⟩ := Naming.fieldsAt?_eq_some_iff.1 hfields
  rw [Naming.walk] at hbelow
  obtain ⟨added, hadded, hflat⟩ := Naming.exists_added_of_walkAll hat hmembers hbelow
  exact ⟨added, hadded, hflat ▸ hfields⟩

/-- A name that is given in a tree in normal form is given to one field. -/
theorem Naming.exists_fieldsAt?_rename {tree : SelectionTree} (hnormal : tree.isNormal = true)
    {harvest : Harvest} (h : naming.walk root tree = .ok harvest) {key : String}
    {child : SelectionTree} (hrename : ⟨inside, .rename key child⟩ ∈ tree.subtrees []) :
    ∃ type, naming.fieldsAt? root ⟨inside, .rename key child⟩ = some [⟨key, type⟩] := by
  obtain ⟨-, hparts⟩ := SelectionTree.isNormal_iff.1 hnormal
  obtain ⟨fields, hfields⟩ := Naming.exists_fieldsAt?_of_walk rfl tree h _ hrename
  obtain ⟨parent, -, below, hbelow, rfl⟩ := Naming.fieldsAt?_eq_some_iff.1 hfields
  obtain ⟨type, hone⟩ := Naming.fields_of_walk_rename (hparts _ hrename) hbelow
  exact ⟨type, hone ▸ hfields⟩

/-- What is selected below a field of a tree in normal form has no fields, or
those of a group. -/
theorem Naming.eq_nil_or_exists_group {tree child : SelectionTree}
    (hnormal : tree.isNormal = true) {field : String} {bindings : List Binding}
    (hpart : ⟨inside, .select field bindings child⟩ ∈ tree.subtrees []) {fields : List Field}
    (h : naming.fieldsAt? root ⟨inside ++ [field], child⟩ = some fields) :
    fields = [] ∨ ∃ outer members, ⟨outer, .group members⟩ ∈ tree.subtrees [] ∧
      naming.fieldsAt? root ⟨outer, .group members⟩ = some fields := by
  have hchild : ⟨inside ++ [field], child⟩ ∈ tree.subtrees [] := by
    apply SelectionTree.subtrees_subset tree hpart
    rw [SelectionTree.subtrees]
    exact List.mem_cons_of_mem _ (SelectionTree.mem_subtrees_self _ child)
  have hbelow := (SelectionTree.isNormal_iff.1 hnormal).2 _ hpart
  rw [SelectionTree.isNormalAt, Bool.or_eq_true] at hbelow
  rcases hbelow with hnothing | hset
  · obtain ⟨type, -, harvest, hwalk, rfl⟩ := Naming.fieldsAt?_eq_some_iff.1 h
    cases child with
    | nothing =>
      cases hwalk
      exact .inl rfl
    | _ => cases hnothing
  · obtain ⟨members, rfl⟩ := SelectionTree.exists_of_isSet hset
    exact .inr ⟨_, members, hchild, h⟩

theorem Naming.answersMembers_of_resolve {tree : SelectionTree} (hnormal : tree.isNormal = true)
    {type : SchemaType} {response : Response} (h : naming.resolve tree type = .ok response) :
    ∃ name, naming.rootType type = .ok name ∧
      naming.AnswersMembers name tree response.records := by
  obtain ⟨name, hroot, harvest, hwalk, rfl⟩ := Naming.resolve_eq_ok.1 h
  have htop : naming.schema.typeAt? name [] = some name := rfl
  refine ⟨name, hroot, ?_, ?_, ?_⟩
  · intro inside members hgroup
    exact Naming.exists_added_of_walk hnormal hwalk hgroup
  · intro inside key child hrename
    exact Naming.exists_fieldsAt?_rename hnormal hwalk hrename
  · rw [List.forall_mem_append, List.forall_mem_singleton]
    constructor
    · intro record hrecord
      obtain ⟨outer, field, bindings, child, hpart, hfields⟩ :=
        Naming.exists_select_of_walk htop tree hwalk record hrecord
      exact Naming.eq_nil_or_exists_group hnormal hpart hfields
    · obtain ⟨hset, -⟩ := SelectionTree.isNormal_iff.1 hnormal
      obtain ⟨members, rfl⟩ := SelectionTree.exists_of_isSet hset
      exact .inr ⟨[], members, SelectionTree.mem_subtrees_self _ _,
        Naming.fieldsAt?_of_walk htop hwalk⟩

end

end Model

/-! ## The law -/

namespace Operation

open Model

/-- The tree of an operation that is read from a text is in normal form. So each
member of a group adds one field to the record of the group, or none if it is
not supported, and no name is given to two fields. -/
theorem the_selection_of_an_operation_is_in_normal_form (text : String) (wanted : Option String)
    (operation : Operation) (told : List Warning)
    (h : Operation.parse text wanted = .ok (operation, told)) :
    operation.selection.isNormal = true ∧
      ∀ (naming : Naming) (root : SchemaType) (response : Response),
        naming.resolve operation.selection root = .ok response →
        ∃ name, naming.rootType root = .ok name ∧
          naming.AnswersMembers name operation.selection response.records := by
  obtain ⟨document, definition, hdocument, hchoose, rfl, -⟩ := Operation.parse_eq_ok h
  obtain ⟨before, after, hsplit, -, -⟩ := chooseOperation_eq_ok_iff.1 hchoose
  have hwritten : definition.selections ≠ [] := by
    apply QueryDocument.ne_nil_of_parse hdocument
    rw [hsplit]
    exact List.mem_append_right before List.mem_cons_self
  have hnormal := SelectionTree.isNormal_group_ofSelections hwritten
  exact ⟨hnormal, fun naming root response hrun => Naming.answersMembers_of_resolve hnormal hrun⟩

theorem the_selection_of_the_lead_is_in_normal_form :
    ∃ operation told, Operation.parse leadDocument none = .ok (operation, told) ∧
      operation.selection.isNormal = true ∧
      ∃ response name, peopleNaming.resolve operation.selection (.named "Query") = .ok response ∧
        peopleNaming.rootType (.named "Query") = .ok name ∧
        peopleNaming.AnswersMembers name operation.selection response.records := by
  obtain ⟨⟨operation, told⟩, hparse, hresolves⟩ :=
    exists_of_any_toOption (x := Operation.parse leadDocument none)
      (p := fun read => (peopleNaming.resolve read.1.selection (.named "Query")).toOption.any
        (fun _ => true)) (by decide +kernel)
  obtain ⟨response, hresolve, -⟩ := exists_of_any_toOption hresolves
  obtain ⟨hnormal, hanswers⟩ := the_selection_of_an_operation_is_in_normal_form _ _ _ _ hparse
  obtain ⟨name, hroot, hall⟩ := hanswers _ _ _ hresolve
  exact ⟨operation, told, hparse, hnormal, response, name, hresolve, hroot, hall⟩

-- Out of normal form one name can be given to two fields.
example : (SelectionTree.group [.rename "both"
    (.group [.select "name" [] .nothing, .select "pet" [] .nothing])]).isNormal = false := by
  decide

end Operation

end OperationModels
