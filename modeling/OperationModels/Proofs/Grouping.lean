-- How selections are grouped. A group within a group, a member that picks
-- nothing and a name given to a whole group are ways to write a tree that no
-- response shows: a walk puts together what the members give, one after the
-- other, and that is associative and has a unit.
import Mathlib.Logic.Relation
import OperationModels.Proofs.Selections

namespace OperationModels

/-! ## Changes of groups -/

/-- One change of the groups of a tree, in a group of its own or anywhere below. -/
inductive SelectionTree.Regroups : SelectionTree → SelectionTree → Prop
  /-- The members of a group that is a member stand in its place. -/
  | splice (before inner after : List SelectionTree) :
    Regroups (.group (before ++ .group inner :: after)) (.group (before ++ inner ++ after))
  /-- A member that picks nothing is left out. -/
  | leaveOut (before after : List SelectionTree) :
    Regroups (.group (before ++ .nothing :: after)) (.group (before ++ after))
  /-- A name given to a group is given to each of its members. -/
  | distribute (key : String) (members : List SelectionTree) :
    Regroups (.rename key (.group members)) (.group (members.map (.rename key)))
  /-- A change below a field. -/
  | inField (field : String) (bindings : List Binding) {tree other : SelectionTree} :
    Regroups tree other → Regroups (.select field bindings tree) (.select field bindings other)
  /-- A change below a name. -/
  | inRename (key : String) {tree other : SelectionTree} :
    Regroups tree other → Regroups (.rename key tree) (.rename key other)
  /-- A change in a member of a group. -/
  | inMember (before after : List SelectionTree) {tree other : SelectionTree} :
    Regroups tree other →
      Regroups (.group (before ++ tree :: after)) (.group (before ++ other :: after))

/-- Trees that differ in their groups only: changes lead from one to the other,
each made or undone. -/
def SelectionTree.SameButGroups : SelectionTree → SelectionTree → Prop :=
  Relation.EqvGen SelectionTree.Regroups

/-- A change of groups does not make a tree that picks nothing by itself, nor
does it change one. -/
theorem SelectionTree.Regroups.isNothing_eq {tree other : SelectionTree}
    (h : tree.Regroups other) : tree.isNothing = other.isNothing := by
  cases h <;> rfl

namespace Model

/-! ## Parts of a walk put together -/

namespace Harvest

theorem append_assoc (first second third : Harvest) :
    first ++ second ++ third = first ++ (second ++ third) := by
  show append (append first second) third = append first (append second third)
  simp only [append, List.append_assoc]

theorem none_append (harvest : Harvest) : none ++ harvest = harvest := rfl

theorem rename_append (key : String) (first second : Harvest) :
    (first ++ second).rename key = first.rename key ++ second.rename key := by
  show (append first second).rename key = append (first.rename key) (second.rename key)
  simp only [append, rename, List.map_append]

end Harvest

namespace Naming

variable (naming : Naming) (parent : String)

/-! ## Walks over groups -/

theorem walkAll_append (first second : List SelectionTree) :
    naming.walkAll parent (first ++ second) = (do
      let here ← naming.walkAll parent first
      let later ← naming.walkAll parent second
      pure (here ++ later)) := by
  induction first with
  | nil =>
    rw [List.nil_append, walkAll, pure_bind]
    simp only [Harvest.none_append, bind_pure]
  | cons tree rest ih =>
    rw [List.cons_append, walkAll, walkAll, ih]
    simp only [bind_assoc, pure_bind, Harvest.append_assoc]

/-- A group that is a member gives what its members give. -/
theorem walkAll_group_cons (inner after : List SelectionTree) :
    naming.walkAll parent (.group inner :: after) = naming.walkAll parent (inner ++ after) := by
  rw [walkAll, walk, walkAll_append]

/-- A member that picks nothing gives nothing. -/
theorem walkAll_nothing_cons (after : List SelectionTree) :
    naming.walkAll parent (.nothing :: after) = naming.walkAll parent after := by
  rw [walkAll, walk, pure_bind]
  simp only [Harvest.none_append, bind_pure]

/-- Members under one name give what they give together, under that name. -/
theorem walkAll_map_rename (key : String) (members : List SelectionTree) :
    naming.walkAll parent (members.map (.rename key)) = (do
      let harvest ← naming.walkAll parent members
      pure (harvest.rename key)) := by
  induction members with
  | nil => rfl
  | cons tree rest ih =>
    rw [List.map_cons, walkAll, walkAll, ih, walk]
    simp only [bind_assoc, pure_bind, Harvest.rename_append]

/-! ## Walks over changed trees -/

/-- A change of groups changes nothing in what a walk gives, or fails with. -/
theorem walk_eq_of_regroups {tree other : SelectionTree} (h : tree.Regroups other) :
    naming.walk parent tree = naming.walk parent other := by
  induction h generalizing parent with
  | splice before inner after =>
    rw [walk, walk, walkAll_append, walkAll_group_cons, List.append_assoc,
      walkAll_append naming parent before]
  | leaveOut before after =>
    rw [walk, walk, walkAll_append, walkAll_nothing_cons, walkAll_append]
  | distribute key members =>
    rw [walk, walk, walk, walkAll_map_rename]
  | inField field bindings hchange ih =>
    -- a leaf refuses a group, empty or not, and takes nothing else than `nothing`
    rw [walk, walk, hchange.isNothing_eq]
    simp only [ih]
  | inRename key _ ih =>
    rw [walk, walk, ih]
  | inMember before after _ ih =>
    rw [walk, walk, walkAll_append, walkAll_append, walkAll, walkAll, ih]

theorem walk_eq_of_sameButGroups {tree other : SelectionTree} (h : tree.SameButGroups other) :
    naming.walk parent tree = naming.walk parent other := by
  induction h with
  | rel _ _ hchange => exact naming.walk_eq_of_regroups parent hchange
  | refl _ => rfl
  | symm _ _ _ ih => exact ih.symm
  | trans _ _ _ _ _ ih ih' => exact ih.trans ih'

end Naming

/-! ## The law -/

/-- Trees that differ in their groups only fail alike, or are answered by the
same records and tell the same in the same order. -/
theorem a_response_does_not_show_how_selections_are_grouped (naming : Naming)
    (tree other : SelectionTree) (root : SchemaType) (h : tree.SameButGroups other) :
    naming.resolve tree root = naming.resolve other root := by
  unfold Naming.resolve
  simp only [naming.walk_eq_of_sameButGroups _ h]

/-- The hero in a group that has a name, beside a group that is empty. -/
def nestedHeroTree : SelectionTree :=
  .group
    [.rename "lead" (.group
      [.group [], .select "hero" [] (.group [.nothing, .select "name" [] .nothing])]),
      .select "__typename" [] .nothing]

/-- The same hero without a group that is not needed. -/
def plainHeroTree : SelectionTree :=
  .group
    [.rename "lead" (.select "hero" [] (.group [.select "name" [] .nothing])),
      .select "__typename" [] .nothing]

theorem sameButGroups_heroTrees : nestedHeroTree.SameButGroups plainHeroTree := by
  let name : SelectionTree := .select "name" [] .nothing
  let hero (members : List SelectionTree) : SelectionTree := .select "hero" [] (.group members)
  let rest : List SelectionTree := [.select "__typename" [] .nothing]
  have hempty : nestedHeroTree.Regroups
      (.group (.rename "lead" (.group [hero [.nothing, name]]) :: rest)) :=
    .inMember [] rest (.inRename "lead" (.splice [] [] [hero [.nothing, name]]))
  have hname : SelectionTree.Regroups
      (.group (.rename "lead" (.group [hero [.nothing, name]]) :: rest))
      (.group (.group [.rename "lead" (hero [.nothing, name])] :: rest)) :=
    .inMember [] rest (.distribute "lead" [hero [.nothing, name]])
  have hgroup : SelectionTree.Regroups
      (.group (.group [.rename "lead" (hero [.nothing, name])] :: rest))
      (.group (.rename "lead" (hero [.nothing, name]) :: rest)) :=
    .splice [] [.rename "lead" (hero [.nothing, name])] rest
  have hnothing : SelectionTree.Regroups
      (.group (.rename "lead" (hero [.nothing, name]) :: rest)) plainHeroTree :=
    .inMember [] rest (.inRename "lead" (.inField "hero" [] (.leaveOut [] [name])))
  exact .trans _ _ _ (.rel _ _ hempty) (.trans _ _ _ (.rel _ _ hname)
    (.trans _ _ _ (.rel _ _ hgroup) (.rel _ _ hnothing)))

theorem a_response_of_the_hero_does_not_show_how_selections_are_grouped :
    nestedHeroTree.SameButGroups plainHeroTree ∧
      peopleNaming.resolve plainHeroTree (.named "Query") =
        .ok ⟨[⟨"Person", [⟨"name", .named "String"⟩]⟩,
          ⟨"Data", [⟨"lead", .optional (.named "Person")⟩, ⟨"__typename", .named "String"⟩]⟩],
          []⟩ ∧
      peopleNaming.resolve nestedHeroTree (.named "Query") =
        peopleNaming.resolve plainHeroTree (.named "Query") :=
  ⟨sameButGroups_heroTrees, rfl,
    a_response_does_not_show_how_selections_are_grouped _ _ _ _ sameButGroups_heroTrees⟩

end Model

end OperationModels
