-- What a walk tells. A construct that is not supported is told of and has no
-- other effect: without it the walk fails alike or gives the same records. All
-- that is told besides is of fields of composite type below which nothing is
-- selected, and all of it is told in the order of the document.
import OperationModels.Proofs.Selections

namespace OperationModels

/-! ## Trees without what is not supported -/

/-- A place of a tree that no model answers in full: a construct that is not
supported, or a field below which nothing is selected. Each lies inside some
fields, outermost first. -/
inductive Gap
  | unsupported (inside : List String) (construct : String)
  | bare (inside : List String) (field : String)

namespace SelectionTree

def isUnsupported : SelectionTree → Bool
  | .unsupported _ => true
  | _ => false

mutual

/-- The tree without the members of its groups that are not supported. -/
def withoutUnsupported : SelectionTree → SelectionTree
  | .select field bindings child => .select field bindings child.withoutUnsupported
  | .rename key child => .rename key child.withoutUnsupported
  | .group members => .group (supportedMembers members)
  | .nothing => .nothing
  | .unsupported construct => .unsupported construct

/-- The members of a group that are supported, each without what is not. -/
def supportedMembers : List SelectionTree → List SelectionTree
  | [] => []
  | first :: rest =>
    if first.isUnsupported then supportedMembers rest
    else first.withoutUnsupported :: supportedMembers rest

end

mutual

/-- The gaps of a tree that lies inside some fields already, in order. -/
def gaps (inside : List String) : SelectionTree → List Gap
  | .select field _ child =>
    (if child.isNothing then [.bare inside field] else []) ++ child.gaps (inside ++ [field])
  | .rename _ child => child.gaps inside
  | .group members => gapsAll inside members
  | .nothing => []
  | .unsupported construct => [.unsupported inside construct]

/-- The same of trees, one tree after the other. -/
def gapsAll (inside : List String) : List SelectionTree → List Gap
  | [] => []
  | first :: rest => first.gaps inside ++ gapsAll inside rest

end

theorem isNothing_withoutUnsupported (tree : SelectionTree) :
    tree.withoutUnsupported.isNothing = tree.isNothing := by
  cases tree <;> simp [withoutUnsupported, isNothing]

theorem exists_of_isUnsupported {tree : SelectionTree} (h : tree.isUnsupported = true) :
    ∃ construct, tree = .unsupported construct := by
  cases tree with
  | unsupported construct => exact ⟨construct, rfl⟩
  | _ => cases h

mutual

/-- A tree without what is not supported has no new gaps. -/
theorem sublist_gaps (inside : List String) (tree : SelectionTree) :
    (tree.withoutUnsupported.gaps inside).Sublist (tree.gaps inside) := by
  cases tree with
  | select field bindings child =>
    rw [withoutUnsupported, gaps, gaps, isNothing_withoutUnsupported]
    apply List.Sublist.append_left
    exact sublist_gaps (inside ++ [field]) child
  | rename key child =>
    rw [withoutUnsupported, gaps, gaps]
    exact sublist_gaps inside child
  | group members =>
    rw [withoutUnsupported, gaps, gaps]
    exact sublist_gapsAll inside members
  | nothing => rw [withoutUnsupported]
  | unsupported construct => rw [withoutUnsupported]

theorem sublist_gapsAll (inside : List String) (trees : List SelectionTree) :
    (gapsAll inside (supportedMembers trees)).Sublist (gapsAll inside trees) := by
  cases trees with
  | nil => simp [supportedMembers]
  | cons first rest =>
    have hrest := sublist_gapsAll inside rest
    rw [supportedMembers, gapsAll]
    split
    · exact hrest.trans (List.sublist_append_right _ _)
    · rw [gapsAll]
      exact (sublist_gaps inside first).append hrest

end

end SelectionTree

namespace Schema

/-- Is a gap told of? A field with nothing selected below it is told of if its
type is composite. -/
def isTold (schema : Schema) (root : String) : Gap → Bool
  | .unsupported _ _ => true
  | .bare inside field => (schema.typeAt? root (inside ++ [field])).any schema.isComposite

/-- What is told of a gap: what it is, and the type that it stands on. -/
def warningAt? (schema : Schema) (root : String) : Gap → Option Warning
  | .unsupported inside construct => (schema.typeAt? root inside).map (.unsupported construct)
  | .bare inside field =>
    (schema.typeAt? root inside).bind (fun parent =>
      (schema.typeBelow? parent field).map (.noSelection parent field))

end Schema

namespace Model

/-! ## What a walk makes -/

/-- What a part of a walk gives, but for what is told. -/
def Harvest.made (harvest : Harvest) : List Record × List Field :=
  (harvest.records, harvest.fields)

section Made

variable (naming : Naming) (parent : String)

/-- What a walk over a selected field makes, said of what is made below it. -/
theorem Naming.map_made_walk_select (field : String) (bindings : List Binding)
    (child : SelectionTree) :
    (naming.walk parent (.select field bindings child)).map Harvest.made =
      (naming.target parent field).bind (fun target =>
        if naming.schema.isComposite target.type then
          ((naming.walk target.type child).map Harvest.made).map (fun made =>
            (made.1 ++ (if naming.makesRecord target.type then
              [⟨recordName target.type, made.2⟩] else []), [target.field]))
        else if child.isNothing then .ok ([], [target.field])
        else .error (.unresolvedField parent field (.leafWithSelection target.type))) := by
  rw [Naming.walk]
  cases naming.target parent field with
  | error failure => rfl
  | ok target =>
    show Except.map _ (if _ then _ else _) = (if _ then _ else _)
    split
    · cases naming.walk target.type child <;> rfl
    · split <;> rfl

theorem Naming.map_made_walk_rename (key : String) (child : SelectionTree) :
    (naming.walk parent (.rename key child)).map Harvest.made =
      ((naming.walk parent child).map Harvest.made).map (fun made =>
        (made.1, made.2.map (fun field => { field with name := key }))) := by
  rw [Naming.walk]
  cases naming.walk parent child <;> rfl

theorem Naming.map_made_walkAll_cons (first : SelectionTree) (rest : List SelectionTree) :
    (naming.walkAll parent (first :: rest)).map Harvest.made =
      ((naming.walk parent first).map Harvest.made).bind (fun here =>
        ((naming.walkAll parent rest).map Harvest.made).map (fun later =>
          (here.1 ++ later.1, here.2 ++ later.2))) := by
  rw [Naming.walkAll]
  cases naming.walk parent first with
  | error failure => rfl
  | ok here => cases naming.walkAll parent rest <;> rfl

/-- A construct that is not supported makes nothing. -/
theorem Naming.map_made_walkAll_unsupported (construct : String) (rest : List SelectionTree) :
    (naming.walkAll parent (.unsupported construct :: rest)).map Harvest.made =
      (naming.walkAll parent rest).map Harvest.made := by
  rw [Naming.map_made_walkAll_cons, Naming.walk]
  cases naming.walkAll parent rest <;> rfl

end Made

mutual

/-- Without what is not supported a walk fails alike, or makes the same. -/
theorem Naming.map_made_walk (naming : Naming) (parent : String) (tree : SelectionTree) :
    (naming.walk parent tree.withoutUnsupported).map Harvest.made =
      (naming.walk parent tree).map Harvest.made := by
  cases tree with
  | select field bindings child =>
    rw [SelectionTree.withoutUnsupported, Naming.map_made_walk_select,
      Naming.map_made_walk_select, SelectionTree.isNothing_withoutUnsupported]
    congr 1
    funext target
    rw [Naming.map_made_walk naming target.type child]
  | rename key child =>
    rw [SelectionTree.withoutUnsupported, Naming.map_made_walk_rename,
      Naming.map_made_walk_rename, Naming.map_made_walk naming parent child]
  | group members =>
    rw [SelectionTree.withoutUnsupported, Naming.walk, Naming.walk]
    exact Naming.map_made_walkAll naming parent members
  | nothing => rw [SelectionTree.withoutUnsupported]
  | unsupported construct => rw [SelectionTree.withoutUnsupported]

theorem Naming.map_made_walkAll (naming : Naming) (parent : String)
    (trees : List SelectionTree) :
    (naming.walkAll parent (SelectionTree.supportedMembers trees)).map Harvest.made =
      (naming.walkAll parent trees).map Harvest.made := by
  cases trees with
  | nil => rw [SelectionTree.supportedMembers]
  | cons first rest =>
    have hrest := Naming.map_made_walkAll naming parent rest
    rw [SelectionTree.supportedMembers]
    by_cases hfirst : first.isUnsupported = true
    · obtain ⟨construct, rfl⟩ := SelectionTree.exists_of_isUnsupported hfirst
      rw [if_pos hfirst, Naming.map_made_walkAll_unsupported, hrest]
    · rw [if_neg hfirst, Naming.map_made_walkAll_cons, Naming.map_made_walkAll_cons,
        Naming.map_made_walk naming parent first, hrest]

end

theorem Naming.map_records_resolve (naming : Naming) (tree : SelectionTree)
    (root : SchemaType) :
    (naming.resolve tree root).map Response.records =
      (naming.rootType root).bind (fun name =>
        ((naming.walk name tree).map Harvest.made).map (fun made =>
          made.1 ++ [⟨dataRecord, made.2⟩])) := by
  unfold Naming.resolve
  cases naming.rootType root with
  | error failure => rfl
  | ok name =>
    show Except.map _ (naming.walk name tree >>= _) = ((naming.walk name tree).map _).map _
    cases naming.walk name tree <;> rfl

/-! ## What a walk tells -/

mutual

/-- A walk tells of the gaps of its tree, one by one. -/
theorem Naming.forall₂_warnings_of_walk {naming : Naming} {root parent : String}
    {inside : List String} (hat : naming.schema.typeAt? root inside = some parent)
    (tree : SelectionTree) {harvest : Harvest} (h : naming.walk parent tree = .ok harvest) :
    List.Forall₂ (fun gap warning => naming.schema.warningAt? root gap = some warning)
      ((tree.gaps inside).filter (naming.schema.isTold root)) harvest.warnings := by
  cases tree with
  | select field bindings child =>
    obtain ⟨target, htarget, hcase⟩ := Naming.walk_select_eq_ok.1 h
    obtain ⟨-, hbelow, -⟩ := Naming.target_eq_ok.1 htarget
    have hnext : naming.schema.typeAt? root (inside ++ [field]) = some target.type := by
      rw [Schema.typeAt?_snoc hat, hbelow]
    rw [SelectionTree.gaps, List.filter_append]
    rcases hcase with ⟨hcomposite, below, hwalk, rfl⟩ | ⟨hleaf, hnothing, rfl⟩
    · have hdeeper := Naming.forall₂_warnings_of_walk hnext child hwalk
      cases child with
      | nothing =>
        -- nothing is told below, so the field itself is told of alone
        rw [Naming.walk, pure_eq_ok] at hwalk
        subst hwalk
        simp [SelectionTree.isNothing, SelectionTree.gaps, Schema.isTold, Schema.warningAt?,
          Harvest.none, hat, hbelow, hnext, hcomposite]
      | _ => simpa [SelectionTree.isNothing] using hdeeper
    · cases child with
      | nothing =>
        simp [SelectionTree.isNothing, SelectionTree.gaps, Schema.isTold, hnext, hleaf]
      | _ => simp [SelectionTree.isNothing] at hnothing
  | rename key child =>
    obtain ⟨below, hbelow, rfl⟩ := Naming.walk_rename_eq_ok.1 h
    have htold := Naming.forall₂_warnings_of_walk hat child hbelow
    rw [SelectionTree.gaps]
    exact htold
  | group members =>
    rw [Naming.walk] at h
    rw [SelectionTree.gaps]
    exact Naming.forall₂_warnings_of_walkAll hat members h
  | nothing =>
    rw [Naming.walk, pure_eq_ok] at h
    subst h
    exact .nil
  | unsupported construct =>
    rw [Naming.walk, pure_eq_ok] at h
    subst h
    have htold : naming.schema.warningAt? root (.unsupported inside construct) =
        some (.unsupported construct parent) := by
      rw [Schema.warningAt?, hat, Option.map_some]
    rw [SelectionTree.gaps]
    exact .cons htold .nil

theorem Naming.forall₂_warnings_of_walkAll {naming : Naming} {root parent : String}
    {inside : List String} (hat : naming.schema.typeAt? root inside = some parent)
    (trees : List SelectionTree) {harvest : Harvest}
    (h : naming.walkAll parent trees = .ok harvest) :
    List.Forall₂ (fun gap warning => naming.schema.warningAt? root gap = some warning)
      ((SelectionTree.gapsAll inside trees).filter (naming.schema.isTold root))
      harvest.warnings := by
  cases trees with
  | nil =>
    rw [Naming.walkAll, pure_eq_ok] at h
    subst h
    exact .nil
  | cons first rest =>
    obtain ⟨here, hhere, later, hlater, rfl⟩ := Naming.walkAll_cons_eq_ok.1 h
    rw [SelectionTree.gapsAll, List.filter_append]
    exact List.rel_append (Naming.forall₂_warnings_of_walk hat first hhere)
      (Naming.forall₂_warnings_of_walkAll hat rest hlater)

end

theorem Naming.exists_warnings_of_resolve {naming : Naming} {tree : SelectionTree}
    {root : SchemaType} {response : Response} (h : naming.resolve tree root = .ok response) :
    ∃ name, naming.rootType root = .ok name ∧
      List.Forall₂ (fun gap warning => naming.schema.warningAt? name gap = some warning)
        ((tree.gaps []).filter (naming.schema.isTold name)) response.warnings := by
  obtain ⟨name, hroot, harvest, hwalk, rfl⟩ := Naming.resolve_eq_ok.1 h
  have hstart : naming.schema.typeAt? name [] = some name := rfl
  exact ⟨name, hroot, Naming.forall₂_warnings_of_walk hstart tree hwalk⟩

/-! ## The law -/

/-- What is not supported only adds warnings. Without such members of groups a
response fails alike, or has the same records and tells no more. What it tells
is, in the order of the document, each construct that is not supported with the
type that it stands on, and each field of composite type below which nothing is
selected. -/
theorem unsupported_constructs_only_add_warnings (naming : Naming) (tree : SelectionTree)
    (root : SchemaType) :
    (naming.resolve tree.withoutUnsupported root).map Response.records =
        (naming.resolve tree root).map Response.records ∧
      (∀ response, naming.resolve tree root = .ok response →
        ∃ name, naming.rootType root = .ok name ∧
          List.Forall₂ (fun gap warning => naming.schema.warningAt? name gap = some warning)
            ((tree.gaps []).filter (naming.schema.isTold name)) response.warnings) ∧
      ∀ response without, naming.resolve tree root = .ok response →
        naming.resolve tree.withoutUnsupported root = .ok without →
        without.warnings.Sublist response.warnings := by
  refine ⟨?_, fun response h => Naming.exists_warnings_of_resolve h, ?_⟩
  · rw [Naming.map_records_resolve, Naming.map_records_resolve]
    congr 1
    funext name
    rw [Naming.map_made_walk naming name tree]
  · intro response without h hwithout
    obtain ⟨name, hroot, htold⟩ := Naming.exists_warnings_of_resolve h
    obtain ⟨same, hsame, hless⟩ := Naming.exists_warnings_of_resolve hwithout
    obtain rfl : name = same := Except.ok.inj (hroot.symm.trans hsame)
    rw [← filterMap_eq_of_forall₂ htold, ← filterMap_eq_of_forall₂ hless]
    apply List.Sublist.filterMap
    exact (tree.sublist_gaps []).filter _

/-- The hero with fragments around: one in the place of all fields of a pet,
which has a name of its own in models, one under another name, and one beside
an owner without selections. -/
def fragmentedHeroTree : SelectionTree :=
  .group
    [.unsupported "fragment spread '...Top'",
      .rename "lead" (.select "hero" [] (.group
        [.rename "animal" (.select "pet" [] (.group [.unsupported "inline fragment"])),
          .rename "none" (.group [.unsupported "inline fragment on 'Pet'"]),
          .select "pet" [] (.group [.select "owner" [] .nothing, .unsupported "inline fragment"]),
          .select "name" [] .nothing]))]

/-- What is told of the hero. -/
def fragmentedHeroResponse : Response :=
  ⟨[⟨"Person", []⟩,
    ⟨"Person", [⟨"animal", .optional (.named "crate::Pet")⟩,
      ⟨"pet", .optional (.named "crate::Pet")⟩, ⟨"name", .named "String"⟩]⟩,
    ⟨"Data", [⟨"lead", .optional (.named "Person")⟩]⟩],
    [.unsupported "fragment spread '...Top'" "Query", .unsupported "inline fragment" "Pet",
      .unsupported "inline fragment on 'Pet'" "person", .noSelection "Pet" "owner" "person",
      .unsupported "inline fragment" "Pet"]⟩

theorem unsupported_constructs_around_the_hero_only_add_warnings :
    peopleNaming.resolve fragmentedHeroTree (.named "Query") = .ok fragmentedHeroResponse ∧
      (peopleNaming.resolve fragmentedHeroTree.withoutUnsupported (.named "Query")).map
          Response.records = .ok fragmentedHeroResponse.records ∧
      ∃ name, peopleNaming.rootType (.named "Query") = .ok name ∧
        List.Forall₂ (fun gap warning => peopleNaming.schema.warningAt? name gap = some warning)
          ((fragmentedHeroTree.gaps []).filter (peopleNaming.schema.isTold name))
          fragmentedHeroResponse.warnings := by
  have h : peopleNaming.resolve fragmentedHeroTree (.named "Query") =
      .ok fragmentedHeroResponse := rfl
  obtain ⟨hrecords, htold, -⟩ :=
    unsupported_constructs_only_add_warnings peopleNaming fragmentedHeroTree (.named "Query")
  refine ⟨h, ?_, htold _ h⟩
  rw [hrecords, h]
  rfl

end Model

end OperationModels
