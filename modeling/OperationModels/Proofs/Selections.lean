-- What a tree of selections asks for, said of the tree alone: the fields that
-- a selection set picks, each under its key, and the fields selected anywhere
-- in the tree, those inside a field before the field itself. The laws say
-- that a walk that succeeds gives just the records and fields that are asked
-- for.
import OperationModels.Model.Records
import OperationModels.Proofs.Results

namespace OperationModels

/-! ## What a tree asks for -/

/-- A field that a selection set picks, and the key it is picked under. -/
structure Pick where
  key : String
  field : String
deriving DecidableEq, Repr

/-- A field selected somewhere in a tree: the fields it lies in, outermost
first, its name, and the selections below it. -/
structure SelectedField where
  inside : List String
  field : String
  child : SelectionTree

/-- A selection set of a tree: the fields that lead to it, outermost first, and
what it selects. -/
structure SelectionSet where
  path : List String
  tree : SelectionTree

/-- The selection set below a field. -/
def SelectedField.set (selected : SelectedField) : SelectionSet :=
  ⟨selected.inside ++ [selected.field], selected.child⟩

namespace SelectionTree

mutual

/-- The fields that a tree picks before it enters any of them, in order. Of
several names given to a field the outermost is its key, and `outer` is one
given from outside the tree. -/
def picks (outer : Option String) : SelectionTree → List Pick
  | .select field _ _ => [⟨outer.getD field, field⟩]
  | .rename key child => child.picks (some (outer.getD key))
  | .group members => picksAll outer members
  | .nothing => []
  | .unsupported _ => []

/-- The fields that trees pick, one tree after the other. -/
def picksAll (outer : Option String) : List SelectionTree → List Pick
  | [] => []
  | first :: rest => first.picks outer ++ picksAll outer rest

end

mutual

/-- Every field selected in a tree that lies inside some fields already, those
below a field before the field. -/
def selectedFields (inside : List String) : SelectionTree → List SelectedField
  | .select field _ child => child.selectedFields (inside ++ [field]) ++ [⟨inside, field, child⟩]
  | .rename _ child => child.selectedFields inside
  | .group members => selectedFieldsAll inside members
  | .nothing => []
  | .unsupported _ => []

/-- Every field selected in trees, one tree after the other. -/
def selectedFieldsAll (inside : List String) : List SelectionTree → List SelectedField
  | [] => []
  | first :: rest => first.selectedFields inside ++ selectedFieldsAll inside rest

end

/-- The keys that a tree picks, in order. -/
def keys (tree : SelectionTree) : List String := (tree.picks none).map Pick.key

mutual

/-- A name from outside takes the place of every key. -/
theorem picks_some (key : String) (outer : Option String) (tree : SelectionTree) :
    tree.picks (some key) = (tree.picks outer).map (fun pick => { pick with key := key }) := by
  cases tree with
  | select field bindings child => simp [picks]
  | rename own child =>
    simp only [picks, Option.getD_some]
    exact picks_some key _ child
  | group members =>
    simp only [picks]
    exact picksAll_some key outer members
  | nothing => simp [picks]
  | unsupported construct => simp [picks]

theorem picksAll_some (key : String) (outer : Option String) (trees : List SelectionTree) :
    picksAll (some key) trees =
      (picksAll outer trees).map (fun pick => { pick with key := key }) := by
  cases trees with
  | nil => simp [picksAll]
  | cons first rest =>
    simp only [picksAll, List.map_append]
    rw [picks_some key outer first, picksAll_some key outer rest]

end

end SelectionTree

/-! ## The types that a tree leads to -/

/-- The type below the type of a field, if the field is there and typed. -/
def Schema.typeBelow? (schema : Schema) (parent field : String) : Option String :=
  (schema.fieldType parent field).underlying?

theorem Schema.typeBelow?_eq_some_iff {schema : Schema} {parent field type : String} :
    schema.typeBelow? parent field = some type ↔
      ∃ definition, schema.field? parent field = some definition ∧
        definition.type.underlying? = some type := by
  unfold Schema.typeBelow? Schema.fieldType
  cases schema.field? parent field <;> simp [SchemaType.underlying?]

theorem Schema.typeBelow?_eq_none_iff {schema : Schema} {parent field : String} :
    schema.typeBelow? parent field = none ↔
      ∀ definition, schema.field? parent field = some definition →
        definition.type.underlying? = none := by
  unfold Schema.typeBelow? Schema.fieldType
  cases schema.field? parent field <;> simp [SchemaType.underlying?]

/-- The type that fields lead to from a type, one field after the other. -/
def Schema.typeAt? (schema : Schema) (root : String) (fields : List String) : Option String :=
  fields.foldlM schema.typeBelow? root

theorem Schema.typeAt?_snoc {schema : Schema} {root parent : String} {inside : List String}
    (h : schema.typeAt? root inside = some parent) (field : String) :
    schema.typeAt? root (inside ++ [field]) = schema.typeBelow? parent field := by
  unfold Schema.typeAt? at *
  rw [List.foldlM_append, h]
  simp

namespace Model

/-- The field of a record stands for a pick: it has the key of the pick and
the type of the field in models. -/
def Naming.Answers (naming : Naming) (parent : String) (pick : Pick) (field : Field) : Prop :=
  field.name = pick.key ∧
    naming.typeOf? (naming.schema.fieldType parent pick.field) = some field.type

/-- The fields of a record are those that a selection set on a type picks, in
order. -/
def Naming.AnswersAll (naming : Naming) (parent : String) (tree : SelectionTree)
    (fields : List Field) : Prop :=
  List.Forall₂ (naming.Answers parent) (tree.picks none) fields

/-- Do the selections below a field get a record of their own? They do on a
composite type that has no name of its own in models. -/
def Naming.getsRecord (naming : Naming) (root : String) (selected : SelectedField) : Bool :=
  (naming.schema.typeAt? root (selected.inside ++ [selected.field])).any
    (fun type => naming.schema.isComposite type && naming.makesRecord type)

/-- The record of the selections below a field: named for the type of the
field, with the fields that those selections pick. -/
def Naming.RecordFor (naming : Naming) (root : String) (selected : SelectedField)
    (record : Record) : Prop :=
  ∃ type, naming.schema.typeAt? root (selected.inside ++ [selected.field]) = some type ∧
    record.name = recordName type ∧ naming.AnswersAll type selected.child record.fields

/-! ## One step of a walk -/

/-- What has a name below its lists and marks has a type in models. -/
theorem Naming.isSome_typeOf? (naming : Naming) (type : SchemaType) :
    (naming.typeOf? type).isSome = type.underlying?.isSome := by
  induction type with
  | named name => rfl
  | list item ih => simpa [Naming.typeOf?, SchemaType.underlying?] using ih
  | nullable inner ih => simpa [Naming.typeOf?, SchemaType.underlying?] using ih
  | untyped => rfl

theorem Naming.target_eq_ok {naming : Naming} {parent field : String} {target : Target} :
    naming.target parent field = .ok target ↔
      target.field.name = field ∧
        naming.schema.typeBelow? parent field = some target.type ∧
        naming.typeOf? (naming.schema.fieldType parent field) = some target.field.type := by
  unfold Naming.target Schema.typeBelow?
  obtain ⟨⟨name, resolved⟩, type⟩ := target
  cases hu : (naming.schema.fieldType parent field).underlying? with
  | none => simp [hu]
  | some underlying =>
    cases ht : naming.typeOf? (naming.schema.fieldType parent field) with
    | none => simp [hu, ht]
    | some known =>
      simp only [hu, ht, Except.ok.injEq, Target.mk.injEq, Field.mk.injEq, Option.some.injEq]
      constructor
      · rintro ⟨⟨rfl, rfl⟩, rfl⟩
        exact ⟨rfl, rfl, rfl⟩
      · rintro ⟨rfl, rfl, rfl⟩
        exact ⟨⟨rfl, rfl⟩, rfl⟩

/-- A walk over a selected field: one on a composite type closes what is
selected below it, and any other one has nothing selected below it. -/
theorem Naming.walk_select_eq_ok {naming : Naming} {parent field : String}
    {bindings : List Binding} {child : SelectionTree} {harvest : Harvest} :
    naming.walk parent (.select field bindings child) = .ok harvest ↔
      ∃ target, naming.target parent field = .ok target ∧
        ((naming.schema.isComposite target.type = true ∧
            ∃ below, naming.walk target.type child = .ok below ∧
              harvest =
                { records := below.records ++
                    if naming.makesRecord target.type then
                      [⟨recordName target.type, below.fields⟩] else []
                  fields := [target.field]
                  warnings := below.warnings ++
                    if child.isNothing then [.noSelection parent field target.type] else [] }) ∨
          (naming.schema.isComposite target.type = false ∧ child.isNothing = true ∧
            harvest = ⟨[], [target.field], []⟩)) := by
  rw [Naming.walk, bind_eq_ok]
  refine exists_congr fun target => and_congr_right fun _ => ?_
  cases hc : naming.schema.isComposite target.type with
  | true =>
    simp only [if_true, bind_eq_ok, pure_eq_ok, Harvest.close, true_and, false_and, or_false,
      Bool.true_eq_false]
    exact exists_congr fun below => and_congr_right fun _ => eq_comm
  | false =>
    simp only [Bool.false_eq_true, if_false, false_and, false_or, true_and]
    cases child.isNothing with
    | true =>
      simp only [if_true, pure_eq_ok, true_and]
      exact eq_comm
    | false => simp [throw, throwThe, MonadExceptOf.throw]

theorem Naming.walk_rename_eq_ok {naming : Naming} {parent key : String} {child : SelectionTree}
    {harvest : Harvest} :
    naming.walk parent (.rename key child) = .ok harvest ↔
      ∃ below, naming.walk parent child = .ok below ∧ below.rename key = harvest := by
  rw [Naming.walk, bind_eq_ok]
  simp only [pure_eq_ok]

theorem Naming.walkAll_cons_eq_ok {naming : Naming} {parent : String} {first : SelectionTree}
    {rest : List SelectionTree} {harvest : Harvest} :
    naming.walkAll parent (first :: rest) = .ok harvest ↔
      ∃ here, naming.walk parent first = .ok here ∧
        ∃ later, naming.walkAll parent rest = .ok later ∧ here ++ later = harvest := by
  rw [Naming.walkAll, bind_eq_ok]
  simp only [bind_eq_ok, pure_eq_ok]

/-! ## A whole walk -/

theorem Naming.AnswersAll.rename {naming : Naming} {parent : String} {tree : SelectionTree}
    {fields : List Field} (h : naming.AnswersAll parent tree fields) (key : String) :
    List.Forall₂ (naming.Answers parent) (tree.picks (some key))
      (fields.map (fun field => { field with name := key })) := by
  rw [tree.picks_some key none, List.forall₂_map_left_iff, List.forall₂_map_right_iff]
  exact h.imp fun _ _ answers => ⟨rfl, answers.2⟩

theorem Naming.AnswersAll.map_name {naming : Naming} {parent : String} {tree : SelectionTree}
    {fields : List Field} (h : naming.AnswersAll parent tree fields) :
    fields.map Field.name = tree.keys :=
  (map_eq_map_of_forall₂ h (fun _ _ hanswers => hanswers.1.symm)).symm

mutual

/-- A walk gives the fields that the tree picks. -/
theorem Naming.answersAll_of_walk {naming : Naming} {parent : String} (tree : SelectionTree)
    {harvest : Harvest} (h : naming.walk parent tree = .ok harvest) :
    naming.AnswersAll parent tree harvest.fields := by
  cases tree with
  | select field bindings child =>
    obtain ⟨target, ht, hcase⟩ := Naming.walk_select_eq_ok.1 h
    obtain ⟨hname, -, htype⟩ := Naming.target_eq_ok.1 ht
    have hfields : harvest.fields = [target.field] := by
      rcases hcase with ⟨-, below, -, rfl⟩ | ⟨-, -, rfl⟩ <;> rfl
    rw [hfields]
    exact .cons ⟨hname, htype⟩ .nil
  | rename key child =>
    obtain ⟨below, hb, rfl⟩ := Naming.walk_rename_eq_ok.1 h
    exact (Naming.answersAll_of_walk child hb).rename key
  | group members =>
    rw [Naming.walk] at h
    exact Naming.answersAll_of_walkAll members h
  | nothing =>
    rw [Naming.walk, pure_eq_ok] at h
    subst h
    exact .nil
  | unsupported construct =>
    rw [Naming.walk, pure_eq_ok] at h
    subst h
    exact .nil

theorem Naming.answersAll_of_walkAll {naming : Naming} {parent : String}
    (trees : List SelectionTree) {harvest : Harvest}
    (h : naming.walkAll parent trees = .ok harvest) :
    List.Forall₂ (naming.Answers parent) (SelectionTree.picksAll none trees) harvest.fields := by
  cases trees with
  | nil =>
    rw [Naming.walkAll, pure_eq_ok] at h
    subst h
    exact .nil
  | cons first rest =>
    obtain ⟨here, hh, later, hl, rfl⟩ := Naming.walkAll_cons_eq_ok.1 h
    exact List.rel_append (Naming.answersAll_of_walk first hh) (Naming.answersAll_of_walkAll rest hl)

end

mutual

/-- A walk closes one record for each selected field that gets one. -/
theorem Naming.recordsFor_of_walk {naming : Naming} {root parent : String} {inside : List String}
    (hat : naming.schema.typeAt? root inside = some parent) (tree : SelectionTree)
    {harvest : Harvest} (h : naming.walk parent tree = .ok harvest) :
    List.Forall₂ (naming.RecordFor root)
      ((tree.selectedFields inside).filter (naming.getsRecord root)) harvest.records := by
  cases tree with
  | select field bindings child =>
    obtain ⟨target, ht, hcase⟩ := Naming.walk_select_eq_ok.1 h
    obtain ⟨-, htype, -⟩ := Naming.target_eq_ok.1 ht
    have hbelow : naming.schema.typeAt? root (inside ++ [field]) = some target.type := by
      rw [Schema.typeAt?_snoc hat, htype]
    simp only [SelectionTree.selectedFields, List.filter_append]
    rcases hcase with ⟨hc, below, hb, rfl⟩ | ⟨hc, hnothing, rfl⟩
    · refine List.rel_append (Naming.recordsFor_of_walk hbelow child hb) ?_
      by_cases hr : naming.makesRecord target.type = true
      · simp only [List.filter_cons, List.filter_nil, Naming.getsRecord, hbelow, hc, hr,
          Option.any_some, Bool.and_self, if_true]
        exact .cons ⟨target.type, hbelow, rfl, Naming.answersAll_of_walk child hb⟩ .nil
      · simp [Naming.getsRecord, hbelow, hr]
    · cases child with
      | nothing => simp [SelectionTree.selectedFields, Naming.getsRecord, hbelow, hc]
      | _ => simp [SelectionTree.isNothing] at hnothing
  | rename key child =>
    obtain ⟨below, hb, rfl⟩ := Naming.walk_rename_eq_ok.1 h
    show List.Forall₂ _ _ below.records
    exact Naming.recordsFor_of_walk hat child hb
  | group members =>
    rw [Naming.walk] at h
    exact Naming.recordsFor_of_walkAll hat members h
  | nothing =>
    rw [Naming.walk, pure_eq_ok] at h
    subst h
    exact .nil
  | unsupported construct =>
    rw [Naming.walk, pure_eq_ok] at h
    subst h
    exact .nil

theorem Naming.recordsFor_of_walkAll {naming : Naming} {root parent : String}
    {inside : List String} (hat : naming.schema.typeAt? root inside = some parent)
    (trees : List SelectionTree) {harvest : Harvest}
    (h : naming.walkAll parent trees = .ok harvest) :
    List.Forall₂ (naming.RecordFor root)
      ((SelectionTree.selectedFieldsAll inside trees).filter (naming.getsRecord root))
      harvest.records := by
  cases trees with
  | nil =>
    rw [Naming.walkAll, pure_eq_ok] at h
    subst h
    exact .nil
  | cons first rest =>
    obtain ⟨here, hh, later, hl, rfl⟩ := Naming.walkAll_cons_eq_ok.1 h
    simp only [SelectionTree.selectedFieldsAll, List.filter_append]
    exact List.rel_append (Naming.recordsFor_of_walk hat first hh)
      (Naming.recordsFor_of_walkAll hat rest hl)

end

theorem Naming.rootType_eq_ok {naming : Naming} {root : SchemaType} {name : String} :
    naming.rootType root = .ok name ↔
      root.underlying?.getD "<none>" = name ∧ naming.schema.isComposite name = true := by
  unfold Naming.rootType
  generalize root.underlying?.getD "<none>" = known
  dsimp only
  by_cases hc : naming.schema.isComposite known = true
  · rw [if_pos hc, Except.ok.injEq]
    constructor
    · rintro rfl
      exact ⟨rfl, hc⟩
    · exact And.left
  · rw [if_neg hc]
    constructor
    · intro h
      cases h
    · rintro ⟨rfl, hname⟩
      exact absurd hname hc

theorem Naming.resolve_eq_ok {naming : Naming} {tree : SelectionTree} {root : SchemaType}
    {response : Response} :
    naming.resolve tree root = .ok response ↔
      ∃ name, naming.rootType root = .ok name ∧
        ∃ harvest, naming.walk name tree = .ok harvest ∧
          ⟨harvest.records ++ [⟨dataRecord, harvest.fields⟩], harvest.warnings⟩ = response := by
  rw [Naming.resolve]
  simp only [bind_eq_ok, pure_eq_ok]

/-! ## The laws -/

/-- The records of a response, inside out: one for each selected field whose
type is composite and has no name of its own in models, and `Data` last. Each
has just the fields that its own selections pick. -/
theorem each_record_stands_for_one_selection (naming : Naming) (tree : SelectionTree)
    (root : SchemaType) (response : Response) (h : naming.resolve tree root = .ok response) :
    ∃ name nested fields, naming.rootType root = .ok name ∧
      response.records = nested ++ [⟨"Data", fields⟩] ∧
      List.Forall₂ (naming.RecordFor name)
        ((tree.selectedFields []).filter (naming.getsRecord name)) nested ∧
      naming.AnswersAll name tree fields := by
  obtain ⟨name, hroot, harvest, hwalk, rfl⟩ := Naming.resolve_eq_ok.1 h
  refine ⟨name, harvest.records, harvest.fields, hroot, rfl, ?_, ?_⟩
  · exact Naming.recordsFor_of_walk rfl tree hwalk
  · exact Naming.answersAll_of_walk tree hwalk

/-- People with pets. Pets have a name of their own in models. -/
def peopleNaming : Naming where
  schema :=
    [⟨"Query", .object, .ofList [("hero", ⟨.nullable (.named "person"), .empty⟩)]⟩,
      ⟨"person", .interface, .ofList
        [("name", ⟨.named "String", .empty⟩), ("pet", ⟨.nullable (.named "Pet"), .empty⟩)]⟩,
      ⟨"Pet", .object, .ofList [("owner", ⟨.named "person", .empty⟩)]⟩].foldl
        (fun schema definition => (schema.insert definition).2) .builtIn
  mapping := .withOverrides [("Pet", "crate::Pet")]

/-- The hero under another name, with the owner of a pet that has two more. -/
def heroTree : SelectionTree :=
  .group
    [.rename "lead" (.group
      [.select "hero" [] (.group
        [.rename "animal" (.rename "inner"
          (.select "pet" [] (.group [.select "owner" [] (.select "name" [] .nothing)]))),
          .select "name" [] .nothing])]),
      .select "__typename" [] .nothing]

/-- What the hero is answered with. -/
def heroResponse : Response :=
  ⟨[⟨"Person", [⟨"name", .named "String"⟩]⟩,
    ⟨"Person", [⟨"animal", .optional (.named "crate::Pet")⟩, ⟨"name", .named "String"⟩]⟩,
    ⟨"Data", [⟨"lead", .optional (.named "Person")⟩, ⟨"__typename", .named "String"⟩]⟩], []⟩

theorem each_record_of_the_hero_stands_for_one_selection :
    peopleNaming.resolve heroTree (.named "Query") = .ok heroResponse ∧
      ∃ name nested fields, peopleNaming.rootType (.named "Query") = .ok name ∧
        heroResponse.records = nested ++ [⟨"Data", fields⟩] ∧
        List.Forall₂ (peopleNaming.RecordFor name)
          ((heroTree.selectedFields []).filter (peopleNaming.getsRecord name)) nested ∧
        peopleNaming.AnswersAll name heroTree fields := by
  have h : peopleNaming.resolve heroTree (.named "Query") = .ok heroResponse := rfl
  exact ⟨h, each_record_stands_for_one_selection _ _ _ _ h⟩

end Model

end OperationModels
