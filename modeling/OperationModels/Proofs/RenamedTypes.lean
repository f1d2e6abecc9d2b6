-- What a name in models decides. Two mappings that differ in one type only
-- give the same failure or the same warnings for every tree of selections.
-- Their records are the same but for that name, and but for the records of
-- the type itself, which only a mapping that leaves it its own name makes.
import OperationModels.Proofs.Selections

namespace OperationModels.Model

/-! ## Failures and warnings -/

section Warnings

variable (schema : Schema) (mapping other : NameMapping)

/-- A field leads to a type, or fails to, whatever the names in models are. -/
theorem Naming.map_type_target (parent field : String) :
    ((Naming.mk schema mapping).target parent field).map Target.type =
      ((Naming.mk schema other).target parent field).map Target.type := by
  unfold Naming.target
  dsimp only
  cases hunder : (schema.fieldType parent field).underlying? with
  | none => rfl
  | some name =>
    have hone := (Naming.mk schema mapping).isSome_typeOf? (schema.fieldType parent field)
    have htwo := (Naming.mk schema other).isSome_typeOf? (schema.fieldType parent field)
    rw [hunder, Option.isSome_some, Option.isSome_iff_exists] at hone htwo
    obtain ⟨one, hone⟩ := hone
    obtain ⟨two, htwo⟩ := htwo
    rw [hone, htwo]
    rfl

/-- What a walk over a selected field tells, said of the type below the field
and of what is told below that. -/
theorem Naming.map_warnings_walk_select (naming : Naming) (parent field : String)
    (bindings : List Binding) (child : SelectionTree) :
    (naming.walk parent (.select field bindings child)).map Harvest.warnings =
      ((naming.target parent field).map Target.type).bind (fun type =>
        if naming.schema.isComposite type then
          ((naming.walk type child).map Harvest.warnings).map (fun warnings =>
            warnings ++ if child.isNothing then [.noSelection parent field type] else [])
        else if child.isNothing then .ok []
        else .error (.unresolvedField parent field (.leafWithSelection type))) := by
  rw [Naming.walk]
  cases naming.target parent field with
  | error failure => rfl
  | ok target =>
    show Except.map _ (if _ then _ else _) = (if _ then _ else _)
    split
    · cases naming.walk target.type child <;> rfl
    · split <;> rfl

theorem Naming.map_warnings_walk_rename (naming : Naming) (parent key : String)
    (child : SelectionTree) :
    (naming.walk parent (.rename key child)).map Harvest.warnings =
      (naming.walk parent child).map Harvest.warnings := by
  rw [Naming.walk]
  cases naming.walk parent child <;> rfl

theorem Naming.map_warnings_walkAll_cons (naming : Naming) (parent : String)
    (first : SelectionTree) (rest : List SelectionTree) :
    (naming.walkAll parent (first :: rest)).map Harvest.warnings =
      ((naming.walk parent first).map Harvest.warnings).bind (fun here =>
        ((naming.walkAll parent rest).map Harvest.warnings).map (fun later => here ++ later)) := by
  rw [Naming.walkAll]
  cases naming.walk parent first with
  | error failure => rfl
  | ok here => cases naming.walkAll parent rest <;> rfl

mutual

/-- A walk fails alike, or tells alike, whatever the names in models are. -/
theorem Naming.map_warnings_walk (parent : String) (tree : SelectionTree) :
    ((Naming.mk schema mapping).walk parent tree).map Harvest.warnings =
      ((Naming.mk schema other).walk parent tree).map Harvest.warnings := by
  cases tree with
  | select field bindings child =>
    rw [Naming.map_warnings_walk_select, Naming.map_warnings_walk_select,
      Naming.map_type_target schema mapping other]
    congr 1
    funext type
    rw [Naming.map_warnings_walk type child]
  | rename key child =>
    rw [Naming.map_warnings_walk_rename, Naming.map_warnings_walk_rename]
    exact Naming.map_warnings_walk parent child
  | group members =>
    rw [Naming.walk, Naming.walk]
    exact Naming.map_warnings_walkAll parent members
  | nothing =>
    rw [Naming.walk, Naming.walk]
  | unsupported construct =>
    rw [Naming.walk, Naming.walk]

theorem Naming.map_warnings_walkAll (parent : String) (trees : List SelectionTree) :
    ((Naming.mk schema mapping).walkAll parent trees).map Harvest.warnings =
      ((Naming.mk schema other).walkAll parent trees).map Harvest.warnings := by
  cases trees with
  | nil => rw [Naming.walkAll, Naming.walkAll]
  | cons first rest =>
    rw [Naming.map_warnings_walkAll_cons, Naming.map_warnings_walkAll_cons,
      Naming.map_warnings_walk parent first, Naming.map_warnings_walkAll parent rest]

end

theorem Naming.map_warnings_resolve (tree : SelectionTree) (root : SchemaType) :
    ((Naming.mk schema mapping).resolve tree root).map Response.warnings =
      ((Naming.mk schema other).resolve tree root).map Response.warnings := by
  have hwalk : ∀ naming : Naming, (naming.resolve tree root).map Response.warnings =
      (naming.rootType root).bind
        (fun name => (naming.walk name tree).map Harvest.warnings) := by
    intro naming
    unfold Naming.resolve
    cases naming.rootType root with
    | error failure => rfl
    | ok name =>
      show Except.map _ (naming.walk name tree >>= _) = (naming.walk name tree).map _
      cases naming.walk name tree <;> rfl
  rw [hwalk, hwalk]
  show ((Naming.mk schema other).rootType root).bind _ = _
  congr 1
  funext name
  exact Naming.map_warnings_walk schema mapping other name tree

end Warnings

/-! ## Names at the bottom of types -/

/-- The same type with another name below all lists and marks. -/
def FieldType.withInnermost (name : String) : FieldType → FieldType
  | .named _ => .named name
  | .list item => .list (item.withInnermost name)
  | .optional inner => .optional (inner.withInnermost name)

/-- Two mappings have the same names in models for all types that fields of the
schema lead to, but for one type. -/
def AgreeBut (schema : Schema) (type : String) (mapping other : NameMapping) : Prop :=
  ∀ parent field name, schema.typeBelow? parent field = some name → name ≠ type →
    mapping.map name = other.map name

section Records

variable {schema : Schema} {mapping other : NameMapping} {type : String}

theorem AgreeBut.symm (hagree : AgreeBut schema type mapping other) :
    AgreeBut schema type other mapping := by
  intro parent field name hbelow hname
  exact (hagree parent field name hbelow hname).symm

theorem AgreeBut.map_eq (hagree : AgreeBut schema type mapping other) {root name : String}
    {inside : List String} {field : String}
    (hat : schema.typeAt? root (inside ++ [field]) = some name) (hname : name ≠ type) :
    mapping.map name = other.map name := by
  unfold Schema.typeAt? at hat
  rw [List.foldlM_append, Option.bind_eq_bind, Option.bind_eq_some_iff] at hat
  obtain ⟨parent, -, hbelow⟩ := hat
  rw [List.foldlM_cons, Option.bind_eq_bind, Option.bind_eq_some_iff] at hbelow
  obtain ⟨_, hbelow, hsame⟩ := hbelow
  cases hsame
  exact hagree parent field name hbelow hname

/-- The type of a field differs between the mappings at most at the bottom, and
there only if it is of the type in which they differ. -/
theorem Naming.typeOf?_renamed {declared : SchemaType} {one two : FieldType}
    (hagree : ∀ name, declared.underlying? = some name → name ≠ type →
      mapping.map name = other.map name)
    (hone : (Naming.mk schema mapping).typeOf? declared = some one)
    (htwo : (Naming.mk schema other).typeOf? declared = some two) :
    two = if declared.underlying? = some type then one.withInnermost (other.map type) else one := by
  induction declared generalizing one two with
  | named name =>
    rw [Naming.typeOf?, Option.some.injEq] at hone htwo
    subst hone htwo
    by_cases hname : name = type
    · subst hname
      simp [SchemaType.underlying?, FieldType.withInnermost]
    · simp [SchemaType.underlying?, hname, hagree name rfl hname]
  | list item ih =>
    rw [Naming.typeOf?, Option.map_eq_some_iff] at hone htwo
    obtain ⟨oneItem, honeItem, rfl⟩ := hone
    obtain ⟨twoItem, htwoItem, rfl⟩ := htwo
    rw [ih hagree honeItem htwoItem]
    show _ = if item.underlying? = some type then _ else _
    split <;> rfl
  | nullable inner ih =>
    rw [Naming.typeOf?, Option.map_eq_some_iff] at hone htwo
    obtain ⟨oneInner, honeInner, rfl⟩ := hone
    obtain ⟨twoInner, htwoInner, rfl⟩ := htwo
    rw [ih hagree honeInner htwoInner]
    show _ = if inner.underlying? = some type then _ else _
    split <;> rfl
  | untyped => cases hone

/-! ## Records and the selection sets that they stand for -/

/-- The selection sets that get a record, in the order of the records: those
below fields, and last that of the whole response. -/
def Naming.recordSets (naming : Naming) (root : String) (tree : SelectionTree) :
    List SelectionSet :=
  ((tree.selectedFields []).filter (naming.getsRecord root)).map SelectedField.set ++ [⟨[], tree⟩]

/-- A record stands for a selection set: it has the name of the type that the
set is on, or `Data` for the whole response, and the fields that the set picks. -/
def Naming.RecordOn (naming : Naming) (root : String) (set : SelectionSet) (record : Record) :
    Prop :=
  ∃ parent, naming.schema.typeAt? root set.path = some parent ∧
    record.name = (if set.path = [] then "Data" else recordName parent) ∧
    naming.AnswersAll parent set.tree record.fields

/-- The records of a response stand, one for one, for the sets that get one. -/
theorem Naming.recordOn_of_walk {naming : Naming} {root : String} {tree : SelectionTree}
    {harvest : Harvest} (h : naming.walk root tree = .ok harvest) :
    List.Forall₂ (naming.RecordOn root) (naming.recordSets root tree)
      (harvest.records ++ [⟨dataRecord, harvest.fields⟩]) := by
  have hstart : naming.schema.typeAt? root [] = some root := rfl
  unfold Naming.recordSets
  apply List.rel_append
  · rw [List.forall₂_map_left_iff]
    refine (Naming.recordsFor_of_walk hstart tree h).imp ?_
    rintro selected record ⟨parent, hparent, hname, hfields⟩
    exact ⟨parent, hparent, by simpa [SelectedField.set] using hname, hfields⟩
  · exact .cons ⟨root, hstart, rfl, Naming.answersAll_of_walk tree h⟩ .nil

/-- Is the set one below a field of the type? That of the whole response is
below no field. -/
def selectsOn (schema : Schema) (root type : String) (set : SelectionSet) : Bool :=
  !set.path.isEmpty && decide (schema.typeAt? root set.path = some type)

/-! ## Records under another mapping -/

/-- The fields of a record with another name in models for one type. -/
def renameFields (schema : Schema) (root type name : String) (set : SelectionSet)
    (fields : List Field) : List Field :=
  List.zipWith (fun (pick : Pick) (field : Field) =>
      if schema.typeAt? root (set.path ++ [pick.field]) = some type then
        { field with type := field.type.withInnermost name }
      else field)
    (set.tree.picks none) fields

/-- A record, beside its set, with another name in models for one type. -/
def renameRecord (schema : Schema) (root type name : String) (closed : SelectionSet × Record) :
    SelectionSet × Record :=
  (closed.1, { closed.2 with
    fields := renameFields schema root type name closed.1 closed.2.fields })

/-- The records of a response, each beside its set, that close a selection on
the type. -/
def Naming.recordsOf (naming : Naming) (root type : String) (tree : SelectionTree)
    (records : List Record) : List (SelectionSet × Record) :=
  ((naming.recordSets root tree).zip records).filter
    (fun closed => selectsOn naming.schema root type closed.1)

/-- The records of a response, each beside its set, without those that close a
selection on the type. -/
def Naming.recordsBut (naming : Naming) (root type : String) (tree : SelectionTree)
    (records : List Record) : List (SelectionSet × Record) :=
  ((naming.recordSets root tree).zip records).filter
    (fun closed => !selectsOn naming.schema root type closed.1)

theorem map_fst_filter_zip {α β : Type} (p : α → Bool) {as : List α} {bs : List β}
    (h : as.length = bs.length) :
    ((as.zip bs).filter (fun pair => p pair.1)).map Prod.fst = as.filter p := by
  have hmap := List.filter_map (f := Prod.fst) (p := p) (l := as.zip bs)
  rw [List.map_fst_zip (by omega)] at hmap
  rw [hmap]
  rfl

theorem eq_map_of_map_fst_eq {α β : Type} {f : α × β → α × β} {as bs : List (α × β)}
    (h : as.map Prod.fst = bs.map Prod.fst)
    (hf : ∀ a ∈ as, ∀ b ∈ bs, a.1 = b.1 → b = f a) : bs = as.map f := by
  induction as generalizing bs with
  | nil =>
    rw [List.map_nil, eq_comm, List.map_eq_nil_iff] at h
    rw [h, List.map_nil]
  | cons a rest ih =>
    rw [List.map_cons, eq_comm, List.map_eq_cons_iff] at h
    obtain ⟨b, others, rfl, hab, hrest⟩ := h
    have hb : b = f a := hf a List.mem_cons_self b List.mem_cons_self hab.symm
    have hothers : others = rest.map f := by
      apply ih hrest.symm
      intro one hone two htwo
      exact hf one (List.mem_cons_of_mem _ hone) two (List.mem_cons_of_mem _ htwo)
    rw [List.map_cons, ← hb, ← hothers]

theorem renameFields_of_answersAll
    (hagree : AgreeBut schema type mapping other) {root parent : String}
    {set : SelectionSet} (hat : schema.typeAt? root set.path = some parent)
    {one two : List Field} (hone : (Naming.mk schema mapping).AnswersAll parent set.tree one)
    (htwo : (Naming.mk schema other).AnswersAll parent set.tree two) :
    two = renameFields schema root type (other.map type) set one := by
  unfold Naming.AnswersAll at hone htwo
  unfold renameFields
  generalize set.tree.picks none = picks at hone htwo
  induction hone generalizing two with
  | nil =>
    cases htwo
    rfl
  | @cons pick field picks fields hfield _ ih =>
    obtain - | @⟨_, named, _, rest, hnamed, hrest⟩ := htwo
    rw [List.zipWith_cons_cons, ← ih hrest]
    congr 1
    obtain ⟨key, known⟩ := field
    obtain ⟨key', known'⟩ := named
    obtain ⟨rfl, htype⟩ := hfield
    obtain ⟨rfl, htype'⟩ := hnamed
    have hknown := Naming.typeOf?_renamed (hagree parent pick.field) htype htype'
    rw [Schema.typeAt?_snoc hat]
    unfold Schema.typeBelow?
    subst hknown
    dsimp only
    split <;> rfl

theorem Naming.RecordOn.renamed
    (hagree : AgreeBut schema type mapping other) {root : String}
    {set : SelectionSet} {one two : Record} (hone : (Naming.mk schema mapping).RecordOn root set one)
    (htwo : (Naming.mk schema other).RecordOn root set two) :
    (set, two) = renameRecord schema root type (other.map type) (set, one) := by
  obtain ⟨parent, hat, hname, hfields⟩ := hone
  obtain ⟨parent', hat', hname', hfields'⟩ := htwo
  have hparent : some parent = some parent' := hat.symm.trans hat'
  cases hparent
  obtain ⟨name, fields⟩ := one
  obtain ⟨name', fields'⟩ := two
  unfold renameRecord
  rw [← renameFields_of_answersAll hagree hat hfields hfields']
  simp only at hname hname'
  rw [hname, hname']

/-! ## Which sets get a record -/

/-- Apart from selections on the type, the same sets get a record. -/
theorem filter_recordSets_eq
    (hagree : AgreeBut schema type mapping other) (root : String)
    (tree : SelectionTree) :
    ((Naming.mk schema mapping).recordSets root tree).filter
        (fun set => !selectsOn schema root type set) =
      ((Naming.mk schema other).recordSets root tree).filter
        (fun set => !selectsOn schema root type set) := by
  unfold Naming.recordSets
  rw [List.filter_append, List.filter_append, List.filter_map, List.filter_map,
    List.filter_filter, List.filter_filter]
  congr 2
  apply List.filter_congr
  intro selected _
  unfold Naming.getsRecord
  show (!selectsOn schema root type selected.set &&
      (schema.typeAt? root selected.set.path).any _) =
    (!selectsOn schema root type selected.set &&
      (schema.typeAt? root selected.set.path).any _)
  cases hat : schema.typeAt? root selected.set.path with
  | none => rfl
  | some parent =>
    -- a set on the type is left out on both sides, with a record or without
    by_cases hparent : parent = type
    · have hon : selectsOn schema root type selected.set = true := by
        simp [selectsOn, SelectedField.set, ← hparent] at hat ⊢
        exact hat
      simp [hon]
    · simp [Naming.makesRecord, hagree.map_eq hat hparent]

/-- Selections on the type get a record just if it is composite and keeps its
own name in models. -/
theorem filter_recordSets_on (root : String) (tree : SelectionTree) :
    ((Naming.mk schema mapping).recordSets root tree).filter (selectsOn schema root type) =
      ((tree.selectedFields []).map SelectedField.set).filter (fun set =>
        selectsOn schema root type set && schema.isComposite type &&
          decide (mapping.map type = recordName type)) := by
  unfold Naming.recordSets
  have hwhole : [(⟨[], tree⟩ : SelectionSet)].filter (selectsOn schema root type) = [] := by
    simp [selectsOn]
  rw [List.filter_append, hwhole, List.append_nil, List.filter_map, List.filter_map,
    List.filter_filter]
  congr 1
  apply List.filter_congr
  intro selected _
  show (selectsOn schema root type selected.set && _) = (selectsOn schema root type selected.set &&
    _ && _)
  cases hon : selectsOn schema root type selected.set with
  | false => rfl
  | true =>
    have hat : schema.typeAt? root (selected.inside ++ [selected.field]) = some type := by
      unfold selectsOn at hon
      rw [Bool.and_eq_true, decide_eq_true_eq] at hon
      exact hon.2
    simp [Naming.getsRecord, hat, Naming.makesRecord]

/-! ## The law -/

/-- Records under one mapping as they follow from those under another one that
differs in a type only. -/
structure FollowFrom (schema : Schema) (mapping other : NameMapping) (type root : String)
    (tree : SelectionTree) (records others : List Record) : Prop where
  /-- The records stand, in order, for the sets that get one. -/
  closed : List.Forall₂ ((Naming.mk schema mapping).RecordOn root)
    ((Naming.mk schema mapping).recordSets root tree) records
  /-- All selections on the type have a record, or none has: it must be
  composite and keep its own name. -/
  own : ((Naming.mk schema mapping).recordsOf root type tree records).map Prod.fst =
    ((tree.selectedFields []).map SelectedField.set).filter (fun set =>
      selectsOn schema root type set && schema.isComposite type &&
        decide (mapping.map type = Text.capitalizeFirst type))
  /-- The rest are those under the other mapping, with the name of the type. -/
  renamed : (Naming.mk schema mapping).recordsBut root type tree records =
    ((Naming.mk schema other).recordsBut root type tree others).map
      (renameRecord schema root type (mapping.map type))

theorem followFrom_of_closed
    (hagree : AgreeBut schema type mapping other) {root : String}
    {tree : SelectionTree} {records others : List Record}
    (hone : List.Forall₂ ((Naming.mk schema other).RecordOn root)
      ((Naming.mk schema other).recordSets root tree) others)
    (htwo : List.Forall₂ ((Naming.mk schema mapping).RecordOn root)
      ((Naming.mk schema mapping).recordSets root tree) records) :
    FollowFrom schema mapping other type root tree records others where
  closed := htwo
  own := by
    unfold Naming.recordsOf
    rw [map_fst_filter_zip _ htwo.length_eq]
    exact filter_recordSets_on root tree
  renamed := by
    obtain ⟨hlength, hone⟩ := List.forall₂_iff_zip.1 hone
    obtain ⟨hlength', htwo⟩ := List.forall₂_iff_zip.1 htwo
    apply eq_map_of_map_fst_eq
    · unfold Naming.recordsBut
      rw [map_fst_filter_zip (fun set => !selectsOn schema root type set) hlength,
        map_fst_filter_zip (fun set => !selectsOn schema root type set) hlength']
      exact (filter_recordSets_eq hagree root tree).symm
    · rintro ⟨set, known⟩ hknown ⟨set', record⟩ hrecord hset
      cases hset
      have hmem := (List.mem_filter.1 hknown).1
      have hmem' := (List.mem_filter.1 hrecord).1
      exact (hone hmem).renamed hagree.symm (htwo hmem')

/-- Two mappings that differ in a type only fail alike on a tree, or tell the
same of it and give the same records: without those that close a selection on
the type, each list is the other one with the name of the type in it. -/
theorem only_the_name_of_a_renamed_type_changes (schema : Schema) (mapping other : NameMapping)
    (type : String) (hagree : AgreeBut schema type mapping other)
    (tree : SelectionTree) (root : SchemaType) :
    (∃ failure, (Naming.mk schema mapping).resolve tree root = .error failure ∧
      (Naming.mk schema other).resolve tree root = .error failure) ∨
    ∃ name response renamed, (Naming.mk schema mapping).rootType root = .ok name ∧
      (Naming.mk schema mapping).resolve tree root = .ok response ∧
      (Naming.mk schema other).resolve tree root = .ok renamed ∧
      response.warnings = renamed.warnings ∧
      FollowFrom schema mapping other type name tree response.records renamed.records ∧
      FollowFrom schema other mapping type name tree renamed.records response.records := by
  have hwarnings := Naming.map_warnings_resolve schema mapping other tree root
  cases hone : (Naming.mk schema mapping).resolve tree root with
  | error failure =>
    cases htwo : (Naming.mk schema other).resolve tree root with
    | error same =>
      rw [hone, htwo] at hwarnings
      cases hwarnings
      exact .inl ⟨failure, rfl, rfl⟩
    | ok renamed =>
      rw [hone, htwo] at hwarnings
      cases hwarnings
  | ok response =>
    cases htwo : (Naming.mk schema other).resolve tree root with
    | error failure =>
      rw [hone, htwo] at hwarnings
      cases hwarnings
    | ok renamed =>
      rw [hone, htwo] at hwarnings
      have htold : response.warnings = renamed.warnings := Except.ok.inj hwarnings
      obtain ⟨name, hroot, harvest, hwalk, rfl⟩ := Naming.resolve_eq_ok.1 hone
      obtain ⟨same, hsame, harvest', hwalk', rfl⟩ := Naming.resolve_eq_ok.1 htwo
      -- where a walk starts does not depend on the mapping
      have hstart : (.ok name : Except Failure String) = .ok same := hroot.symm.trans hsame
      cases hstart
      have hclosed := Naming.recordOn_of_walk hwalk
      have hclosed' := Naming.recordOn_of_walk hwalk'
      exact .inr ⟨name, _, _, hroot, rfl, rfl, htold, followFrom_of_closed hagree hclosed' hclosed,
        followFrom_of_closed hagree.symm hclosed hclosed'⟩

theorem only_the_name_of_the_renamed_pet_changes :
    AgreeBut peopleNaming.schema "Pet" peopleNaming.mapping .standard ∧
      ∃ name response renamed, peopleNaming.rootType (.named "Query") = .ok name ∧
        peopleNaming.resolve heroTree (.named "Query") = .ok response ∧
        (Naming.mk peopleNaming.schema .standard).resolve heroTree (.named "Query") =
          .ok renamed ∧
        response.warnings = renamed.warnings ∧
        FollowFrom peopleNaming.schema peopleNaming.mapping .standard "Pet" name heroTree
          response.records renamed.records ∧
        FollowFrom peopleNaming.schema .standard peopleNaming.mapping "Pet" name heroTree
          renamed.records response.records := by
  have hagree : AgreeBut peopleNaming.schema "Pet" peopleNaming.mapping .standard := by
    intro parent field name _ hname
    show ((NameMapping.standard.entries.insert "Pet" "crate::Pet").get? name).getD _ = _
    rw [OrderedMap.get?_insert, if_neg hname]
    rfl
  have hresolves : peopleNaming.resolve heroTree (.named "Query") = .ok heroResponse := rfl
  refine ⟨hagree, ?_⟩
  obtain ⟨failure, hfails, -⟩ | hfollows := only_the_name_of_a_renamed_type_changes
    peopleNaming.schema peopleNaming.mapping .standard "Pet" hagree heroTree (.named "Query")
  · cases hresolves.symm.trans hfails
  · exact hfollows

end Records

end OperationModels.Model
