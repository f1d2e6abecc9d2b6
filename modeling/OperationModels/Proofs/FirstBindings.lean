-- The variables that a tree of selections binds, said of the tree and the
-- schema alone: every argument given in the tree, in the order of the
-- document, and which of them a walk comes to. The laws say that a variable
-- keeps the place and the type of its first binding, however deep it lies,
-- and that a conflict is told just if two of its bindings differ in type.
import OperationModels.Proofs.BoundVariables
import OperationModels.Proofs.Selections

namespace OperationModels

/-! ## The arguments given in a tree -/

/-- A variable given to an argument somewhere in a tree: the fields that its
field lies in, outermost first, the field, and the binding. -/
structure GivenArgument where
  inside : List String
  field : String
  binding : Binding
deriving DecidableEq, Repr

namespace SelectionTree

mutual

/-- Every argument given in a tree that lies inside some fields already, those
of a field before those of the selections below it. -/
def givenArguments (inside : List String) : SelectionTree → List GivenArgument
  | .select field bindings child =>
    bindings.map (fun binding => ⟨inside, field, binding⟩) ++
      child.givenArguments (inside ++ [field])
  | .rename _ child => child.givenArguments inside
  | .group members => givenArgumentsAll inside members
  | .nothing => []
  | .unsupported _ => []

/-- Every argument given in trees, one tree after the other. -/
def givenArgumentsAll (inside : List String) : List SelectionTree → List GivenArgument
  | [] => []
  | first :: rest => first.givenArguments inside ++ givenArgumentsAll inside rest

end

mutual

/-- What is given in a tree lies where the tree does, or deeper. -/
theorem isPrefix_of_mem_givenArguments {inside : List String} (tree : SelectionTree)
    {given : GivenArgument} (h : given ∈ tree.givenArguments inside) : inside <+: given.inside := by
  cases tree with
  | select field bindings child =>
    rw [givenArguments, List.mem_append] at h
    rcases h with hown | hbelow
    · obtain ⟨binding, -, rfl⟩ := List.mem_map.1 hown
      exact List.prefix_rfl
    · have hdeeper := isPrefix_of_mem_givenArguments child hbelow
      exact (List.prefix_append inside [field]).trans hdeeper
  | rename key child =>
    rw [givenArguments] at h
    exact isPrefix_of_mem_givenArguments child h
  | group members =>
    rw [givenArguments] at h
    exact isPrefix_of_mem_givenArgumentsAll members h
  | nothing => simp [givenArguments] at h
  | unsupported construct => simp [givenArguments] at h

theorem isPrefix_of_mem_givenArgumentsAll {inside : List String} (trees : List SelectionTree)
    {given : GivenArgument} (h : given ∈ givenArgumentsAll inside trees) :
    inside <+: given.inside := by
  cases trees with
  | nil => simp [givenArgumentsAll] at h
  | cons first rest =>
    rw [givenArgumentsAll, List.mem_append] at h
    rcases h with hfirst | hrest
    · exact isPrefix_of_mem_givenArguments first hfirst
    · exact isPrefix_of_mem_givenArgumentsAll rest hrest

end

end SelectionTree

/-! ## The types that a walk enters -/

namespace Schema

/-- The type below a field, if it is composite. -/
def compositeBelow? (schema : Schema) (parent field : String) : Option String :=
  (schema.typeBelow? parent field).filter schema.isComposite

/-- The type that a walk comes to by entering fields one below the other. It
enters those of composite types and no others. -/
def entered? (schema : Schema) (root : String) (fields : List String) : Option String :=
  fields.foldlM schema.compositeBelow? root

/-- Does a walk come to the field that an argument is given to? -/
def reaches (schema : Schema) (root : String) (given : GivenArgument) : Bool :=
  (schema.entered? root given.inside).isSome

/-- The type that a given argument is declared with, at a field that a walk
comes to. -/
def argumentAt? (schema : Schema) (root : String) (given : GivenArgument) : Option SchemaType :=
  (schema.entered? root given.inside).bind (fun parent =>
    (schema.field? parent given.field).bind (fun definition =>
      definition.arguments.get? given.binding.argument))

variable {schema : Schema} {root parent : String} {inside : List String}

theorem entered?_snoc (h : schema.entered? root inside = some parent) (field : String) :
    schema.entered? root (inside ++ [field]) = schema.compositeBelow? parent field := by
  unfold entered? at *
  rw [List.foldlM_append, h]
  simp

/-- No walk comes behind a field that it does not enter. -/
theorem entered?_eq_none_of_isPrefix {deeper : List String}
    (h : schema.entered? root inside = none) (hdeeper : inside <+: deeper) :
    schema.entered? root deeper = none := by
  obtain ⟨rest, rfl⟩ := hdeeper
  unfold entered? at *
  rw [List.foldlM_append, h]
  rfl

theorem filter_reaches_own (h : schema.entered? root inside = some parent) (field : String)
    (bindings : List Binding) :
    (bindings.map (fun binding => (⟨inside, field, binding⟩ : GivenArgument))).filter
        (schema.reaches root) =
      bindings.map (fun binding => ⟨inside, field, binding⟩) := by
  rw [List.filter_eq_self]
  intro given hgiven
  obtain ⟨binding, -, rfl⟩ := List.mem_map.1 hgiven
  simp [reaches, h]

theorem filter_reaches_eq_nil (h : schema.entered? root inside = none) (tree : SelectionTree) :
    (tree.givenArguments inside).filter (schema.reaches root) = [] := by
  rw [List.filter_eq_nil_iff]
  intro given hgiven
  have hdeeper := tree.isPrefix_of_mem_givenArguments hgiven
  simp [reaches, entered?_eq_none_of_isPrefix h hdeeper]

end Schema

namespace Model

/-- A variable is what a given argument binds: it has the name of the binding
and, in models, the type that the field declares the argument with. -/
def Naming.Binds (naming : Naming) (root : String) (given : GivenArgument) (bound : Field) : Prop :=
  bound.name = given.binding.name ∧
    ∃ declared, naming.schema.argumentAt? root given = some declared ∧
      naming.typeOf? declared = some bound.type

/-! ## Variables that keep their first bindings -/

/-- No two occurrences of a name have different types. -/
def Agree (occurrences : List Field) : Prop :=
  ∀ one ∈ occurrences, ∀ other ∈ occurrences, one.name = other.name → one.type = other.type

theorem Agree.of_subset {some all : List Field} (h : Agree all) (hsub : some ⊆ all) :
    Agree some := by
  intro one hone other hother hname
  exact h one (hsub hone) other (hsub hother) hname

/-- Occurrences agree if each of them has one like it among some that agree. -/
theorem Agree.of_alike {some all : List Field} (h : Agree some)
    (halike : ∀ one ∈ all, ∃ like ∈ some, like.name = one.name ∧ like.type = one.type) :
    Agree all := by
  intro one hone other hother hname
  obtain ⟨like, hlike, hlikeName, hlikeType⟩ := halike one hone
  obtain ⟨same, hsame, hsameName, hsameType⟩ := halike other hother
  have hnames : like.name = same.name := by rw [hlikeName, hsameName, hname]
  rw [← hlikeType, ← hsameType]
  exact h like hlike same hsame hnames

/-- One more occurrence must agree with those before it. -/
theorem agree_snoc_iff (occurrences : List Field) (last : Field) :
    Agree (occurrences ++ [last]) ↔ Agree occurrences ∧
      ∀ occurrence ∈ occurrences, occurrence.name = last.name → occurrence.type = last.type := by
  constructor
  · intro h
    refine ⟨h.of_subset (List.subset_append_left _ _), ?_⟩
    intro occurrence hmem hname
    exact h occurrence (List.mem_append_left _ hmem) last (by simp) hname
  · rintro ⟨hagree, hlast⟩ one hone other hother hname
    rw [List.mem_append, List.mem_singleton] at hone hother
    rcases hone with hone | rfl <;> rcases hother with hother | rfl
    · exact hagree one hone other hother hname
    · exact hlast one hone hname
    · exact (hlast other hother hname.symm).symm
    · rfl

namespace Bound

/-- Bound variables keep the first of some occurrences: their names are those
of the occurrences, each once and in order, each variable is the first
occurrence of its name, and nothing is told just if the occurrences agree. -/
structure Keeps (bound : Bound) (occurrences : List Field) : Prop where
  names : bound.names = (occurrences.map Field.name).eraseDups
  firsts : ∀ kept ∈ bound.fields,
    occurrences.find? (fun occurrence => occurrence.name = kept.name) = some kept
  told : bound.warnings = [] ↔ Agree occurrences

namespace Keeps

variable {bound : Bound} {occurrences : List Field}

theorem mem_names_iff (h : bound.Keeps occurrences) (name : String) :
    name ∈ bound.names ↔ name ∈ occurrences.map Field.name := by
  rw [h.names, List.mem_eraseDups]

theorem subset (h : bound.Keeps occurrences) : bound.fields ⊆ occurrences := by
  intro kept hkept
  exact List.mem_of_find?_eq_some (h.firsts kept hkept)

theorem exists_kept (h : bound.Keeps occurrences) {occurrence : Field}
    (hmem : occurrence ∈ occurrences) : ∃ kept ∈ bound.fields, kept.name = occurrence.name := by
  have hname : occurrence.name ∈ bound.names := by
    rw [h.mem_names_iff]
    exact List.mem_map_of_mem hmem
  exact List.mem_map.1 hname

/-- Looking a name up among the variables finds its first occurrence. -/
theorem find?_eq (h : bound.Keeps occurrences) (name : String) :
    bound.fields.find? (fun known => known.name = name) =
      occurrences.find? (fun occurrence => occurrence.name = name) := by
  cases hf : bound.fields.find? (fun known => known.name = name) with
  | none =>
    have hnew := (bound.find?_eq_none_iff name).1 hf
    rw [h.mem_names_iff] at hnew
    symm
    rw [List.find?_eq_none]
    intro occurrence hmem hname
    apply hnew
    simp only [decide_eq_true_eq] at hname
    rw [← hname]
    exact List.mem_map_of_mem hmem
  | some known =>
    have hname : known.name = name := by simpa using List.find?_some hf
    rw [← hname]
    exact (h.firsts known (List.mem_of_find?_eq_some hf)).symm

end Keeps

/-! ## One more binding -/

theorem warnings_push_eq_nil_iff (bound : Bound) (binding : Field) :
    (bound.push binding).warnings = [] ↔ bound.warnings = [] ∧
      ∀ known, bound.fields.find? (fun known => known.name = binding.name) = some known →
        known.type = binding.type := by
  unfold push
  cases hf : bound.fields.find? (fun known => known.name = binding.name) with
  | none => simp
  | some known =>
    by_cases hsame : known.type = binding.type <;> simp [hsame]

theorem keeps_none : Bound.none.Keeps [] where
  names := rfl
  firsts := by intro kept hkept; cases hkept
  told := by simp [none, Agree]

theorem Keeps.push {bound : Bound} {occurrences : List Field} (h : bound.Keeps occurrences)
    (binding : Field) : (bound.push binding).Keeps (occurrences ++ [binding]) where
  names := by
    have hnames : (bound.push binding).names =
        if binding.name ∈ bound.names then bound.names else bound.names ++ [binding.name] := by
      unfold Bound.names
      rw [fields_push]
      unfold Bound.names
      split
      · rfl
      · simp
    rw [hnames, h.names, List.map_append, List.map_singleton, eraseDups_snoc]
    simp only [List.mem_eraseDups]
  firsts := by
    intro kept hkept
    rw [fields_push] at hkept
    rw [List.find?_append]
    by_cases hknown : binding.name ∈ bound.names
    · rw [if_pos hknown] at hkept
      rw [h.firsts kept hkept, Option.some_or]
    · rw [if_neg hknown, List.mem_append, List.mem_singleton] at hkept
      rcases hkept with hkept | rfl
      · rw [h.firsts kept hkept, Option.some_or]
      · rw [← h.find?_eq, (bound.find?_eq_none_iff kept.name).2 hknown]
        simp
  told := by
    rw [warnings_push_eq_nil_iff, h.told, agree_snoc_iff]
    refine and_congr_right fun hagree => ?_
    constructor
    · intro hknown occurrence hmem hname
      obtain ⟨kept, hkept, hkeptName⟩ := h.exists_kept hmem
      have hfind := h.firsts kept hkept
      rw [← h.find?_eq, hkeptName, hname] at hfind
      rw [← hagree kept (h.subset hkept) occurrence hmem hkeptName]
      exact hknown kept hfind
    · intro hoccurrence known hfind
      have hname : known.name = binding.name := by simpa using List.find?_some hfind
      exact hoccurrence known (h.subset (List.mem_of_find?_eq_some hfind)) hname

theorem Keeps.foldl_push {bound : Bound} {occurrences : List Field}
    (h : bound.Keeps occurrences) (bindings : List Field) :
    (bindings.foldl Bound.push bound).Keeps (occurrences ++ bindings) := by
  induction bindings generalizing bound occurrences with
  | nil => simpa using h
  | cons binding rest ih => simpa using ih (h.push binding)

/-! ## One part after another -/

/-- What was told before is told before all else. -/
theorem foldl_push_mk (bindings fields : List Field) (told : List Warning) :
    bindings.foldl push ⟨fields, told⟩ =
      ⟨(bindings.foldl push ⟨fields, []⟩).fields,
        told ++ (bindings.foldl push ⟨fields, []⟩).warnings⟩ := by
  induction bindings generalizing fields told with
  | nil => simp
  | cons binding rest ih =>
    have hstep : ∀ told, push ⟨fields, told⟩ binding =
        ⟨(push ⟨fields, []⟩ binding).fields, told ++ (push ⟨fields, []⟩ binding).warnings⟩ := by
      intro told
      unfold push
      dsimp only
      split
      · simp
      · split <;> simp
    rw [List.foldl_cons, List.foldl_cons, hstep told, ih]
    conv_rhs => rw [hstep [], ih]
    simp

theorem fields_merge (first second : Bound) :
    (first.merge second).fields = (second.fields.foldl push first).fields := by
  show (second.fields.foldl push ⟨first.fields, _⟩).fields =
    (second.fields.foldl push ⟨first.fields, first.warnings⟩).fields
  rw [foldl_push_mk, foldl_push_mk second.fields first.fields first.warnings]

theorem warnings_merge_eq_nil_iff (first second : Bound) :
    (first.merge second).warnings = [] ↔
      (second.fields.foldl push first).warnings = [] ∧ second.warnings = [] := by
  show (second.fields.foldl push ⟨first.fields, first.warnings ++ second.warnings⟩).warnings = [] ↔
    (second.fields.foldl push ⟨first.fields, first.warnings⟩).warnings = [] ∧ _
  rw [foldl_push_mk, foldl_push_mk second.fields first.fields first.warnings]
  simp only [List.append_eq_nil_iff]
  tauto

/-- What a part keeps agrees with other occurrences, and the part with itself,
just if all that it has come across agrees with these. -/
theorem Keeps.agree_append_iff {bound : Bound} {before after : List Field}
    (h : bound.Keeps after) :
    Agree (before ++ bound.fields) ∧ Agree after ↔ Agree (before ++ after) := by
  constructor
  · rintro ⟨hkept, hafter⟩
    refine hkept.of_alike ?_
    intro one hone
    rcases List.mem_append.1 hone with hbefore | hdropped
    · exact ⟨one, List.mem_append_left _ hbefore, rfl, rfl⟩
    · -- an occurrence that was dropped is like the one kept in its place
      obtain ⟨kept, hmem, hname⟩ := h.exists_kept hdropped
      have htype := hafter kept (h.subset hmem) one hdropped hname
      exact ⟨kept, List.mem_append_right _ hmem, hname, htype⟩
  · intro hagree
    have hkept : before ++ bound.fields ⊆ before ++ after :=
      List.append_subset.2 ⟨List.subset_append_left _ _,
        List.Subset.trans h.subset (List.subset_append_right _ _)⟩
    exact ⟨hagree.of_subset hkept, hagree.of_subset (List.subset_append_right _ _)⟩

/-- Merging two parts keeps the first occurrences of both together, although
the second part has dropped occurrences of its own already. -/
theorem Keeps.merge {first second : Bound} {before after : List Field} (hfirst : first.Keeps before)
    (hsecond : second.Keeps after) : (first.merge second).Keeps (before ++ after) where
  names := by
    have hnames := (hfirst.foldl_push second.fields).names
    have hafter : second.fields.map Field.name = (after.map Field.name).eraseDups := hsecond.names
    unfold Bound.names at *
    rw [fields_merge, hnames, List.map_append, hafter, eraseDups_append_eraseDups, List.map_append]
  firsts := by
    intro kept hkept
    rw [fields_merge] at hkept
    have hfind := (hfirst.foldl_push second.fields).firsts kept hkept
    rwa [List.find?_append, hsecond.find?_eq, ← List.find?_append] at hfind
  told := by
    rw [warnings_merge_eq_nil_iff, (hfirst.foldl_push second.fields).told, hsecond.told,
      hsecond.agree_append_iff]

end Bound

/-! ## One step of a walk -/

theorem Naming.bind_eq_ok_iff {naming : Naming} {parent field : String}
    {signature : OrderedMap String SchemaType} {binding : Binding} {bound : Field} :
    naming.bind parent field signature binding = .ok bound ↔
      bound.name = binding.name ∧ ∃ declared, signature.get? binding.argument = some declared ∧
        naming.typeOf? declared = some bound.type := by
  unfold Naming.bind
  obtain ⟨name, type⟩ := bound
  cases signature.get? binding.argument with
  | none => simp
  | some declared =>
    cases ht : naming.typeOf? declared with
    | none => simp [ht]
    | some known =>
      simp only [Except.ok.injEq, Field.mk.injEq, Option.some.injEq, exists_eq_left', ht]
      exact and_congr_left fun _ => eq_comm

/-- The variables of one field are what is given to its arguments. -/
theorem Naming.binds_of_bindAll {naming : Naming} {root parent field : String}
    {inside : List String} {definition : FieldDefinition} {bindings : List Binding}
    {own : List Field} (hat : naming.schema.entered? root inside = some parent)
    (hfield : naming.schema.field? parent field = some definition)
    (h : naming.bindAll parent field definition.arguments bindings = .ok own) :
    List.Forall₂ (naming.Binds root)
      (bindings.map (fun binding => ⟨inside, field, binding⟩)) own := by
  unfold Naming.bindAll at h
  rw [mapM_eq_ok] at h
  rw [List.forall₂_map_left_iff]
  refine h.imp ?_
  intro binding bound hbind
  obtain ⟨hname, declared, hdeclared, htype⟩ := Naming.bind_eq_ok_iff.1 hbind
  refine ⟨hname, declared, ?_, htype⟩
  simpa [Schema.argumentAt?, hat, hfield] using hdeclared

theorem Schema.compositeBelow?_of_field? {schema : Schema} {parent field : String}
    {definition : FieldDefinition} (h : schema.field? parent field = some definition) :
    schema.compositeBelow? parent field =
      definition.type.underlying?.filter schema.isComposite := by
  unfold Schema.compositeBelow? Schema.typeBelow? Schema.fieldType
  rw [h]
  rfl

/-! ## A whole walk -/

mutual

/-- A walk gives the variables that keep the first of what it comes to. -/
theorem Naming.keeps_of_collect {naming : Naming} {root parent : String} {inside : List String}
    (hat : naming.schema.entered? root inside = some parent) (tree : SelectionTree) {bound : Bound}
    (h : naming.collect parent tree = .ok bound) :
    ∃ occurrences,
      List.Forall₂ (naming.Binds root)
        ((tree.givenArguments inside).filter (naming.schema.reaches root)) occurrences ∧
      bound.Keeps occurrences := by
  cases tree with
  | select field bindings child =>
    obtain ⟨definition, hfield, own, hown, hcase⟩ := Naming.collect_select_eq_ok.1 h
    have hbelow := Schema.entered?_snoc hat field
    rw [Schema.compositeBelow?_of_field? hfield] at hbelow
    have hbinds := Naming.binds_of_bindAll hat hfield hown
    have hkeeps : (own.foldl Bound.push .none).Keeps own := by
      simpa using Bound.keeps_none.foldl_push own
    rw [SelectionTree.givenArguments, List.filter_append, Schema.filter_reaches_own hat]
    rcases hcase with ⟨type, htype, hcomposite, below, hcollect, rfl⟩ | ⟨hleaf, rfl⟩
    · have hentered : naming.schema.entered? root (inside ++ [field]) = some type := by
        rw [hbelow, htype]
        simp [Option.filter, hcomposite]
      obtain ⟨deeper, hdeeper, hkept⟩ := Naming.keeps_of_collect hentered child hcollect
      exact ⟨own ++ deeper, List.rel_append hbinds hdeeper, hkeeps.merge hkept⟩
    · -- the walk does not enter the field, so nothing below it is reached
      have hclosed : naming.schema.entered? root (inside ++ [field]) = none := by
        rw [hbelow]
        cases htype : definition.type.underlying? with
        | none => rfl
        | some type => simp [Option.filter, hleaf type htype]
      rw [Schema.filter_reaches_eq_nil hclosed, List.append_nil]
      exact ⟨own, hbinds, hkeeps⟩
  | rename key child =>
    rw [Naming.collect] at h
    rw [SelectionTree.givenArguments]
    exact Naming.keeps_of_collect hat child h
  | group members =>
    rw [Naming.collect] at h
    rw [SelectionTree.givenArguments]
    exact Naming.keeps_of_collectAll hat members Bound.keeps_none h
  | nothing =>
    rw [Naming.collect, pure_eq_ok] at h
    subst h
    exact ⟨[], .nil, Bound.keeps_none⟩
  | unsupported construct =>
    rw [Naming.collect, pure_eq_ok] at h
    subst h
    exact ⟨[], .nil, Bound.keeps_none⟩

theorem Naming.keeps_of_collectAll {naming : Naming} {root parent : String}
    {inside : List String} (hat : naming.schema.entered? root inside = some parent)
    (trees : List SelectionTree) {known bound : Bound} {before : List Field}
    (hknown : known.Keeps before) (h : naming.collectAll parent known trees = .ok bound) :
    ∃ occurrences,
      List.Forall₂ (naming.Binds root)
        ((SelectionTree.givenArgumentsAll inside trees).filter (naming.schema.reaches root))
        occurrences ∧
      bound.Keeps (before ++ occurrences) := by
  cases trees with
  | nil =>
    rw [Naming.collectAll, pure_eq_ok] at h
    subst h
    exact ⟨[], .nil, by simpa using hknown⟩
  | cons first rest =>
    obtain ⟨here, hhere, hrest⟩ := Naming.collectAll_cons_eq_ok.1 h
    obtain ⟨own, hown, hkept⟩ := Naming.keeps_of_collect hat first hhere
    -- what is known grows by the first tree before the rest is walked
    obtain ⟨later, hlater, hall⟩ := Naming.keeps_of_collectAll hat rest (hknown.merge hkept) hrest
    rw [SelectionTree.givenArgumentsAll, List.filter_append]
    rw [List.append_assoc] at hall
    exact ⟨own ++ later, List.rel_append hown hlater, hall⟩

end

/-- A variable that is kept has the type of the first argument that it is given
to. -/
theorem Bound.Keeps.exists_given {naming : Naming} {root : String} {given : List GivenArgument}
    {bound : Bound} {occurrences : List Field} (h : bound.Keeps occurrences)
    (hbinds : List.Forall₂ (naming.Binds root) given occurrences) {kept : Field}
    (hkept : kept ∈ bound.fields) :
    ∃ first declared,
      given.find? (fun argument => argument.binding.name = kept.name) = some first ∧
        naming.schema.argumentAt? root first = some declared ∧
        naming.typeOf? declared = some kept.type := by
  have hnames : ∀ argument occurrence, naming.Binds root argument occurrence →
      decide (argument.binding.name = kept.name) = decide (occurrence.name = kept.name) := by
    intro argument occurrence hbind
    rw [hbind.1]
  obtain ⟨first, hfirst, -, declared, hdeclared, htype⟩ :=
    exists_find?_of_forall₂ hbinds hnames (h.firsts kept hkept)
  exact ⟨first, declared, hfirst, hdeclared, htype⟩

theorem Naming.boundVariables_eq_ok {naming : Naming} {tree : SelectionTree} {root : SchemaType}
    {bound : Bound} :
    naming.boundVariables tree root = .ok bound ↔
      ∃ name, naming.rootType root = .ok name ∧ naming.collect name tree = .ok bound := by
  rw [Naming.boundVariables, bind_eq_ok]

/-! ## The law -/

/-- The bound variables of a tree are what its arguments are given, as far as a
walk comes to them, each name once: at the place of its first binding and with
the type of the argument there. Nothing is told just if all bindings of each
name have one type. -/
theorem each_variable_keeps_its_first_binding (naming : Naming) (tree : SelectionTree)
    (root : SchemaType) (bound : Bound) (h : naming.boundVariables tree root = .ok bound) :
    ∃ name occurrences, naming.rootType root = .ok name ∧
      List.Forall₂ (naming.Binds name)
        ((tree.givenArguments []).filter (naming.schema.reaches name)) occurrences ∧
      bound.names = (occurrences.map Field.name).eraseDups ∧ bound.names.Nodup ∧
      (∀ kept ∈ bound.fields,
        occurrences.find? (fun occurrence => occurrence.name = kept.name) = some kept) ∧
      (bound.warnings = [] ↔
        ∀ one ∈ occurrences, ∀ other ∈ occurrences, one.name = other.name →
          one.type = other.type) := by
  obtain ⟨name, hroot, hcollect⟩ := Naming.boundVariables_eq_ok.1 h
  have hstart : naming.schema.entered? name [] = some name := rfl
  obtain ⟨occurrences, hbinds, hkeeps⟩ := Naming.keeps_of_collect hstart tree hcollect
  have hnodup := Naming.nodup_of_boundVariables h
  exact ⟨name, occurrences, hroot, hbinds, hkeeps.names, hnodup, hkeeps.firsts, hkeeps.told⟩

/-- Books, some of them like others. -/
def booksNaming : Naming where
  schema :=
    [⟨"Query", .object, .ofList
        [("books", ⟨.list (.named "Book"),
          .ofList [("by", .named "ID"), ("first", .nullable (.named "Int"))]⟩),
        ("count", ⟨.named "Int", .ofList [("by", .nullable (.named "ID"))]⟩)]⟩,
      ⟨"Book", .object, .ofList
        [("similar", ⟨.list (.named "Book"), .ofList [("first", .named "Int")]⟩),
        ("title", ⟨.named "String", .ofList [("in", .nullable (.named "Language"))]⟩)]⟩].foldl
        (fun schema definition => (schema.insert definition).2) .builtIn
  mapping := .standard

/-- Books with similar ones, twice, and a count in which something is selected
that no walk comes to. -/
def booksTree : SelectionTree :=
  .group
    [.select "books" [⟨"by", "author"⟩, ⟨"first", "n"⟩] (.group
      [.select "similar" [⟨"first", "n"⟩] (.select "title" [⟨"in", "author"⟩] .nothing),
        .rename "more" (.select "similar" [⟨"first", "m"⟩] (.select "title" [] .nothing))]),
      .select "count" [⟨"by", "author"⟩] (.select "title" [⟨"in", "language"⟩] .nothing)]

/-- The variables that the books are asked for with. Three bindings do not
have the type of the first one of their variable. -/
def booksBound : Bound :=
  ⟨[⟨"author", .named "String"⟩, ⟨"n", .optional (.named "i32")⟩, ⟨"m", .named "i32"⟩],
    [.variableConflict "n" (.optional (.named "i32")), .variableConflict "author" (.named "String"),
      .variableConflict "author" (.named "String")]⟩

theorem each_variable_of_the_books_keeps_its_first_binding :
    booksNaming.boundVariables booksTree (.named "Query") = .ok booksBound ∧
      ∃ name occurrences, booksNaming.rootType (.named "Query") = .ok name ∧
        List.Forall₂ (booksNaming.Binds name)
          ((booksTree.givenArguments []).filter (booksNaming.schema.reaches name)) occurrences ∧
        booksBound.names = (occurrences.map Field.name).eraseDups ∧ booksBound.names.Nodup ∧
        (∀ kept ∈ booksBound.fields,
          occurrences.find? (fun occurrence => occurrence.name = kept.name) = some kept) ∧
        (booksBound.warnings = [] ↔
          ∀ one ∈ occurrences, ∀ other ∈ occurrences, one.name = other.name →
            one.type = other.type) := by
  have h : booksNaming.boundVariables booksTree (.named "Query") = .ok booksBound := rfl
  exact ⟨h, each_variable_keeps_its_first_binding _ _ _ _ h⟩

end Model

end OperationModels
