-- What is told of variables that are bound with different types. A conflict is
-- told where two parts of a tree are put together, and it names the type that
-- the variable has among the parts known there. The laws say when that is the
-- type that the variable has in the end: always for the last that is told of a
-- variable, and for all that is told just if no part of the tree has a conflict
-- of its own about a variable that an earlier part binds with another type.
import OperationModels.Proofs.FirstBindings

namespace OperationModels

open Model

/-! ## Parts of a tree -/

/-- A tree inside a tree, and the fields that it lies inside, outermost first. -/
structure Subtree where
  inside : List String
  tree : SelectionTree

namespace SelectionTree

mutual

/-- Every tree inside a tree that lies inside some fields already, itself first. -/
def subtrees (inside : List String) : SelectionTree → List Subtree
  | .select field bindings child =>
    ⟨inside, .select field bindings child⟩ :: child.subtrees (inside ++ [field])
  | .rename key child => ⟨inside, .rename key child⟩ :: child.subtrees inside
  | .group members => ⟨inside, .group members⟩ :: subtreesAll inside members
  | .nothing => [⟨inside, .nothing⟩]
  | .unsupported construct => [⟨inside, .unsupported construct⟩]

/-- The same of trees, one tree after the other. -/
def subtreesAll (inside : List String) : List SelectionTree → List Subtree
  | [] => []
  | first :: rest => first.subtrees inside ++ subtreesAll inside rest

end

theorem mem_subtrees_self (inside : List String) (tree : SelectionTree) :
    ⟨inside, tree⟩ ∈ tree.subtrees inside := by
  cases tree <;> simp [subtrees]

mutual

theorem isPrefix_of_mem_subtrees {inside : List String} (tree : SelectionTree) {part : Subtree}
    (h : part ∈ tree.subtrees inside) : inside <+: part.inside := by
  cases tree with
  | select field bindings child =>
    rw [subtrees, List.mem_cons] at h
    rcases h with rfl | hbelow
    · exact List.prefix_rfl
    · have hdeeper := isPrefix_of_mem_subtrees child hbelow
      exact (List.prefix_append inside [field]).trans hdeeper
  | rename key child =>
    rw [subtrees, List.mem_cons] at h
    rcases h with rfl | hbelow
    · exact List.prefix_rfl
    · exact isPrefix_of_mem_subtrees child hbelow
  | group members =>
    rw [subtrees, List.mem_cons] at h
    rcases h with rfl | hbelow
    · exact List.prefix_rfl
    · exact isPrefix_of_mem_subtreesAll members hbelow
  | nothing =>
    simp only [subtrees, List.mem_singleton] at h
    exact h ▸ List.prefix_rfl
  | unsupported construct =>
    simp only [subtrees, List.mem_singleton] at h
    exact h ▸ List.prefix_rfl

theorem isPrefix_of_mem_subtreesAll {inside : List String} (trees : List SelectionTree)
    {part : Subtree} (h : part ∈ subtreesAll inside trees) : inside <+: part.inside := by
  cases trees with
  | nil => simp [subtreesAll] at h
  | cons first rest =>
    rw [subtreesAll, List.mem_append] at h
    rcases h with hfirst | hrest
    · exact isPrefix_of_mem_subtrees first hfirst
    · exact isPrefix_of_mem_subtreesAll rest hrest

end

end SelectionTree

namespace Model

/-! ## The bindings of a part -/

/-- The variable that a given argument binds, if a walk comes to it. -/
def Naming.bindingOf? (naming : Naming) (root : String) (given : GivenArgument) : Option Field :=
  (naming.schema.argumentAt? root given).bind (fun declared =>
    (naming.typeOf? declared).map (fun type => ⟨given.binding.name, type⟩))

/-- The bindings that a walk comes to in a part of a tree, in order. -/
def Naming.bindingsIn (naming : Naming) (root : String) (part : Subtree) : List Field :=
  (part.tree.givenArguments part.inside).filterMap (naming.bindingOf? root)

/-- The types that a variable is bound with, in order. -/
def typesBound (bindings : List Field) (name : String) : List FieldType :=
  (bindings.filter (fun binding => binding.name = name)).map Field.type

/-- The types that a part binds a variable with suit the type that it keeps in
the end: they begin with it, or they are all the same. -/
def Suits (kept : Option FieldType) (types : List FieldType) : Prop :=
  types.head? = kept ∨ ∀ one ∈ types, ∀ other ∈ types, one = other

theorem typesBound_append (before after : List Field) (name : String) :
    typesBound (before ++ after) name =
      typesBound before name ++ typesBound after name := by
  unfold typesBound
  rw [List.filter_append, List.map_append]

theorem head?_typesBound (bindings : List Field) (name : String) :
    (typesBound bindings name).head? =
      (bindings.find? (fun binding => binding.name = name)).map Field.type := by
  unfold typesBound
  rw [List.head?_map, List.head?_filter]

theorem suits_nil (kept : Option FieldType) : Suits kept [] := .inr (by simp)

theorem suits_cons_iff {kept : Option FieldType} {first : FieldType} {rest : List FieldType} :
    Suits kept (first :: rest) ↔ some first = kept ∨ ∀ type ∈ rest, type = first := by
  unfold Suits
  rw [List.head?_cons]
  apply or_congr_right
  constructor
  · intro h type htype
    exact h type (List.mem_cons_of_mem _ htype) first List.mem_cons_self
  · intro h one hone other hother
    have hfirst : ∀ type ∈ first :: rest, type = first := by simpa using h
    rw [hfirst one hone, hfirst other hother]

/-- Types that suit are all like a type that is not kept, if the first of them is. -/
theorem Suits.all_eq {kept : Option FieldType} {types : List FieldType} (h : Suits kept types)
    {first : FieldType} (hkept : some first ≠ kept)
    (hhead : ∀ other, types.head? = some other → other = first) : ∀ type ∈ types, type = first := by
  cases types with
  | nil => simp
  | cons second others =>
    have hsecond : second = first := hhead second List.head?_cons
    subst hsecond
    rcases suits_cons_iff.1 h with heq | hall
    · exact absurd heq hkept
    · simpa using hall

/-- Types behind others suit together with these if the others do, and if a
difference between the two in front is told with the type kept in the end. -/
theorem suits_append_iff {kept : Option FieldType} {before after : List FieldType}
    (hafter : Suits kept after) :
    Suits kept (before ++ after) ↔ Suits kept before ∧
      ∀ known other, before.head? = some known → after.head? = some other → other ≠ known →
        kept = some known := by
  cases before with
  | nil => simp [suits_nil, hafter]
  | cons first rest =>
    rw [List.cons_append, suits_cons_iff, suits_cons_iff, List.forall_mem_append]
    by_cases hkept : some first = kept
    · simp +contextual [hkept]
    · have htold : (∀ known other, (first :: rest).head? = some known → after.head? = some other →
          other ≠ known → kept = some known) ↔
          ∀ other, after.head? = some other → other = first := by
        constructor
        · intro h other hother
          by_contra hne
          exact hkept (h first other List.head?_cons hother hne).symm
        · rintro h known other ⟨⟩ hother hne
          exact absurd (h other hother) hne
      have hall : (∀ type ∈ after, type = first) ↔
          ∀ other, after.head? = some other → other = first :=
        ⟨fun h other hother => h other (List.mem_of_head? hother), hafter.all_eq hkept⟩
      rw [htold, ← hall]
      simp [hkept]

/-! ## What is told of a variable -/

end Model

/-- The type that a warning says a variable keeps, if it is about that variable. -/
def Warning.keptFor? (name : String) : Warning → Option FieldType
  | .variableConflict about kept => if about = name then some kept else none
  | _ => none

theorem Warning.keptFor?_eq_some_iff {name : String} {warning : Warning} {kept : FieldType} :
    warning.keptFor? name = some kept ↔ warning = .variableConflict name kept := by
  cases warning with
  | variableConflict about type =>
    by_cases hname : about = name <;> simp [keptFor?, hname]
  | _ => simp [keptFor?]

namespace Model.Bound

/-- The types that a variable is said to keep, in the order of the warnings. -/
def told (bound : Bound) (name : String) : List FieldType :=
  bound.warnings.filterMap (Warning.keptFor? name)

/-- The type that a variable has. -/
def kept (bound : Bound) (name : String) : Option FieldType :=
  (bound.fields.find? (fun known => known.name = name)).map Field.type

/-- What is told of one more binding: the type of its variable, if it is another. -/
def conflict? (bound : Bound) (binding : Field) : Option Warning :=
  (bound.fields.find? (fun known => known.name = binding.name)).bind (fun known =>
    if known.type = binding.type then Option.none
    else some (.variableConflict binding.name known.type))

/-- What a merge says that a variable keeps, because both parts have it. -/
def toldBetween (first second : Bound) (name : String) : List FieldType :=
  (second.fields.filterMap first.conflict?).filterMap (Warning.keptFor? name)

theorem mem_told_iff {bound : Bound} {name : String} {type : FieldType} :
    type ∈ bound.told name ↔ .variableConflict name type ∈ bound.warnings := by
  unfold told
  simp only [List.mem_filterMap, Warning.keptFor?_eq_some_iff, exists_eq_right]

theorem mem_fields_iff_kept {bound : Bound} {occurrences : List Field}
    (h : bound.Keeps occurrences) {name : String} {type : FieldType} :
    ⟨name, type⟩ ∈ bound.fields ↔ bound.kept name = some type := by
  unfold kept
  constructor
  · intro hmem
    rw [h.find?_eq, h.firsts _ hmem, Option.map_some]
  · intro hkept
    obtain ⟨known, hfind, rfl⟩ := Option.map_eq_some_iff.1 hkept
    have hname : known.name = name := by simpa using List.find?_some hfind
    subst hname
    exact List.mem_of_find?_eq_some hfind

theorem Keeps.kept_eq {bound : Bound} {occurrences : List Field} (h : bound.Keeps occurrences)
    (name : String) : bound.kept name = (typesBound occurrences name).head? := by
  unfold kept
  rw [h.find?_eq, head?_typesBound]

/-! ## What a merge tells -/

theorem warnings_push (bound : Bound) (binding : Field) :
    (bound.push binding).warnings = bound.warnings ++ (bound.conflict? binding).toList := by
  unfold push conflict?
  cases bound.fields.find? (fun known => known.name = binding.name) with
  | none => simp
  | some known => by_cases hsame : known.type = binding.type <;> simp [hsame]

/-- A binding does not change what is told of bindings of other variables. -/
theorem conflict?_push_of_ne (bound : Bound) {binding other : Field}
    (h : binding.name ≠ other.name) :
    (bound.push binding).conflict? other = bound.conflict? other := by
  unfold conflict?
  rw [fields_push]
  split
  · rfl
  · simp [List.find?_append, h]

theorem warnings_foldl_push (bindings : List Field) (hnodup : (bindings.map Field.name).Nodup)
    (bound : Bound) :
    (bindings.foldl push bound).warnings =
      bound.warnings ++ bindings.filterMap bound.conflict? := by
  induction bindings generalizing bound with
  | nil => simp
  | cons binding rest ih =>
    rw [List.map_cons, List.nodup_cons] at hnodup
    have hrest : rest.filterMap (bound.push binding).conflict? =
        rest.filterMap bound.conflict? := by
      apply List.filterMap_congr
      intro other hother
      apply conflict?_push_of_ne
      intro hname
      exact hnodup.1 (hname ▸ List.mem_map_of_mem hother)
    rw [List.foldl_cons, ih hnodup.2, warnings_push, hrest, List.append_assoc]
    cases hconflict : bound.conflict? binding <;> simp [hconflict]

theorem told_merge {first second : Bound} (hnodup : second.names.Nodup) (name : String) :
    (first.merge second).told name =
      first.told name ++ second.told name ++ first.toldBetween second name := by
  unfold told merge toldBetween
  rw [warnings_foldl_push second.fields hnodup, List.filterMap_append, List.filterMap_append]
  rfl

theorem conflict?_eq_some_iff {bound : Bound} {binding : Field} {name : String}
    {type : FieldType} :
    bound.conflict? binding = some (.variableConflict name type) ↔
      binding.name = name ∧ bound.kept name = some type ∧ binding.type ≠ type := by
  unfold conflict? kept
  constructor
  · intro hconflict
    obtain ⟨known, hknown, hdiffers⟩ := Option.bind_eq_some_iff.1 hconflict
    by_cases hsame : known.type = binding.type
    · simp [hsame] at hdiffers
    · simp only [if_neg hsame, Option.some.injEq, Warning.variableConflict.injEq] at hdiffers
      obtain ⟨rfl, rfl⟩ := hdiffers
      exact ⟨rfl, by rw [hknown, Option.map_some], Ne.symm hsame⟩
  · rintro ⟨rfl, hkept, hne⟩
    obtain ⟨known, hknown, rfl⟩ := Option.map_eq_some_iff.1 hkept
    rw [hknown, Option.bind_some, if_neg (Ne.symm hne)]

/-- A merge tells of a variable that both parts have with different types, and
names the type of the first part. -/
theorem mem_toldBetween_iff {first second : Bound} {occurrences : List Field}
    (h : second.Keeps occurrences) {name : String} {type : FieldType} :
    type ∈ first.toldBetween second name ↔
      first.kept name = some type ∧ ∃ other, second.kept name = some other ∧ other ≠ type := by
  unfold toldBetween
  simp only [List.mem_filterMap, Warning.keptFor?_eq_some_iff, exists_eq_right,
    conflict?_eq_some_iff, ← mem_fields_iff_kept h]
  constructor
  · rintro ⟨⟨_, other⟩, hbinding, rfl, hfirst, hne⟩
    exact ⟨hfirst, other, hbinding, hne⟩
  · rintro ⟨hfirst, other, hbinding, hne⟩
    exact ⟨⟨name, other⟩, hbinding, rfl, hfirst, hne⟩

theorem kept_merge {first second : Bound} {before after : List Field} (hfirst : first.Keeps before)
    (hsecond : second.Keeps after) (name : String) :
    (first.merge second).kept name = (first.kept name).or (second.kept name) := by
  rw [(hfirst.merge hsecond).kept_eq, hfirst.kept_eq, hsecond.kept_eq, typesBound_append,
    List.head?_append]

/-! ## What holds of all that is told -/

/-- Bound variables that keep the first of some bindings, and what is told of
them. The last that is told of a variable is the type that it has. All that is
told of it is one type kept in the end just if this suits the bindings, and
some parts inside that tell of it too. -/
structure Reports (bound : Bound) (occurrences : List Field)
    (inner : String → Option FieldType → Prop) : Prop where
  nodup : bound.names.Nodup
  keeps : bound.Keeps occurrences
  last : ∀ name type, (bound.told name).getLast? = some type → bound.kept name = some type
  truth : ∀ name final, (∀ type ∈ bound.told name, final = some type) ↔
    inner name final ∧ Suits final (typesBound occurrences name)

theorem reports_none : Bound.none.Reports [] (fun _ _ => True) where
  nodup := nodup_none
  keeps := keeps_none
  last := by simp [told, none]
  truth := by simp [told, none, typesBound, suits_nil]

theorem Reports.congr {bound : Bound} {occurrences : List Field}
    {inner other : String → Option FieldType → Prop} (h : bound.Reports occurrences inner)
    (hiff : ∀ name final, Suits final (typesBound occurrences name) →
      (inner name final ↔ other name final)) : bound.Reports occurrences other where
  nodup := h.nodup
  keeps := h.keeps
  last := h.last
  truth := by
    intro name final
    rw [h.truth name final]
    exact and_congr_left (hiff name final)

/-- What was last told of a variable stays right when two parts are merged. -/
theorem last_told_merge {first second : Bound} {before after : List Field}
    {P Q : String → Option FieldType → Prop} (hfirst : first.Reports before P)
    (hsecond : second.Reports after Q) {name : String} {type : FieldType}
    (h : ((first.merge second).told name).getLast? = some type) :
    (first.merge second).kept name = some type := by
  rw [kept_merge hfirst.keeps hsecond.keeps]
  rw [told_merge hsecond.nodup, List.getLast?_append] at h
  cases hbetween : (first.toldBetween second name).getLast? with
  | some told =>
    -- the merge itself tells of the variable, last of all
    rw [hbetween, Option.some_or] at h
    have hmem := (mem_toldBetween_iff hsecond.keeps).1 (List.mem_of_getLast? hbetween)
    rw [hmem.1, Option.some_or, h]
  | none =>
    rw [List.getLast?_eq_none_iff] at hbetween
    rw [hbetween, List.getLast?_nil, Option.none_or, List.getLast?_append] at h
    cases hlater : (second.told name).getLast? with
    | some told =>
      have hsame := hsecond.last name told hlater
      rw [hlater, Option.some_or] at h
      cases hknown : first.kept name with
      | none => rw [Option.none_or, hsame, h]
      | some known =>
        -- both parts have the variable, and no conflict is told of it
        have heq : told = known := by
          by_contra hne
          have hmem := (mem_toldBetween_iff hsecond.keeps).2 ⟨hknown, told, hsame, hne⟩
          rw [hbetween] at hmem
          cases hmem
        rw [Option.some_or, ← heq, h]
    | none =>
      rw [hlater, Option.none_or] at h
      rw [hfirst.last name type h, Option.some_or]

theorem Reports.merge {first second : Bound} {before after : List Field}
    {P Q : String → Option FieldType → Prop} (hfirst : first.Reports before P)
    (hsecond : second.Reports after Q) :
    (first.merge second).Reports (before ++ after) (fun name final =>
      P name final ∧ Q name final ∧ Suits final (typesBound after name)) where
  nodup := nodup_merge second hfirst.nodup
  keeps := hfirst.keeps.merge hsecond.keeps
  last := fun _ _ => last_told_merge hfirst hsecond
  truth := by
    intro name final
    -- a conflict between the two parts is told with the type of the first one
    have hstep : Suits final (typesBound after name) →
        (Suits final (typesBound (before ++ after) name) ↔
          Suits final (typesBound before name) ∧
            ∀ type, (first.kept name = some type ∧
              ∃ other, second.kept name = some other ∧ other ≠ type) → final = some type) := by
      intro hafter
      rw [typesBound_append, suits_append_iff hafter, hfirst.keeps.kept_eq, hsecond.keeps.kept_eq]
      refine and_congr_right fun _ => forall_congr' fun type => ?_
      simp only [and_imp, forall_exists_index]
      exact forall_comm
    simp only [told_merge hsecond.nodup, List.forall_mem_append, hfirst.truth name final,
      hsecond.truth name final, mem_toldBetween_iff hsecond.keeps]
    constructor
    · rintro ⟨⟨⟨hP, hbefore⟩, hQ, hafter⟩, htold⟩
      exact ⟨⟨hP, hQ, hafter⟩, (hstep hafter).2 ⟨hbefore, htold⟩⟩
    · rintro ⟨⟨hP, hQ, hafter⟩, hall⟩
      obtain ⟨hbefore, htold⟩ := (hstep hafter).1 hall
      exact ⟨⟨⟨hP, hbefore⟩, hQ, hafter⟩, htold⟩

theorem push_eq_merge (bound : Bound) (binding : Field) :
    bound.push binding = bound.merge ⟨[binding], []⟩ := by
  simp [merge]

theorem suits_singleton (kept : Option FieldType) (binding : Field) (name : String) :
    Suits kept (typesBound [binding] name) := by
  unfold typesBound
  by_cases hname : binding.name = name <;> simp [Suits, hname]

theorem reports_singleton (binding : Field) :
    Reports ⟨[binding], []⟩ [binding] (fun _ _ => True) where
  nodup := by simp [names]
  keeps := by simpa [push, none] using keeps_none.push binding
  last := by simp [told]
  truth := by simp [told, suits_singleton]

/-- The bindings of one field tell of each other only. -/
theorem reports_foldl_push {bound : Bound} {before : List Field}
    (h : bound.Reports before (fun _ _ => True)) (bindings : List Field) :
    (bindings.foldl push bound).Reports (before ++ bindings) (fun _ _ => True) := by
  induction bindings generalizing bound before with
  | nil => simpa using h
  | cons binding rest ih =>
    have hpush : (bound.push binding).Reports (before ++ [binding]) (fun _ _ => True) := by
      rw [push_eq_merge]
      apply (h.merge (reports_singleton binding)).congr
      simp [suits_singleton]
    simpa using ih hpush

end Bound

/-! ## A whole walk -/

/-- A type that a variable keeps in the end suits each of some parts. -/
def Naming.SuitsAll (naming : Naming) (root : String) (parts : List Subtree) (name : String)
    (final : Option FieldType) : Prop :=
  ∀ part ∈ parts, Suits final (typesBound (naming.bindingsIn root part) name)

section Walk

variable {naming : Naming} {root parent : String} {inside : List String}

/-- In parts that no walk comes to there are no bindings. -/
theorem Naming.bindingsIn_eq_nil (h : naming.schema.entered? root inside = none) {part : Subtree}
    (hpart : inside <+: part.inside) : naming.bindingsIn root part = [] := by
  unfold Naming.bindingsIn
  rw [List.filterMap_eq_nil_iff]
  intro given hgiven
  have hdeeper := hpart.trans (part.tree.isPrefix_of_mem_givenArguments hgiven)
  simp [Naming.bindingOf?, Schema.argumentAt?, Schema.entered?_eq_none_of_isPrefix h hdeeper]

theorem Naming.suitsAll_of_not_entered (h : naming.schema.entered? root inside = none)
    (tree : SelectionTree) (name : String) (final : Option FieldType) :
    naming.SuitsAll root (tree.subtrees inside) name final := by
  intro part hpart
  rw [Naming.bindingsIn_eq_nil h (tree.isPrefix_of_mem_subtrees hpart)]
  exact suits_nil final

/-- A whole tree adds nothing to the parts inside it, once its own types suit. -/
theorem Naming.suitsAll_cons_iff {whole : Subtree} {parts : List Subtree} {name : String}
    {final : Option FieldType} (h : Suits final (typesBound (naming.bindingsIn root whole) name)) :
    naming.SuitsAll root (whole :: parts) name final ↔ naming.SuitsAll root parts name final := by
  unfold Naming.SuitsAll
  rw [List.forall_mem_cons]
  exact and_iff_right h

/-- What the arguments of a field bind, as a walk binds it. -/
theorem Naming.filterMap_bindingOf? {field : String} {definition : FieldDefinition}
    {bindings : List Binding} {own : List Field}
    (hat : naming.schema.entered? root inside = some parent)
    (hfield : naming.schema.field? parent field = some definition)
    (h : naming.bindAll parent field definition.arguments bindings = .ok own) :
    (bindings.map (fun binding => (⟨inside, field, binding⟩ : GivenArgument))).filterMap
      (naming.bindingOf? root) = own := by
  have hbinds := Naming.binds_of_bindAll hat hfield h
  apply filterMap_eq_of_forall₂
  refine hbinds.imp ?_
  rintro given ⟨name, type⟩ ⟨hname, declared, hdeclared, htype⟩
  unfold Naming.bindingOf?
  rw [hdeclared, Option.bind_some, htype, Option.map_some, ← hname]

end Walk

mutual

/-- A walk reports on the bindings of its tree, and each part inside on its own. -/
theorem Naming.reports_of_collect {naming : Naming} {root parent : String} {inside : List String}
    (hat : naming.schema.entered? root inside = some parent) (tree : SelectionTree) {bound : Bound}
    (h : naming.collect parent tree = .ok bound) :
    bound.Reports (naming.bindingsIn root ⟨inside, tree⟩)
      (naming.SuitsAll root (tree.subtrees inside)) := by
  cases tree with
  | select field bindings child =>
    obtain ⟨definition, hfield, own, hown, hcase⟩ := Naming.collect_select_eq_ok.1 h
    have hnext := Schema.entered?_snoc hat field
    rw [Schema.compositeBelow?_of_field? hfield] at hnext
    have hbelow : naming.bindingsIn root ⟨inside, .select field bindings child⟩ =
        own ++ naming.bindingsIn root ⟨inside ++ [field], child⟩ := by
      unfold Naming.bindingsIn
      rw [SelectionTree.givenArguments, List.filterMap_append,
        Naming.filterMap_bindingOf? hat hfield hown]
    have hreports : (own.foldl Bound.push .none).Reports own (fun _ _ => True) := by
      simpa using Bound.reports_foldl_push Bound.reports_none own
    rcases hcase with ⟨type, htype, hcomposite, below, hcollect, rfl⟩ | ⟨hleaf, rfl⟩
    · have hentered : naming.schema.entered? root (inside ++ [field]) = some type := by
        rw [hnext, htype]
        simp [Option.filter, hcomposite]
      have hmerged := hreports.merge (Naming.reports_of_collect hentered child hcollect)
      rw [← hbelow] at hmerged
      apply hmerged.congr
      intro name final hall
      rw [SelectionTree.subtrees, Naming.suitsAll_cons_iff hall, true_and]
      exact and_iff_left_of_imp fun hparts =>
        hparts _ (child.mem_subtrees_self (inside ++ [field]))
    · -- the walk does not enter the field, so nothing is bound below it
      have hclosed : naming.schema.entered? root (inside ++ [field]) = none := by
        rw [hnext]
        cases htype : definition.type.underlying? with
        | none => rfl
        | some type => simp [Option.filter, hleaf type htype]
      have hnone : naming.bindingsIn root ⟨inside ++ [field], child⟩ = [] :=
        Naming.bindingsIn_eq_nil hclosed List.prefix_rfl
      rw [hnone, List.append_nil] at hbelow
      rw [hbelow]
      apply hreports.congr
      intro name final hall
      rw [← hbelow] at hall
      rw [SelectionTree.subtrees, Naming.suitsAll_cons_iff hall, true_iff]
      exact Naming.suitsAll_of_not_entered hclosed child name final
  | rename key child =>
    rw [Naming.collect] at h
    apply (Naming.reports_of_collect hat child h).congr
    intro name final hall
    rw [SelectionTree.subtrees, Naming.suitsAll_cons_iff]
    exact hall
  | group members =>
    rw [Naming.collect] at h
    apply (Naming.reports_of_collectAll hat members Bound.reports_none h).congr
    intro name final hall
    rw [SelectionTree.subtrees, true_and]
    exact (Naming.suitsAll_cons_iff hall).symm
  | nothing =>
    rw [Naming.collect, pure_eq_ok] at h
    subst h
    apply Bound.reports_none.congr
    intro name final hall
    rw [SelectionTree.subtrees, Naming.suitsAll_cons_iff hall]
    simp [Naming.SuitsAll]
  | unsupported construct =>
    rw [Naming.collect, pure_eq_ok] at h
    subst h
    apply Bound.reports_none.congr
    intro name final hall
    rw [SelectionTree.subtrees, Naming.suitsAll_cons_iff hall]
    simp [Naming.SuitsAll]

theorem Naming.reports_of_collectAll {naming : Naming} {root parent : String}
    {inside : List String} (hat : naming.schema.entered? root inside = some parent)
    (trees : List SelectionTree) {known bound : Bound} {before : List Field}
    {inner : String → Option FieldType → Prop} (hknown : known.Reports before inner)
    (h : naming.collectAll parent known trees = .ok bound) :
    bound.Reports
      (before ++ (SelectionTree.givenArgumentsAll inside trees).filterMap (naming.bindingOf? root))
      (fun name final => inner name final ∧
        naming.SuitsAll root (SelectionTree.subtreesAll inside trees) name final) := by
  cases trees with
  | nil =>
    rw [Naming.collectAll, pure_eq_ok] at h
    subst h
    simpa [SelectionTree.givenArgumentsAll, SelectionTree.subtreesAll, Naming.SuitsAll] using hknown
  | cons first rest =>
    obtain ⟨here, hhere, hrest⟩ := Naming.collectAll_cons_eq_ok.1 h
    -- what is known grows by the first tree before the rest is walked
    have hmerged := hknown.merge (Naming.reports_of_collect hat first hhere)
    have hall := Naming.reports_of_collectAll hat rest hmerged hrest
    rw [SelectionTree.givenArgumentsAll, List.filterMap_append]
    rw [List.append_assoc] at hall
    apply hall.congr
    intro name final _
    unfold Naming.SuitsAll
    rw [SelectionTree.subtreesAll, List.forall_mem_append, and_assoc]
    refine and_congr_right fun _ => ?_
    refine and_congr_left fun _ => ?_
    exact and_iff_left_of_imp fun hparts => hparts _ (first.mem_subtrees_self inside)

end

/-! ## The law -/

/-- The last that is told of a variable names the type that the variable has.
All that is told of it does just if that type suits every part of the tree: what
the part binds the variable with begins with that type, or is of one type. A
part that has a conflict of its own, behind a binding elsewhere that decides the
type, tells of another type. -/
theorem told_types_are_kept_iff_types_of_each_part_suit (naming : Naming) (tree : SelectionTree)
    (root : SchemaType) (bound : Bound) (h : naming.boundVariables tree root = .ok bound) :
    ∃ start, naming.rootType root = .ok start ∧ ∀ name,
      (∀ type, (bound.told name).getLast? = some type → (⟨name, type⟩ : Field) ∈ bound.fields) ∧
      ((∀ type, .variableConflict name type ∈ bound.warnings →
          (⟨name, type⟩ : Field) ∈ bound.fields) ↔
        ∀ part ∈ tree.subtrees [],
          Suits (typesBound (naming.bindingsIn start ⟨[], tree⟩) name).head?
            (typesBound (naming.bindingsIn start part) name)) := by
  obtain ⟨start, hroot, hcollect⟩ := Naming.boundVariables_eq_ok.1 h
  have hstart : naming.schema.entered? start [] = some start := rfl
  have hreports := Naming.reports_of_collect hstart tree hcollect
  refine ⟨start, hroot, fun name => ⟨?_, ?_⟩⟩
  · intro type hlast
    rw [Bound.mem_fields_iff_kept hreports.keeps]
    exact hreports.last name type hlast
  · have hself : Suits (bound.kept name)
        (typesBound (naming.bindingsIn start ⟨[], tree⟩) name) := by
      rw [hreports.keeps.kept_eq]
      exact .inl rfl
    have htruth := hreports.truth name (bound.kept name)
    rw [and_iff_left hself] at htruth
    simp only [Bound.mem_fields_iff_kept hreports.keeps, ← Bound.mem_told_iff]
    rw [htruth, hreports.keeps.kept_eq]
    rfl

theorem told_types_of_the_books_are_kept_iff_types_of_each_part_suit :
    booksNaming.boundVariables booksTree (.named "Query") = .ok booksBound ∧
      ∃ start, booksNaming.rootType (.named "Query") = .ok start ∧ ∀ name,
        (∀ type, (booksBound.told name).getLast? = some type →
          (⟨name, type⟩ : Field) ∈ booksBound.fields) ∧
        ((∀ type, .variableConflict name type ∈ booksBound.warnings →
            (⟨name, type⟩ : Field) ∈ booksBound.fields) ↔
          ∀ part ∈ booksTree.subtrees [],
            Suits (typesBound (booksNaming.bindingsIn start ⟨[], booksTree⟩) name).head?
              (typesBound (booksNaming.bindingsIn start part) name)) := by
  have h : booksNaming.boundVariables booksTree (.named "Query") = .ok booksBound := rfl
  exact ⟨h, told_types_are_kept_iff_types_of_each_part_suit _ _ _ _ h⟩

/-- A book that is asked for by its identifier, for its first pages and for its
title. -/
def bookNaming : Naming where
  schema :=
    [⟨"Query", .object, .ofList
        [("book", ⟨.nullable (.named "Book"), .ofList [("id", .named "ID")]⟩)]⟩,
      ⟨"Book", .object, .ofList
        [("pages", ⟨.nullable (.named "Int"), .ofList [("first", .named "Int")]⟩),
        ("title", ⟨.nullable (.named "String"), .ofList [("full", .named "Boolean")]⟩)]⟩].foldl
        (fun schema definition => (schema.insert definition).2) .builtIn
  mapping := .standard

/-- One variable for all three arguments. The conflict inside the book is told
before that with the identifier is known. -/
def oneVariableTree : SelectionTree :=
  .select "book" [⟨"id", "v"⟩]
    (.group [.select "pages" [⟨"first", "v"⟩] .nothing, .select "title" [⟨"full", "v"⟩] .nothing])

theorem a_conflict_inside_a_book_is_told_with_another_type :
    ∃ bound name type, bookNaming.boundVariables oneVariableTree (.named "Query") = .ok bound ∧
      .variableConflict name type ∈ bound.warnings ∧ (⟨name, type⟩ : Field) ∉ bound.fields := by
  refine ⟨⟨[⟨"v", .named "String"⟩],
    [.variableConflict "v" (.named "i32"), .variableConflict "v" (.named "String")]⟩,
    "v", .named "i32", rfl, List.mem_cons_self, ?_⟩
  simp

end Model

end OperationModels
