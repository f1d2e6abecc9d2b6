-- Where a response fails. A field is at fault if the type that it is selected
-- on does not have it, or if something is selected below it although its own
-- type has no fields to select. The law says that a walk fails just if some
-- field that it comes to is at fault, and that the first of these in the
-- document is the one that the failure names.
import OperationModels.Proofs.Selections

namespace OperationModels

/-! ## The fields of a tree in document order -/

namespace SelectionTree

mutual

/-- Every field selected in a tree that lies inside some fields already, each
before those below it. -/
def fieldsInOrder (inside : List String) : SelectionTree → List SelectedField
  | .select field _ child => ⟨inside, field, child⟩ :: child.fieldsInOrder (inside ++ [field])
  | .rename _ child => child.fieldsInOrder inside
  | .group members => fieldsInOrderAll inside members
  | .nothing => []
  | .unsupported _ => []

/-- The same of trees, one tree after the other. -/
def fieldsInOrderAll (inside : List String) : List SelectionTree → List SelectedField
  | [] => []
  | first :: rest => first.fieldsInOrder inside ++ fieldsInOrderAll inside rest

end

theorem isNothing_iff (tree : SelectionTree) : tree.isNothing = true ↔ tree = .nothing := by
  cases tree <;> simp [isNothing]

end SelectionTree

/-! ## Faults -/

namespace Schema

/-- What is wrong with a field that is selected on a type. -/
inductive Rejects (schema : Schema) (parent : String) (selected : SelectedField) :
    FieldFault → Prop
  /-- The type does not have the field, or the field has no type. -/
  | noSuchField :
    (∀ definition, schema.field? parent selected.field = some definition →
      definition.type.underlying? = none) →
    Rejects schema parent selected .noSuchField
  /-- Something is selected below the field, but its type is not composite. -/
  | leafWithSelection {definition : FieldDefinition} {type : String} :
    schema.field? parent selected.field = some definition →
    definition.type.underlying? = some type → schema.isComposite type = false →
    selected.child ≠ .nothing →
    Rejects schema parent selected (.leafWithSelection type)

/-- A field selected somewhere in a tree fails: the fields that it lies in lead
to a type, and something is wrong with it there. -/
def FailsAt (schema : Schema) (root : String) (selected : SelectedField) (failure : Failure) :
    Prop :=
  ∃ parent fault, schema.typeAt? root selected.inside = some parent ∧
    schema.Rejects parent selected fault ∧
    failure = .unresolvedField parent selected.field fault

/-- The fault of a field that is selected on a type, if there is one. -/
def fault? (schema : Schema) (parent : String) (selected : SelectedField) : Option FieldFault :=
  match schema.typeBelow? parent selected.field with
  | none => some .noSuchField
  | some type =>
    if schema.isComposite type || selected.child.isNothing then none
    else some (.leafWithSelection type)

/-- The failure of a field that is selected somewhere in a tree, if it fails. -/
def failureAt? (schema : Schema) (root : String) (selected : SelectedField) : Option Failure :=
  (schema.typeAt? root selected.inside).bind (fun parent =>
    (schema.fault? parent selected).map (.unresolvedField parent selected.field))

variable {schema : Schema} {root parent : String} {selected : SelectedField}

theorem fault?_eq_some_iff {fault : FieldFault} :
    schema.fault? parent selected = some fault ↔ schema.Rejects parent selected fault := by
  unfold fault?
  constructor
  · intro h
    split at h
    · rename_i hnone
      cases h
      exact .noSuchField (typeBelow?_eq_none_iff.1 hnone)
    · rename_i type hsome
      obtain ⟨definition, hfield, htype⟩ := typeBelow?_eq_some_iff.1 hsome
      by_cases hfine : (schema.isComposite type || selected.child.isNothing) = true
      · rw [if_pos hfine] at h
        cases h
      · rw [if_neg hfine] at h
        cases h
        simp only [Bool.or_eq_true, not_or, Bool.not_eq_true] at hfine
        apply Rejects.leafWithSelection hfield htype hfine.1
        intro hchild
        simp [hchild, SelectionTree.isNothing] at hfine
  · rintro (hnone | ⟨hfield, htype, hleaf, hchild⟩)
    · rw [typeBelow?_eq_none_iff.2 hnone]
    · have hopen : selected.child.isNothing = false := by
        rwa [← Bool.not_eq_true, SelectionTree.isNothing_iff]
      rw [typeBelow?_eq_some_iff.2 ⟨_, hfield, htype⟩]
      simp [hleaf, hopen]

theorem failureAt?_eq_some_iff {failure : Failure} :
    schema.failureAt? root selected = some failure ↔ schema.FailsAt root selected failure := by
  unfold failureAt? FailsAt
  simp only [Option.bind_eq_some_iff, Option.map_eq_some_iff, fault?_eq_some_iff]
  constructor
  · rintro ⟨parent, hat, fault, hrejects, rfl⟩
    exact ⟨parent, fault, hat, hrejects, rfl⟩
  · rintro ⟨parent, fault, hat, hrejects, rfl⟩
    exact ⟨parent, hat, fault, hrejects, rfl⟩

theorem failureAt?_eq_none_iff :
    schema.failureAt? root selected = none ↔ ∀ failure, ¬ schema.FailsAt root selected failure := by
  rw [Option.eq_none_iff_forall_ne_some]
  simp only [ne_eq, failureAt?_eq_some_iff]

end Schema

namespace Model

/-! ## One step of a walk -/

theorem Naming.target_of_typeBelow?_none {naming : Naming} {parent field : String}
    (h : naming.schema.typeBelow? parent field = none) :
    naming.target parent field = .error (.unresolvedField parent field .noSuchField) := by
  unfold Schema.typeBelow? at h
  unfold Naming.target
  simp only [h]

/-- A field that leads to a type has a type in models too. -/
theorem Naming.exists_target {naming : Naming} {parent field type : String}
    (h : naming.schema.typeBelow? parent field = some type) :
    ∃ target, naming.target parent field = .ok target ∧ target.type = type := by
  have hsome := naming.isSome_typeOf? (naming.schema.fieldType parent field)
  unfold Schema.typeBelow? at h
  rw [h, Option.isSome_some, Option.isSome_iff_exists] at hsome
  obtain ⟨resolved, hresolved⟩ := hsome
  refine ⟨⟨⟨field, resolved⟩, type⟩, ?_, rfl⟩
  unfold Naming.target
  simp only [h, hresolved]

theorem failure?_bind_pure {ε α β : Type} (x : Except ε α) (f : α → β) :
    failure? (x >>= fun a => (pure (f a) : Except ε β)) = failure? x := by
  cases x <;> rfl

/-- A walk over a selected field fails at the field, or below it. -/
theorem Naming.failure?_walk_select {naming : Naming} {root parent : String}
    {inside : List String} (hat : naming.schema.typeAt? root inside = some parent)
    (field : String) (bindings : List Binding) (child : SelectionTree) :
    failure? (naming.walk parent (.select field bindings child)) =
      (naming.schema.failureAt? root ⟨inside, field, child⟩).or
        (((naming.schema.typeBelow? parent field).filter naming.schema.isComposite).bind
          (fun type => failure? (naming.walk type child))) := by
  rw [Naming.walk]
  unfold Schema.failureAt? Schema.fault?
  rw [hat, Option.bind_some]
  cases hbelow : naming.schema.typeBelow? parent field with
  | none =>
    rw [Naming.target_of_typeBelow?_none hbelow]
    rfl
  | some type =>
    obtain ⟨target, htarget, rfl⟩ := Naming.exists_target hbelow
    rw [htarget, failure?_ok_bind]
    by_cases hcomposite : naming.schema.isComposite target.type = true
    · simp only [hcomposite, if_true, failure?_bind_pure, Option.filter, Bool.true_or,
        Option.map_none, Option.none_or, Option.bind_some]
    · rw [Bool.not_eq_true] at hcomposite
      cases child.isNothing <;>
        simp [hcomposite, Option.filter, failure?, pure, Except.pure, throw, throwThe,
          MonadExceptOf.throw]

/-! ## A whole walk -/

mutual

/-- A walk fails with the first failure among the fields of the tree. -/
theorem Naming.failure?_walk {naming : Naming} {root parent : String} {inside : List String}
    (hat : naming.schema.typeAt? root inside = some parent) (tree : SelectionTree) :
    failure? (naming.walk parent tree) =
      (tree.fieldsInOrder inside).findSome? (naming.schema.failureAt? root) := by
  cases tree with
  | select field bindings child =>
    rw [Naming.failure?_walk_select hat, SelectionTree.fieldsInOrder, List.findSome?_cons]
    cases hown : naming.schema.failureAt? root ⟨inside, field, child⟩ with
    | some failure => rfl
    | none =>
      rw [Option.none_or]
      have hnext := Schema.typeAt?_snoc hat field
      cases hbelow : naming.schema.typeBelow? parent field with
      | none => simp [Schema.failureAt?, Schema.fault?, hat, hbelow] at hown
      | some type =>
        rw [hbelow] at hnext
        by_cases hcomposite : naming.schema.isComposite type = true
        · rw [Option.filter_some_pos hcomposite, Option.bind_some]
          exact Naming.failure?_walk hnext child
        · -- below a leaf without a fault nothing is selected
          have hnothing : child.isNothing = true := by
            simpa [Schema.failureAt?, Schema.fault?, hat, hbelow, hcomposite] using hown
          rw [Bool.not_eq_true] at hcomposite
          rw [Option.filter_some_neg hcomposite, child.isNothing_iff.1 hnothing]
          rfl
  | rename key child =>
    rw [Naming.walk, failure?_bind_pure, SelectionTree.fieldsInOrder]
    exact Naming.failure?_walk hat child
  | group members =>
    rw [Naming.walk, SelectionTree.fieldsInOrder]
    exact Naming.failure?_walkAll hat members
  | nothing =>
    rw [Naming.walk]
    rfl
  | unsupported construct =>
    rw [Naming.walk]
    rfl

theorem Naming.failure?_walkAll {naming : Naming} {root parent : String} {inside : List String}
    (hat : naming.schema.typeAt? root inside = some parent) (trees : List SelectionTree) :
    failure? (naming.walkAll parent trees) =
      (SelectionTree.fieldsInOrderAll inside trees).findSome?
        (naming.schema.failureAt? root) := by
  cases trees with
  | nil =>
    rw [Naming.walkAll]
    rfl
  | cons first rest =>
    have hfirst := Naming.failure?_walk hat first
    have hrest := Naming.failure?_walkAll hat rest
    rw [SelectionTree.fieldsInOrderAll, List.findSome?_append, ← hfirst, ← hrest, Naming.walkAll]
    cases naming.walk parent first with
    | error failure => rfl
    | ok here =>
      rw [failure?_ok_bind, failure?_bind_pure]
      rfl

end

theorem Naming.failure?_resolve {naming : Naming} {root : SchemaType} {name : String}
    (hroot : naming.rootType root = .ok name) (tree : SelectionTree) :
    failure? (naming.resolve tree root) =
      (tree.fieldsInOrder []).findSome? (naming.schema.failureAt? name) := by
  have hstart : naming.schema.typeAt? name [] = some name := rfl
  rw [Naming.resolve, hroot, failure?_ok_bind, failure?_bind_pure]
  exact Naming.failure?_walk hstart tree

/-! ## The law -/

/-- On a composite root a response fails just if some field of the tree fails on
the type that the fields around it lead to. The failure is that of the first
such field in the document: it names the type and the field, and says what is
wrong with it. -/
theorem a_response_fails_at_its_first_faulty_field (naming : Naming) (tree : SelectionTree)
    (root : SchemaType) (name : String) (hroot : root.underlying? = some name)
    (hcomposite : naming.schema.isComposite name = true) :
    ((∃ failure, naming.resolve tree root = .error failure) ↔
      ∃ selected ∈ tree.fieldsInOrder [], ∃ failure,
        naming.schema.FailsAt name selected failure) ∧
    ∀ failure, naming.resolve tree root = .error failure ↔
      ∃ before selected after, tree.fieldsInOrder [] = before ++ selected :: after ∧
        (∀ earlier ∈ before, ∀ other, ¬ naming.schema.FailsAt name earlier other) ∧
        naming.schema.FailsAt name selected failure := by
  have hstart : naming.rootType root = .ok name :=
    Naming.rootType_eq_ok.2 ⟨by rw [hroot, Option.getD_some], hcomposite⟩
  have hfails := Naming.failure?_resolve hstart tree
  refine ⟨?_, ?_⟩
  · simp only [← failure?_eq_some, hfails, ← Option.isSome_iff_exists, List.findSome?_isSome_iff]
    simp only [Option.isSome_iff_exists, Schema.failureAt?_eq_some_iff]
  · intro failure
    rw [← failure?_eq_some, hfails, List.findSome?_eq_some_iff]
    simp only [Schema.failureAt?_eq_some_iff, Schema.failureAt?_eq_none_iff]
    constructor
    · rintro ⟨before, selected, after, hsplit, hfail, hclear⟩
      exact ⟨before, selected, after, hsplit, hclear, hfail⟩
    · rintro ⟨before, selected, after, hsplit, hclear, hfail⟩
      exact ⟨before, selected, after, hsplit, hfail, hclear⟩

/-- A hero whose name is taken for a type with fields, and whose pet is asked
for wings, which no pet has. -/
def faultyHeroTree : SelectionTree :=
  .group
    [.select "__typename" [] .nothing,
      .rename "lead" (.select "hero" [] (.group
        [.select "pet" [] (.select "owner" [] .nothing),
          .rename "called" (.select "name" [] (.group [.select "first" [] .nothing])),
          .select "pet" [] (.select "wings" [] .nothing)]))]

theorem a_response_of_the_hero_fails_at_its_first_faulty_field :
    SchemaType.underlying? (.named "Query") = some "Query" ∧
      peopleNaming.schema.isComposite "Query" = true ∧
      peopleNaming.resolve faultyHeroTree (.named "Query") =
        .error (.unresolvedField "person" "name" (.leafWithSelection "String")) ∧
      ((∃ failure, peopleNaming.resolve faultyHeroTree (.named "Query") = .error failure) ↔
        ∃ selected ∈ faultyHeroTree.fieldsInOrder [], ∃ failure,
          peopleNaming.schema.FailsAt "Query" selected failure) ∧
      ∀ failure, peopleNaming.resolve faultyHeroTree (.named "Query") = .error failure ↔
        ∃ before selected after,
          faultyHeroTree.fieldsInOrder [] = before ++ selected :: after ∧
          (∀ earlier ∈ before, ∀ other,
            ¬ peopleNaming.schema.FailsAt "Query" earlier other) ∧
          peopleNaming.schema.FailsAt "Query" selected failure := by
  have hcomposite : peopleNaming.schema.isComposite "Query" = true := by decide
  exact ⟨rfl, hcomposite, rfl,
    a_response_fails_at_its_first_faulty_field _ _ _ _ rfl hcomposite⟩

end Model

end OperationModels
