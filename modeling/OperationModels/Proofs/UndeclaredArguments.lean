-- Two walks go over the same tree: one for the records of the response, one
-- for the variables that are bound. The laws say that they agree. Where the
-- first succeeds the second meets every argument of the tree, in the order of
-- the document, and fails at the first one that is at fault and nowhere else.
import OperationModels.Proofs.DeclaredFields
import OperationModels.Proofs.FirstBindings

namespace OperationModels

/-! ## Declared arguments -/

theorem OrderedMap.get?_eq_none_iff {κ α : Type} [DecidableEq κ] (m : OrderedMap κ α) (key : κ) :
    m.get? key = none ↔ key ∉ m.keys := by
  unfold OrderedMap.get? OrderedMap.keys
  rw [Option.map_eq_none_iff, List.find?_eq_none, List.mem_map]
  constructor
  · rintro hnone ⟨entry, hentry, hkey⟩
    exact hnone entry hentry (decide_eq_true hkey)
  · intro hnew entry hentry hkey
    exact hnew ⟨entry, hentry, of_decide_eq_true hkey⟩

namespace Schema

/-- The field that a variable is given to, which stands in the selections of
some type, has the argument. -/
def DeclaresArgument (schema : Schema) (root : String) (given : GivenArgument) : Prop :=
  ∃ parent definition, schema.typeAt? root given.inside = some parent ∧
    schema.field? parent given.field = some definition ∧
    given.binding.argument ∈ definition.arguments.keys

/-- Every argument of every field has a type below its lists and marks. -/
def ArgumentsTyped (schema : Schema) : Prop :=
  ∀ definition ∈ schema.types, ∀ field ∈ definition.fields.entries,
    ∀ argument ∈ field.2.arguments.entries, argument.2.underlying? ≠ none

instance (schema : Schema) : Decidable schema.ArgumentsTyped :=
  inferInstanceAs (Decidable (∀ definition ∈ schema.types, ∀ field ∈ definition.fields.entries,
    ∀ argument ∈ field.2.arguments.entries, argument.2.underlying? ≠ none))

/-- What is wrong with giving a variable to an argument of a field: the field
does not have the argument, or the schema does not type it. -/
def argumentFault? (schema : Schema) (parent field : String) (binding : Binding) :
    Option Failure :=
  match (schema.field? parent field).bind
      (fun definition => definition.arguments.get? binding.argument) with
  | none => some (.unboundArgument parent field binding.argument binding.name)
  | some declared =>
    match declared.underlying? with
    | none => some (.unresolvedField parent field (.untypedArgument binding.argument))
    | some _ => none

/-- What is wrong with an argument given in a tree on a type. -/
def faultAt? (schema : Schema) (root : String) (given : GivenArgument) : Option Failure :=
  (schema.typeAt? root given.inside).bind
    (fun parent => schema.argumentFault? parent given.field given.binding)

variable {schema : Schema} {root parent field : String}

theorem ArgumentsTyped.underlying?_ne_none (h : schema.ArgumentsTyped)
    {definition : FieldDefinition} (hfield : schema.field? parent field = some definition)
    {argument : String} {declared : SchemaType}
    (hdeclared : definition.arguments.get? argument = some declared) :
    declared.underlying? ≠ none := by
  rcases exists_mem_of_field?_eq_some hfield with ⟨-, rfl⟩ | ⟨type, htype, -, hentry⟩
  · simp at hdeclared
  · exact h type htype _ hentry _ (OrderedMap.mem_of_get?_eq_some hdeclared)

/-- In a schema that types its arguments, what is at fault is an argument that
its field does not have. -/
theorem ArgumentsTyped.faultAt?_eq_some_iff (h : schema.ArgumentsTyped) {given : GivenArgument}
    (hat : schema.typeAt? root given.inside = some parent) (failure : Failure) :
    schema.faultAt? root given = some failure ↔ ¬ schema.DeclaresArgument root given ∧
      failure = .unboundArgument parent given.field given.binding.argument given.binding.name := by
  unfold faultAt? argumentFault? DeclaresArgument
  rw [hat, Option.bind_some]
  cases hfield : schema.field? parent given.field with
  | none => simp [hfield, eq_comm]
  | some definition =>
    rw [Option.bind_some]
    cases hdeclared : definition.arguments.get? given.binding.argument with
    | none =>
      have hnew := (definition.arguments.get?_eq_none_iff _).1 hdeclared
      simp [hfield, hnew, eq_comm]
    | some declared =>
      have hknown : given.binding.argument ∈ definition.arguments.keys := by
        by_contra hnew
        rw [(definition.arguments.get?_eq_none_iff _).2 hnew] at hdeclared
        cases hdeclared
      have htyped := h.underlying?_ne_none hfield hdeclared
      cases hunder : declared.underlying? with
      | none => exact absurd hunder htyped
      | some name => simp [hfield, hknown, hunder]

theorem ArgumentsTyped.faultAt?_eq_none_iff (h : schema.ArgumentsTyped) {given : GivenArgument}
    (hat : schema.typeAt? root given.inside = some parent) :
    schema.faultAt? root given = none ↔ schema.DeclaresArgument root given := by
  have hsome := h.faultAt?_eq_some_iff hat
  constructor
  · intro hclear
    by_contra hnot
    rw [(hsome _).2 ⟨hnot, rfl⟩] at hclear
    cases hclear
  · intro hdeclared
    rw [Option.eq_none_iff_forall_ne_some]
    intro failure hfault
    exact ((hsome failure).1 hfault).1 hdeclared

/-- The field that every composite type has takes no arguments. -/
theorem not_declaresArgument_typeName {given : GivenArgument}
    (hat : schema.typeAt? root given.inside = some parent)
    (hcomposite : schema.isComposite parent = true) (hfield : given.field = typeNameField) :
    ¬ schema.DeclaresArgument root given := by
  rintro ⟨other, definition, hother, hfound, hknown⟩
  rw [hat, Option.some.injEq] at hother
  subst hother
  unfold field? at hfound
  obtain ⟨type, htype, hbody⟩ := Option.bind_eq_some_iff.1 hfound
  have hkind : type.kind.isComposite = true := by
    simpa [isComposite, kindOf?, htype] using hcomposite
  simp only [hfield, hkind, decide_true, Bool.and_self, if_true, Option.some.injEq] at hbody
  subst hbody
  simp at hknown

end Schema

namespace Model

/-! ## One step of the walk for variables -/

theorem Naming.failure?_bind {naming : Naming} {parent field : String}
    {definition : FieldDefinition} (hfield : naming.schema.field? parent field = some definition)
    (binding : Binding) :
    failure? (naming.bind parent field definition.arguments binding) =
      naming.schema.argumentFault? parent field binding := by
  unfold Naming.bind Schema.argumentFault?
  rw [hfield, Option.bind_some]
  cases definition.arguments.get? binding.argument with
  | none => rfl
  | some declared =>
    have hsome := naming.isSome_typeOf? declared
    cases htype : naming.typeOf? declared with
    | none =>
      have hunder : declared.underlying? = none := by simpa [htype] using hsome
      simp [htype, hunder, failure?]
    | some type =>
      obtain ⟨name, hunder⟩ : ∃ name, declared.underlying? = some name := by
        simpa [htype, Option.isSome_iff_exists] using hsome.symm
      simp [htype, hunder, failure?]

/-- The arguments of one field fail at the first that is at fault. -/
theorem Naming.failure?_bindAll {naming : Naming} {root parent field : String}
    {inside : List String} {definition : FieldDefinition}
    (hat : naming.schema.typeAt? root inside = some parent)
    (hfield : naming.schema.field? parent field = some definition) (bindings : List Binding) :
    failure? (naming.bindAll parent field definition.arguments bindings) =
      (bindings.map (fun binding => (⟨inside, field, binding⟩ : GivenArgument))).findSome?
        (naming.schema.faultAt? root) := by
  unfold Naming.bindAll
  rw [failure?_mapM, List.findSome?_map]
  congr 1
  funext binding
  rw [Naming.failure?_bind hfield]
  simp [Schema.faultAt?, hat]

/-! ## Both walks -/

mutual

/-- Where the walk for records succeeds, the walk for variables fails with the
first fault of the arguments in the tree, if there is one. -/
theorem Naming.failure?_collect {naming : Naming} {root parent : String} {inside : List String}
    (hat : naming.schema.typeAt? root inside = some parent) (tree : SelectionTree)
    {harvest : Harvest} (h : naming.walk parent tree = .ok harvest) :
    failure? (naming.collect parent tree) =
      (tree.givenArguments inside).findSome? (naming.schema.faultAt? root) := by
  cases tree with
  | select field bindings child =>
    obtain ⟨target, htarget, hcase⟩ := Naming.walk_select_eq_ok.1 h
    obtain ⟨-, hbelow, -⟩ := Naming.target_eq_ok.1 htarget
    obtain ⟨definition, hfield, hunder⟩ := Schema.typeBelow?_eq_some_iff.1 hbelow
    have hown := Naming.failure?_bindAll hat hfield bindings
    rw [SelectionTree.givenArguments, List.findSome?_append, ← hown, Naming.collect, hfield]
    dsimp only
    cases naming.bindAll parent field definition.arguments bindings with
    | error failure => rfl
    | ok own =>
      rw [failure?_ok_bind, hunder]
      dsimp only [failure?]
      rw [Option.none_or]
      rcases hcase with ⟨hcomposite, below, hwalk, -⟩ | ⟨hleaf, hnothing, -⟩
      · have hdeeper : naming.schema.typeAt? root (inside ++ [field]) = some target.type := by
          rw [Schema.typeAt?_snoc hat, hbelow]
        rw [if_pos hcomposite, ← Naming.failure?_collect hdeeper child hwalk]
        cases naming.collect target.type child <;> rfl
      · -- below a leaf nothing is selected, so nothing is given there either
        rw [if_neg (by simp [hleaf])]
        cases child with
        | nothing => rfl
        | _ => simp [SelectionTree.isNothing] at hnothing
  | rename key child =>
    obtain ⟨below, hwalk, -⟩ := Naming.walk_rename_eq_ok.1 h
    rw [Naming.collect, SelectionTree.givenArguments]
    exact Naming.failure?_collect hat child hwalk
  | group members =>
    rw [Naming.walk] at h
    rw [Naming.collect, SelectionTree.givenArguments]
    exact Naming.failure?_collectAll hat members .none h
  | nothing => rw [Naming.collect]; rfl
  | unsupported construct => rw [Naming.collect]; rfl

theorem Naming.failure?_collectAll {naming : Naming} {root parent : String}
    {inside : List String} (hat : naming.schema.typeAt? root inside = some parent)
    (trees : List SelectionTree) (known : Bound) {harvest : Harvest}
    (h : naming.walkAll parent trees = .ok harvest) :
    failure? (naming.collectAll parent known trees) =
      (SelectionTree.givenArgumentsAll inside trees).findSome? (naming.schema.faultAt? root) := by
  cases trees with
  | nil => rw [Naming.collectAll]; rfl
  | cons first rest =>
    obtain ⟨here, hhere, later, hlater, -⟩ := Naming.walkAll_cons_eq_ok.1 h
    have hfirst := Naming.failure?_collect hat first hhere
    rw [SelectionTree.givenArgumentsAll, List.findSome?_append, ← hfirst, Naming.collectAll]
    cases naming.collect parent first with
    | error failure => rfl
    | ok own =>
      rw [failure?_ok_bind, Naming.failure?_collectAll hat rest _ hlater]
      rfl

end

mutual

/-- Where the walk for records succeeds, every field that an argument is given
to stands in selections on a composite type. -/
theorem Naming.exists_composite_of_walk {naming : Naming} {root parent : String}
    {inside : List String} (hat : naming.schema.typeAt? root inside = some parent)
    (hcomposite : naming.schema.isComposite parent = true) (tree : SelectionTree)
    {harvest : Harvest} (h : naming.walk parent tree = .ok harvest) :
    ∀ given ∈ tree.givenArguments inside, ∃ type,
      naming.schema.typeAt? root given.inside = some type ∧
        naming.schema.isComposite type = true := by
  intro given hgiven
  cases tree with
  | select field bindings child =>
    obtain ⟨target, htarget, hcase⟩ := Naming.walk_select_eq_ok.1 h
    obtain ⟨-, hbelow, -⟩ := Naming.target_eq_ok.1 htarget
    rw [SelectionTree.givenArguments, List.mem_append] at hgiven
    rcases hgiven with hown | hdeep
    · obtain ⟨binding, -, rfl⟩ := List.mem_map.1 hown
      exact ⟨parent, hat, hcomposite⟩
    · rcases hcase with ⟨hopen, below, hwalk, -⟩ | ⟨-, hnothing, -⟩
      · have hdeeper : naming.schema.typeAt? root (inside ++ [field]) = some target.type := by
          rw [Schema.typeAt?_snoc hat, hbelow]
        exact Naming.exists_composite_of_walk hdeeper hopen child hwalk given hdeep
      · cases child with
        | nothing => simp [SelectionTree.givenArguments] at hdeep
        | _ => simp [SelectionTree.isNothing] at hnothing
  | rename key child =>
    obtain ⟨below, hwalk, -⟩ := Naming.walk_rename_eq_ok.1 h
    rw [SelectionTree.givenArguments] at hgiven
    exact Naming.exists_composite_of_walk hat hcomposite child hwalk given hgiven
  | group members =>
    rw [Naming.walk] at h
    rw [SelectionTree.givenArguments] at hgiven
    exact Naming.exists_composite_of_walkAll hat hcomposite members h given hgiven
  | nothing => simp [SelectionTree.givenArguments] at hgiven
  | unsupported construct => simp [SelectionTree.givenArguments] at hgiven

theorem Naming.exists_composite_of_walkAll {naming : Naming} {root parent : String}
    {inside : List String} (hat : naming.schema.typeAt? root inside = some parent)
    (hcomposite : naming.schema.isComposite parent = true) (trees : List SelectionTree)
    {harvest : Harvest} (h : naming.walkAll parent trees = .ok harvest) :
    ∀ given ∈ SelectionTree.givenArgumentsAll inside trees, ∃ type,
      naming.schema.typeAt? root given.inside = some type ∧
        naming.schema.isComposite type = true := by
  intro given hgiven
  cases trees with
  | nil => simp [SelectionTree.givenArgumentsAll] at hgiven
  | cons first rest =>
    obtain ⟨here, hhere, later, hlater, -⟩ := Naming.walkAll_cons_eq_ok.1 h
    rw [SelectionTree.givenArgumentsAll, List.mem_append] at hgiven
    rcases hgiven with hfirst | hrest
    · exact Naming.exists_composite_of_walk hat hcomposite first hhere given hfirst
    · exact Naming.exists_composite_of_walkAll hat hcomposite rest hlater given hrest

end

theorem Naming.failure?_boundVariables {naming : Naming} {root : SchemaType} {name : String}
    (hroot : naming.rootType root = .ok name) (tree : SelectionTree) {harvest : Harvest}
    (h : naming.walk name tree = .ok harvest) :
    failure? (naming.boundVariables tree root) =
      (tree.givenArguments []).findSome? (naming.schema.faultAt? name) := by
  have hstart : naming.schema.typeAt? name [] = some name := rfl
  rw [Naming.boundVariables, hroot, failure?_ok_bind]
  exact Naming.failure?_collect hstart tree h

/-- Where a tree has a response and the schema types its arguments, only an
argument that is not there keeps the variables from being bound. -/
theorem Naming.exists_unbound_of_boundVariables {naming : Naming} {tree : SelectionTree}
    {root : SchemaType} {response : Response} {failure : Failure}
    (htyped : naming.schema.ArgumentsTyped) (h : naming.resolve tree root = .ok response)
    (hfails : naming.boundVariables tree root = .error failure) :
    ∃ parent field argument name, failure = .unboundArgument parent field argument name := by
  obtain ⟨name, hroot, harvest, hwalk, -⟩ := Naming.resolve_eq_ok.1 h
  obtain ⟨-, hcomposite⟩ := Naming.rootType_eq_ok.1 hroot
  have hstart : naming.schema.typeAt? name [] = some name := rfl
  rw [← failure?_eq_some, Naming.failure?_boundVariables hroot tree hwalk] at hfails
  obtain ⟨given, hgiven, hfault⟩ := List.exists_of_findSome?_eq_some hfails
  obtain ⟨parent, hat, -⟩ :=
    Naming.exists_composite_of_walk hstart hcomposite tree hwalk given hgiven
  exact ⟨_, _, _, _, ((htyped.faultAt?_eq_some_iff hat failure).1 hfault).2⟩

/-! ## The law -/

/-- Where a tree has a response and the schema types its arguments, the
variables of the tree are bound unless some field is given an argument that it
does not have. Then the first such argument in the document is the failure.
The field that tells the name of a type has no arguments at all. -/
theorem binding_fails_at_the_first_undeclared_argument (naming : Naming) (tree : SelectionTree)
    (root : SchemaType) (response : Response) (htyped : naming.schema.ArgumentsTyped)
    (h : naming.resolve tree root = .ok response) :
    ∃ name, naming.rootType root = .ok name ∧
      ((∃ failure, naming.boundVariables tree root = .error failure) ↔
        ∃ given ∈ tree.givenArguments [], ¬ naming.schema.DeclaresArgument name given) ∧
      (∀ failure, naming.boundVariables tree root = .error failure →
        ∃ before given after parent, tree.givenArguments [] = before ++ given :: after ∧
          (∀ earlier ∈ before, naming.schema.DeclaresArgument name earlier) ∧
          ¬ naming.schema.DeclaresArgument name given ∧
          naming.schema.typeAt? name given.inside = some parent ∧
          failure =
            .unboundArgument parent given.field given.binding.argument given.binding.name) ∧
      ∀ given ∈ tree.givenArguments [], given.field = "__typename" →
        ¬ naming.schema.DeclaresArgument name given := by
  obtain ⟨name, hroot, harvest, hwalk, -⟩ := Naming.resolve_eq_ok.1 h
  obtain ⟨-, hcomposite⟩ := Naming.rootType_eq_ok.1 hroot
  have hstart : naming.schema.typeAt? name [] = some name := rfl
  have hwhere := Naming.exists_composite_of_walk hstart hcomposite tree hwalk
  have hfails := Naming.failure?_boundVariables hroot tree hwalk
  have hnone : ∀ given ∈ tree.givenArguments [],
      naming.schema.faultAt? name given = none ↔ naming.schema.DeclaresArgument name given := by
    intro given hgiven
    obtain ⟨parent, hat, -⟩ := hwhere given hgiven
    exact htyped.faultAt?_eq_none_iff hat
  refine ⟨name, hroot, ?_, ?_, ?_⟩
  · simp only [← failure?_eq_some, hfails, ← Option.isSome_iff_exists, List.findSome?_isSome_iff]
    refine exists_congr fun given => and_congr_right fun hgiven => ?_
    rw [← hnone given hgiven, ← ne_eq, Option.ne_none_iff_isSome]
  · intro failure hfailure
    rw [← failure?_eq_some, hfails] at hfailure
    obtain ⟨before, given, after, hsplit, hfault, hclear⟩ := List.findSome?_eq_some_iff.1 hfailure
    have hgiven : given ∈ tree.givenArguments [] := by simp [hsplit]
    obtain ⟨parent, hat, -⟩ := hwhere given hgiven
    obtain ⟨hnot, hcause⟩ := (htyped.faultAt?_eq_some_iff hat failure).1 hfault
    refine ⟨before, given, after, parent, hsplit, ?_, hnot, hat, hcause⟩
    intro earlier hearlier
    have hmem : earlier ∈ tree.givenArguments [] := by simp [hsplit, hearlier]
    exact (hnone earlier hmem).1 (hclear earlier hearlier)
  · intro given hgiven hfield
    obtain ⟨parent, hat, hopen⟩ := hwhere given hgiven
    exact Schema.not_declaresArgument_typeName hat hopen hfield

/-- Books with similar ones that are asked for in a language, which similar
books are not declared to have. The name of a type is given an argument too. -/
def translatedBooksTree : SelectionTree :=
  .group
    [.select "books" [⟨"by", "author"⟩] (.group
      [.rename "more" (.select "similar" [⟨"first", "n"⟩, ⟨"in", "language"⟩]
        (.select "title" [] .nothing)),
        .select "__typename" [⟨"in", "language"⟩] .nothing])]

/-- What the books are answered with, whatever they are given. -/
def translatedBooksResponse : Response :=
  ⟨[⟨"Book", [⟨"title", .named "String"⟩]⟩,
    ⟨"Book", [⟨"more", .list (.named "Book")⟩, ⟨"__typename", .named "String"⟩]⟩,
    ⟨"Data", [⟨"books", .list (.named "Book")⟩]⟩], []⟩

theorem binding_the_translated_books_fails_at_the_first_undeclared_argument :
    booksNaming.schema.ArgumentsTyped ∧
      booksNaming.resolve translatedBooksTree (.named "Query") = .ok translatedBooksResponse ∧
      ∃ name, booksNaming.rootType (.named "Query") = .ok name ∧
        ((∃ failure, booksNaming.boundVariables translatedBooksTree (.named "Query") =
            .error failure) ↔
          ∃ given ∈ translatedBooksTree.givenArguments [],
            ¬ booksNaming.schema.DeclaresArgument name given) ∧
        (∀ failure, booksNaming.boundVariables translatedBooksTree (.named "Query") =
            .error failure →
          ∃ before given after parent,
            translatedBooksTree.givenArguments [] = before ++ given :: after ∧
            (∀ earlier ∈ before, booksNaming.schema.DeclaresArgument name earlier) ∧
            ¬ booksNaming.schema.DeclaresArgument name given ∧
            booksNaming.schema.typeAt? name given.inside = some parent ∧
            failure =
              .unboundArgument parent given.field given.binding.argument given.binding.name) ∧
        ∀ given ∈ translatedBooksTree.givenArguments [], given.field = "__typename" →
          ¬ booksNaming.schema.DeclaresArgument name given := by
  have htyped : booksNaming.schema.ArgumentsTyped := by decide
  have h : booksNaming.resolve translatedBooksTree (.named "Query") =
      .ok translatedBooksResponse := rfl
  exact ⟨htyped, h, binding_fails_at_the_first_undeclared_argument _ _ _ _ htyped h⟩

/-- Books that are found by a list of what the schema does not know. -/
def unknownKeysNaming : Naming where
  schema := (Schema.builtIn.insert
    ⟨"Query", .object,
      .ofList [("count", ⟨.named "Int", .ofList [("by", .list .untyped)]⟩)]⟩).2
  mapping := .standard

/-- No argument is untyped as a whole, and the field has the argument that it
is given. Still its variable gets no type. -/
theorem a_declared_argument_without_a_type_below_its_list_is_not_bound :
    (∀ definition ∈ unknownKeysNaming.schema.types, ∀ field ∈ definition.fields.entries,
        ∀ argument ∈ field.2.arguments.entries, argument.2 ≠ .untyped) ∧
      unknownKeysNaming.resolve (.select "count" [⟨"by", "keys"⟩] .nothing) (.named "Query") =
        .ok ⟨[⟨"Data", [⟨"count", .named "i32"⟩]⟩], []⟩ ∧
      unknownKeysNaming.schema.DeclaresArgument "Query" ⟨[], "count", ⟨"by", "keys"⟩⟩ ∧
      unknownKeysNaming.boundVariables (.select "count" [⟨"by", "keys"⟩] .nothing)
          (.named "Query") =
        .error (.unresolvedField "Query" "count" (.untypedArgument "by")) := by
  refine ⟨by decide, rfl, ?_, rfl⟩
  exact ⟨"Query", ⟨.named "Int", .ofList [("by", .list .untyped)]⟩, rfl, rfl, by decide⟩

end Model

end OperationModels
