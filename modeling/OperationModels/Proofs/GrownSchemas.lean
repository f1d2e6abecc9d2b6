-- Schemas as they grow. From the built-in scalars on, definitions are added and
-- roots are named, in any order and any number. The first definition of a name
-- stays the one that counts, at the place where it came, and the roots hang on
-- the names alone: on those that were set last and on those that are defined.
import OperationModels.Proofs.DefinedTypes

namespace OperationModels

namespace Schema

/-! ## Changes -/

/-- What happens to a schema: a definition comes, which is added if its name is
new, or the roots are named anew. -/
inductive Change
  | insert (definition : TypeDefinition)
  | setRoots (names : RootNames)

namespace Change

def definition? : Change → Option TypeDefinition
  | .insert definition => some definition
  | .setRoots _ => none

def rootNames? : Change → Option RootNames
  | .insert _ => none
  | .setRoots names => some names

/-- The definitions that come, in order, whether they are added or not. -/
def definitions (changes : List Change) : List TypeDefinition := changes.filterMap definition?

/-- The names of the roots that were set last. -/
def lastRootNames (changes : List Change) : RootNames :=
  (changes.filterMap rootNames?).getLast?.getD .standard

end Change

def change (schema : Schema) : Change → Schema
  | .insert definition => (schema.insert definition).2
  | .setRoots names => schema.setRoots names

def changeAll (schema : Schema) (changes : List Change) : Schema := changes.foldl change schema

/-- Of each name that is not known the first definition. -/
def firstOfNames (known : List String) : List TypeDefinition → List TypeDefinition
  | [] => []
  | definition :: rest =>
    if definition.name ∈ known then firstOfNames known rest
    else definition :: firstOfNames (known ++ [definition.name]) rest

/-! ## First definitions -/

theorem changeAll_snoc (schema : Schema) (changes : List Change) (last : Change) :
    schema.changeAll (changes ++ [last]) = (schema.changeAll changes).change last := by
  unfold changeAll
  rw [List.foldl_append, List.foldl_cons, List.foldl_nil]

theorem changeAll_append (schema : Schema) (changes more : List Change) :
    schema.changeAll (changes ++ more) = (schema.changeAll changes).changeAll more :=
  List.foldl_append

theorem Change.definitions_append (changes more : List Change) :
    definitions (changes ++ more) = definitions changes ++ definitions more :=
  List.filterMap_append

/-- A definition more is first of its name if none before it has the name. -/
theorem firstOfNames_snoc (known : List String) (definitions : List TypeDefinition)
    (last : TypeDefinition) :
    firstOfNames known (definitions ++ [last]) = firstOfNames known definitions ++
      if last.name ∈ known ++ (firstOfNames known definitions).map TypeDefinition.name then []
      else [last] := by
  induction definitions generalizing known with
  | nil => simp [firstOfNames]
  | cons definition rest ih =>
    rw [List.cons_append]
    unfold firstOfNames
    by_cases hknown : definition.name ∈ known
    · rw [if_pos hknown, if_pos hknown]
      exact ih known
    · rw [if_neg hknown, if_neg hknown, ih, List.cons_append, List.map_cons, List.append_assoc,
        List.singleton_append]

/-- Of a name that is not known the first definition is found among all. -/
theorem find?_firstOfNames {known : List String} (definitions : List TypeDefinition)
    {name : String} (h : name ∉ known) :
    (firstOfNames known definitions).find? (fun definition => definition.name = name) =
      definitions.find? (fun definition => definition.name = name) := by
  induction definitions generalizing known with
  | nil => rfl
  | cons definition rest ih =>
    unfold firstOfNames
    by_cases hname : definition.name = name
    · rw [if_neg (hname ▸ h), List.find?_cons_of_pos (by simpa using hname),
        List.find?_cons_of_pos (by simpa using hname)]
    · rw [List.find?_cons_of_neg (by simpa using hname)]
      split
      · exact ih h
      · rw [List.find?_cons_of_neg (by simpa using hname)]
        exact ih (by simp [h, Ne.symm hname])

/-! ## One change -/

/-- A definition is new just if its name is. -/
theorem insert_fst_iff (schema : Schema) (definition : TypeDefinition) :
    (schema.insert definition).1 = true ↔ definition.name ∉ schema.names := by
  rw [← defines_iff, Bool.not_eq_true]
  cases hdefines : schema.defines definition.name with
  | false => exact iff_of_true (insert_of_new hdefines).1 rfl
  | true =>
    rw [insert_of_defines hdefines]
    exact iff_of_false (by simp) (by simp)

theorem insert_snd_of_not_new {schema : Schema} {definition : TypeDefinition}
    (h : (schema.insert definition).1 = false) : (schema.insert definition).2 = schema := by
  have hknown : schema.defines definition.name = true := by
    rw [defines_iff]
    by_contra hnew
    rw [(insert_fst_iff schema definition).2 hnew] at h
    cases h
  rw [insert_of_defines hknown]

theorem types_insert (schema : Schema) (definition : TypeDefinition) :
    (schema.insert definition).2.types =
      schema.types ++ if definition.name ∈ schema.names then [] else [definition] := by
  cases hdefines : schema.defines definition.name with
  | false =>
    have hnew : definition.name ∉ schema.names := fun hmem => by
      rw [defines_iff.2 hmem] at hdefines
      cases hdefines
    rw [if_neg hnew, (insert_of_new hdefines).2]
  | true => rw [if_pos (defines_iff.1 hdefines), insert_of_defines hdefines, List.append_nil]

theorem rootNames_insert (schema : Schema) (definition : TypeDefinition) :
    (schema.insert definition).2.rootNames = schema.rootNames := by
  unfold insert
  split <;> rfl

/-! ## All changes -/

theorem names_builtIn : builtIn.names = builtInScalars := by
  decide

theorem types_changeAll (changes : List Change) :
    (builtIn.changeAll changes).types =
      builtIn.types ++ firstOfNames builtInScalars (Change.definitions changes) := by
  induction changes using List.reverseRecOn with
  | nil => exact (List.append_nil _).symm
  | append_singleton changes last ih =>
    rw [changeAll_snoc, Change.definitions_append]
    cases last with
    | insert definition =>
      have hnames : (builtIn.changeAll changes).names = builtInScalars ++
          (firstOfNames builtInScalars (Change.definitions changes)).map TypeDefinition.name := by
        have hstart := names_builtIn
        unfold names at *
        rw [ih, List.map_append, hstart]
      show ((builtIn.changeAll changes).insert definition).2.types =
        builtIn.types ++ firstOfNames builtInScalars (Change.definitions changes ++ [definition])
      rw [types_insert, ih, hnames, firstOfNames_snoc, List.append_assoc]
    | setRoots roots =>
      show (builtIn.changeAll changes).types =
        builtIn.types ++ firstOfNames builtInScalars (Change.definitions changes ++ [])
      rw [ih, List.append_nil]

theorem rootNames_changeAll (changes : List Change) :
    (builtIn.changeAll changes).rootNames = Change.lastRootNames changes := by
  induction changes using List.reverseRecOn with
  | nil => rfl
  | append_singleton changes last ih =>
    rw [changeAll_snoc]
    unfold Change.lastRootNames
    rw [List.filterMap_append]
    cases last with
    | insert definition =>
      show ((builtIn.changeAll changes).insert definition).2.rootNames =
        ((changes.filterMap Change.rootNames? ++ []).getLast?.getD .standard)
      rw [rootNames_insert, ih, List.append_nil]
      rfl
    | setRoots roots =>
      show roots = ((changes.filterMap Change.rootNames? ++ [roots]).getLast?.getD .standard)
      rw [List.getLast?_concat, Option.getD_some]

/-- A name leads to the first definition that ever came under it. -/
theorem get?_changeAll (changes : List Change) (name : String) :
    (builtIn.changeAll changes).get? name =
      (builtIn.types ++ Change.definitions changes).find?
        (fun definition => definition.name = name) := by
  unfold get?
  rw [types_changeAll, List.find?_append, List.find?_append]
  by_cases hbuiltIn : name ∈ builtInScalars
  · have hfound : builtIn.get? name = some ⟨name, .scalar, .empty⟩ := by
      rw [get?_builtIn, if_pos hbuiltIn]
    unfold get? at hfound
    rw [hfound, Option.some_or, Option.some_or]
  · rw [find?_firstOfNames _ hbuiltIn]

theorem get?_changeAll_of_some (changes more : List Change) {name : String}
    {definition : TypeDefinition}
    (h : (builtIn.changeAll changes).get? name = some definition) :
    ((builtIn.changeAll changes).changeAll more).get? name = some definition := by
  rw [get?_changeAll] at h
  rw [← changeAll_append, get?_changeAll, Change.definitions_append, ← List.append_assoc,
    List.find?_append, h, Option.some_or]

theorem root?_eq (schema : Schema) (kind : OperationKind) :
    schema.root? kind = (schema.rootNames.of kind).filter (fun name => name ∈ schema.names) := by
  unfold root?
  congr 1
  funext name
  rw [Bool.eq_iff_iff, defines_iff, decide_eq_true_eq]

/-! ## The law -/

/-- What a schema is that came of the built-in one by changes: its types, what
look-ups and insertions give, and its roots. -/
structure Grown (changes : List Change) (schema : Schema) : Prop where
  types : schema.types =
    builtIn.types ++ firstOfNames builtInScalars (Change.definitions changes)
  distinct : schema.names.Nodup
  found : ∀ definition ∈ schema.types, schema.get? definition.name = some definition
  isNew : ∀ definition, (schema.insert definition).1 = true ↔ definition.name ∉ schema.names
  same : ∀ definition, (schema.insert definition).1 = false →
    (schema.insert definition).2 = schema
  first : ∀ name, schema.get? name = (builtIn.types ++ Change.definitions changes).find?
    (fun definition => definition.name = name)
  lasting : ∀ more name definition, schema.get? name = some definition →
    (schema.changeAll more).get? name = some definition
  root : ∀ kind, schema.root? kind =
    ((Change.lastRootNames changes).of kind).filter (fun name => name ∈ schema.names)
  defined : ∀ kind name, schema.root? kind = some name → name ∈ schema.names

theorem grown_changeAll (changes : List Change) : Grown changes (builtIn.changeAll changes) where
  types := types_changeAll changes
  distinct := (builtIn.changeAll changes).distinct
  found _ := get?_of_mem
  isNew := insert_fst_iff _
  same _ := insert_snd_of_not_new
  first := get?_changeAll changes
  lasting more _ _ := get?_changeAll_of_some changes more
  root kind := by rw [root?_eq, rootNames_changeAll]
  defined kind name h := by
    rw [root?_eq, Option.filter_eq_some_iff, decide_eq_true_eq] at h
    exact h.2

/-- However a schema grows, its types are the built-in scalars and behind them
the first definition of each other name, in the order in which they came; a
look-up gives the first definition of a name, now and ever after; an insertion
tells just whether the name is new, and changes nothing if it is not. A root is
a name that was set last, if it is defined, so two schemas with the same names
set last and the same names defined have the same roots. -/
theorem a_schema_grows_by_first_definitions (changes other : List Change) :
    Grown changes (builtIn.changeAll changes) ∧
      (Change.lastRootNames changes = Change.lastRootNames other →
        (∀ name, name ∈ (builtIn.changeAll changes).names ↔
          name ∈ (builtIn.changeAll other).names) →
        ∀ kind, (builtIn.changeAll changes).root? kind = (builtIn.changeAll other).root? kind) := by
  refine ⟨grown_changeAll changes, fun hroots hnames kind => ?_⟩
  rw [(grown_changeAll changes).root, (grown_changeAll other).root, hroots]
  congr 1
  funext name
  rw [Bool.eq_iff_iff, decide_eq_true_eq, decide_eq_true_eq, hnames name]

/-- A root is named before its type comes, and again as a scalar, and a built-in
name is defined over. -/
def earlyRoot : List Change :=
  [.setRoots ⟨some "Start", some "Int", none⟩, .insert ⟨"Start", .object, .empty⟩,
    .insert ⟨"Int", .enum, .empty⟩, .insert ⟨"Start", .scalar, .empty⟩]

/-- The same root is named after its type came. -/
def lateRoot : List Change :=
  [.insert ⟨"Start", .scalar, .empty⟩, .setRoots ⟨some "Query", none, none⟩,
    .setRoots ⟨some "Start", some "Int", none⟩]

theorem a_schema_of_an_early_root_grows_by_first_definitions :
    Grown earlyRoot (builtIn.changeAll earlyRoot) ∧
      Change.lastRootNames earlyRoot = Change.lastRootNames lateRoot ∧
      (∀ name, name ∈ (builtIn.changeAll earlyRoot).names ↔
        name ∈ (builtIn.changeAll lateRoot).names) ∧
      ∀ kind, (builtIn.changeAll earlyRoot).root? kind =
        (builtIn.changeAll lateRoot).root? kind := by
  have hroots : Change.lastRootNames earlyRoot = Change.lastRootNames lateRoot := rfl
  have hnames : (builtIn.changeAll earlyRoot).names = (builtIn.changeAll lateRoot).names := by
    decide
  have hsame : ∀ name, name ∈ (builtIn.changeAll earlyRoot).names ↔
      name ∈ (builtIn.changeAll lateRoot).names := fun name => by rw [hnames]
  have hgrows := a_schema_grows_by_first_definitions earlyRoot lateRoot
  exact ⟨hgrows.1, hroots, hsame, hgrows.2 hroots hsame⟩

end Schema

end OperationModels
