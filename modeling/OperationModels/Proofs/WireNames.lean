-- When the structs of a module repeat no name on the wire. Identifiers never
-- collide, but two picks under one key do: the names on the wire are the keys
-- of the selections and the names of the variables, as often as those come.
import OperationModels.Proofs.BoundVariables
import OperationModels.Proofs.Modules
import OperationModels.Proofs.Selections

namespace OperationModels

open Model Source

/-! ## The names that come into a module -/

/-- What becomes a struct of a module has different names: each selection set
that the destination does not provide, and the variables if they are declared.
Bound variables always have. -/
structure LoadedSchema.KeysDiffer (loaded : LoadedSchema) (options : GenerationOptions)
    (operation : Operation) (root : String) : Prop where
  response : options.provided.response.struct = false → operation.selection.keys.Nodup
  nested : ∀ selected ∈ operation.selection.selectedFields [],
    loaded.naming.getsRecord root selected = true →
    ∀ type, loaded.schema.typeAt? root (selected.inside ++ [selected.field]) = some type →
      recordName type ∉ options.provided.records → selected.child.keys.Nodup
  request : options.provided.request.struct = false →
    options.variableSource.usesDeclared operation = true →
      (operation.declarations.map (fun declaration => declaration.name)).Nodup

theorem map_name_declaredVariables (naming : Naming)
    (declared : List Graphql.VariableDeclaration) :
    (naming.declaredVariables declared).map Field.name =
      declared.map (fun declaration => declaration.name) := by
  simp [Naming.declaredVariables, Function.comp_def]

/-- Only declared variables can repeat a name. -/
theorem nodup_variablesOf_iff {naming : Naming} {source : VariableSource} {operation : Operation}
    {root : SchemaType} {bound : Bound} (h : variablesOf naming source operation root = .ok bound) :
    (bound.fields.map Field.name).Nodup ↔
      (source.usesDeclared operation = true →
        (operation.declarations.map (fun declaration => declaration.name)).Nodup) := by
  unfold variablesOf at h
  split at h
  · rename_i hdeclared
    cases h
    rw [map_name_declaredVariables]
    exact ⟨fun hnodup _ => hnodup, fun hnodup => hnodup hdeclared⟩
  · rename_i hbound
    have hnodup := Naming.nodup_of_boundVariables h
    exact ⟨fun _ hdeclared => absurd hdeclared hbound, fun _ => hnodup⟩

/-- A record has different names exactly if the selections it stands for pick
different keys. -/
theorem nodup_of_recordFor {naming : Naming} {root : String} {selected : SelectedField}
    {record : Record} (provided : List String) (h : naming.RecordFor root selected record) :
    (∀ type, naming.schema.typeAt? root (selected.inside ++ [selected.field]) = some type →
        recordName type ∉ provided → selected.child.keys.Nodup) ↔
      (record.name ∉ provided → (record.fields.map Field.name).Nodup) := by
  obtain ⟨type, htype, hname, hfields⟩ := h
  rw [hfields.map_name, hname]
  constructor
  · intro hkeys hnew
    exact hkeys type htype hnew
  · intro hnames other hother hnew
    rw [htype, Option.some.injEq] at hother
    subst hother
    exact hnames hnew

/-! ## The laws -/

/-- A struct of a generated module has two fields of one name on the wire
exactly if a selection set that became a struct picks a key twice, or a
variable is declared twice. -/
theorem wire_names_differ_iff_keys_differ (loaded : LoadedSchema) (document : String)
    (options : GenerationOptions) (generated : Generated)
    (h : loaded.generate document options = .ok generated) :
    ∃ root told, Operation.parse document options.operationName = .ok (generated.operation, told) ∧
      loaded.schema.root? generated.operation.kind = some root ∧
      generated.source = (loaded.moduleOf options generated.operation generated.records
        generated.variableFields).render ∧
      ((∀ struct ∈ (loaded.moduleOf options generated.operation generated.records
          generated.variableFields).structs, struct.wireNames.Nodup) ↔
        loaded.KeysDiffer options generated.operation root) := by
  obtain ⟨root, response, bound, hrun⟩ := LoadedSchema.generates_of_generate h
  obtain ⟨told, hparse⟩ := hrun.parsed
  refine ⟨root, told, hparse, hrun.rooted, hrun.source, ?_⟩
  obtain ⟨name, hroot, harvest, hwalk, hresponse⟩ := Naming.resolve_eq_ok.1 hrun.resolved
  obtain ⟨rfl, -⟩ := Naming.rootType_eq_ok.1 hroot
  have hrecords : generated.records = harvest.records ++ [⟨dataRecord, harvest.fields⟩] := by
    rw [hrun.records, ← hresponse]
  have hdata : harvest.fields.map Field.name = generated.operation.selection.keys :=
    (Naming.answersAll_of_walk _ hwalk).map_name
  have hclosed : List.Forall₂ (loaded.naming.RecordFor root)
      ((generated.operation.selection.selectedFields []).filter (loaded.naming.getsRecord root))
      harvest.records := Naming.recordsFor_of_walk rfl _ hwalk
  have hnested := forall_mem_iff_of_forall₂ hclosed
    (fun _ _ => nodup_of_recordFor options.provided.records)
  have hvariables := nodup_variablesOf_iff hrun.bindings
  rw [← hrun.variableFields] at hvariables
  simp only [List.mem_filter, and_imp] at hnested
  unfold LoadedSchema.moduleOf
  rw [hrecords]
  simp only [mem_structs_ofModel]
  constructor
  · intro hstructs
    refine ⟨fun hemitted => ?_, hnested.2 fun record hrecord hnew => ?_, fun hemitted => ?_⟩
    · have := hstructs _ (.inr (.inl ⟨hemitted, rfl⟩))
      rwa [wireNames_structOfRecord, hdata] at this
    · have := hstructs _ (.inl ⟨record, hrecord, hnew, rfl⟩)
      rwa [wireNames_structOfRecord] at this
    · have := hstructs _ (.inr (.inr ⟨hemitted, rfl⟩))
      rw [wireNames_structOfVariables] at this
      exact hvariables.1 this
  · rintro hkeys struct (⟨record, hrecord, hnew, rfl⟩ | ⟨hemitted, rfl⟩ | ⟨hemitted, rfl⟩)
    · rw [wireNames_structOfRecord]
      exact hnested.1 hkeys.nested record hrecord hnew
    · rw [wireNames_structOfRecord, hdata]
      exact hkeys.response hemitted
    · rw [wireNames_structOfVariables]
      exact hvariables.2 (hkeys.request hemitted)

/-- A schema with one field, which counts. -/
def countSchema : LoadedSchema where
  name := "api"
  schema := (Schema.builtIn.insert
    ⟨"Query", .object, .ofList [("count", ⟨.named "Int", .empty⟩)]⟩).2
  mapping := .standard
  extras := ⟨[], []⟩
  warnings := []

/-- The options of a run that is asked for nothing in particular. -/
def plainOptions : GenerationOptions := ⟨none, .auto, .none⟩

theorem wire_names_of_two_counts_differ_iff_keys_differ :
    ∃ generated, countSchema.generate "{ count total: count }" plainOptions = .ok generated ∧
      ∃ root told, Operation.parse "{ count total: count }" none = .ok (generated.operation, told) ∧
        countSchema.schema.root? generated.operation.kind = some root ∧
        generated.source = (countSchema.moduleOf plainOptions generated.operation
          generated.records generated.variableFields).render ∧
        ((∀ struct ∈ (countSchema.moduleOf plainOptions generated.operation generated.records
            generated.variableFields).structs, struct.wireNames.Nodup) ↔
          countSchema.KeysDiffer plainOptions generated.operation root) := by
  obtain ⟨generated, hrun, -⟩ :=
    exists_of_any_toOption (x := countSchema.generate "{ count total: count }" plainOptions)
      (p := fun _ => true) (by decide +kernel)
  exact ⟨generated, hrun, wire_names_differ_iff_keys_differ _ _ _ _ hrun⟩

/-- A key that a selection set picks twice, as a document may, is the name of
two fields of one struct. -/
theorem a_key_picked_twice_names_two_fields :
    ∃ generated, countSchema.generate "{ count count }" plainOptions = .ok generated ∧
      ∃ struct ∈ (countSchema.moduleOf plainOptions generated.operation generated.records
        generated.variableFields).structs, struct.wireNames = ["count", "count"] := by
  obtain ⟨generated, hrun, htwice⟩ :=
    exists_of_any_toOption (x := countSchema.generate "{ count count }" plainOptions)
      (p := fun generated => (countSchema.moduleOf plainOptions generated.operation
        generated.records generated.variableFields).structs.any
          (fun struct => struct.wireNames = ["count", "count"])) (by decide +kernel)
  obtain ⟨struct, hstruct, hnames⟩ := List.any_eq_true.1 htwice
  exact ⟨generated, hrun, struct, hstruct, of_decide_eq_true hnames⟩

end OperationModels
