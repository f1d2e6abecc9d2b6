-- What a generated module is made of: the fields of a struct, which stand for
-- the fields of a record one by one, the structs of a module, which stand for
-- its records and its variables, and the parts of a run that gives a module.
import OperationModels.Generation
import OperationModels.Proofs.Selections

namespace OperationModels

open Model

namespace Source

/-! ## The fields of a struct -/

theorem length_freshAll (taken idents : List String) :
    (freshAll taken idents).length = idents.length := by
  induction idents generalizing taken with
  | nil => rfl
  | cons ident rest ih => simp [freshAll, ih]

/-- A field of a struct stands for a field of a record: it has the type of
that field and says what its identifier and its type alone do not. -/
def StandsFor (ifAbsent : SerdeArgument) (field : Field) (inStruct : StructField) : Prop :=
  inStruct.type = field.type ∧
    inStruct.serde = renameFor inStruct.ident field.name ++
      if field.type.isOptional then [ifAbsent] else []

theorem standsFor_zipWith (ifAbsent : SerdeArgument) (fields : List Field)
    (idents : List String) (h : idents.length = fields.length) :
    List.Forall₂ (StandsFor ifAbsent) fields
      (List.zipWith (fun (field : Field) ident =>
        { ident := ident
          type := field.type
          serde := renameFor ident field.name ++
            if field.type.isOptional then [ifAbsent] else [] : StructField }) fields idents) := by
  induction fields generalizing idents with
  | nil => exact .nil
  | cons field rest ih =>
    cases idents with
    | nil => simp at h
    | cons ident others => exact .cons ⟨rfl, rfl⟩ (ih others (by simpa using h))

/-- The fields of a struct stand for those of the record, in order. -/
theorem standsFor_structFieldsBy (identOf : String → String) (ifAbsent : SerdeArgument)
    (fields : List Field) :
    List.Forall₂ (StandsFor ifAbsent) fields (structFieldsBy identOf ifAbsent fields) := by
  unfold structFieldsBy
  exact standsFor_zipWith ifAbsent fields _ (by simp [length_freshAll])

theorem standsFor_structFields (ifAbsent : SerdeArgument) (fields : List Field) :
    List.Forall₂ (StandsFor ifAbsent) fields (structFields ifAbsent fields) :=
  standsFor_structFieldsBy fieldIdent ifAbsent fields

/-- Only an optional field says how it stands for an absent one. -/
theorem StandsFor.ifAbsent_mem_iff {ifAbsent : SerdeArgument} {field : Field}
    {inStruct : StructField} (h : StandsFor ifAbsent field inStruct)
    (hrename : ∀ name, ifAbsent ≠ .rename name) :
    ifAbsent ∈ inStruct.serde ↔ field.type.isOptional = true := by
  obtain ⟨-, hserde⟩ := h
  have hnew : ifAbsent ∉ renameFor inStruct.ident field.name := by
    unfold renameFor
    split
    · simp
    · simpa using hrename field.name
  rw [hserde, List.mem_append]
  constructor
  · rintro (hmem | hmem)
    · exact absurd hmem hnew
    · by_contra hoptional
      simp [hoptional] at hmem
  · intro hoptional
    simp [hoptional]

/-- Neither of the arguments that stand for an absent field gives a name. -/
theorem SerdeArgument.default_ne_rename (name : String) : default ≠ rename name :=
  SerdeArgument.noConfusion

theorem SerdeArgument.skipNone_ne_rename (name : String) : skipNone ≠ rename name :=
  SerdeArgument.noConfusion

/-- What stands for a field has its name on the wire. -/
theorem StandsFor.wireName_eq {ifAbsent : SerdeArgument} {field : Field}
    {inStruct : StructField} (h : StandsFor ifAbsent field inStruct)
    (hrename : ∀ name, ifAbsent ≠ .rename name) : inStruct.wireName = field.name := by
  obtain ⟨-, hserde⟩ := h
  unfold StructField.wireName
  rw [hserde]
  unfold renameFor
  split
  · rename_i hbare
    split
    · cases ifAbsent with
      | rename name => exact absurd rfl (hrename name)
      | default => simpa using hbare
      | skipNone => simpa using hbare
    · simpa using hbare
  · simp

theorem map_wireName_structFields {ifAbsent : SerdeArgument} (fields : List Field)
    (hrename : ∀ name, ifAbsent ≠ .rename name) :
    (structFields ifAbsent fields).map StructField.wireName = fields.map Field.name :=
  (map_eq_map_of_forall₂ (standsFor_structFields ifAbsent fields)
    (fun _ _ hstands => (hstands.wireName_eq hrename).symm)).symm

/-- The names of the fields of a struct on the wire. -/
def Struct.wireNames (struct : Struct) : List String := struct.fields.map StructField.wireName

theorem wireNames_structOfRecord (extras : Extras) (doc : Option String) (record : Record) :
    (structOfRecord extras doc record).wireNames = record.fields.map Field.name :=
  map_wireName_structFields record.fields SerdeArgument.default_ne_rename

theorem wireNames_structOfVariables (extras : Extras) (operation : Operation)
    (variableFields : List Field) :
    (structOfVariables extras operation variableFields).wireNames =
      variableFields.map Field.name :=
  map_wireName_structFields variableFields SerdeArgument.skipNone_ne_rename

/-! ## The structs of a module -/

theorem structs_ofModel (operation : Operation) (records : List Record)
    (variableFields : List Field) (extras : Extras) (provided : ProvidedDeclarations) :
    (Module.ofModel operation records variableFields extras provided).structs =
      recordStructs extras provided operation records ++
        if provided.request.struct then []
        else [structOfVariables extras operation variableFields] := by
  unfold Module.ofModel
  cases provided.request.struct <;> rfl

/-- A struct of a module is that of a record the destination does not name,
that of the response or that of the variables. -/
theorem mem_structs_ofModel {operation : Operation} {nested : List Record} {data : Record}
    {variableFields : List Field} {extras : Extras} {provided : ProvidedDeclarations}
    {struct : Struct} :
    struct ∈ (Module.ofModel operation (nested ++ [data]) variableFields extras provided).structs ↔
      (∃ record ∈ nested, record.name ∉ provided.records ∧
        struct = structOfRecord extras none record) ∨
      (provided.response.struct = false ∧
        struct = structOfRecord extras (some (responseDoc operation)) data) ∨
      (provided.request.struct = false ∧
        struct = structOfVariables extras operation variableFields) := by
  unfold Module.ofModel recordStructs
  simp only [List.dropLast_concat, List.getLast?_concat, Option.toList_some, List.map_cons,
    List.map_nil, List.mem_append, List.mem_map, List.mem_filter, Bool.not_eq_eq_eq_not,
    Bool.not_true, List.contains_eq_mem, decide_eq_false_iff_not, and_assoc, or_assoc]
  refine or_congr ?_ (or_congr ?_ ?_)
  · exact exists_congr fun record => and_congr_right fun _ => and_congr_right fun _ => eq_comm
  · cases provided.response.struct <;> simp
  · cases provided.request.struct <;> simp

end Source

/-! ## A run that gives models -/

/-- The parts of a run: the operation of the document, its root, the records
of its response and its variables. -/
structure LoadedSchema.Generates (loaded : LoadedSchema) (document : String)
    (options : GenerationOptions) (generated : Generated) (root : String)
    (response : Response) (bound : Bound) : Prop where
  parsed : ∃ told, Operation.parse document options.operationName =
    .ok (generated.operation, told)
  rooted : loaded.schema.root? generated.operation.kind = some root
  resolved : loaded.naming.resolve generated.operation.selection (.named root) = .ok response
  bindings : variablesOf loaded.naming options.variableSource generated.operation
    (.named root) = .ok bound
  records : generated.records = response.records
  variableFields : generated.variableFields = bound.fields
  source : generated.source = (loaded.moduleOf options generated.operation generated.records
    generated.variableFields).render

theorem LoadedSchema.rootFor_eq_ok {loaded : LoadedSchema} {kind : OperationKind}
    {root : SchemaType} :
    loaded.rootFor kind = .ok root ↔
      ∃ name, loaded.schema.root? kind = some name ∧ root = .named name := by
  unfold LoadedSchema.rootFor
  cases loaded.schema.root? kind with
  | none => simp
  | some name => simp [eq_comm]

theorem LoadedSchema.generates_of_generate {loaded : LoadedSchema} {document : String}
    {options : GenerationOptions} {generated : Generated}
    (h : loaded.generate document options = .ok generated) :
    ∃ root response bound, loaded.Generates document options generated root response bound := by
  unfold LoadedSchema.generate at h
  simp only [bind_eq_ok, pure_eq_ok, Prod.exists] at h
  obtain ⟨operation, told, hparse, root, hroot, response, hresolve, bound, hbound, rfl⟩ := h
  obtain ⟨name, hname, rfl⟩ := LoadedSchema.rootFor_eq_ok.1 hroot
  exact ⟨name, response, bound, ⟨told, hparse⟩, hname, hresolve, hbound, rfl, rfl, rfl⟩

/-- A run walks the selections of its operation from its root on, and the record
of what is selected there comes last. -/
theorem LoadedSchema.Generates.exists_walk {loaded : LoadedSchema} {document : String}
    {options : GenerationOptions} {generated : Generated} {root : String} {response : Response}
    {bound : Bound} (h : loaded.Generates document options generated root response bound) :
    ∃ harvest, loaded.naming.walk root generated.operation.selection = .ok harvest ∧
      generated.records = harvest.records ++ [⟨dataRecord, harvest.fields⟩] := by
  obtain ⟨start, hstart, harvest, hwalk, hresponse⟩ := Naming.resolve_eq_ok.1 h.resolved
  obtain ⟨rfl, -⟩ := Naming.rootType_eq_ok.1 hstart
  exact ⟨harvest, hwalk, by rw [h.records, ← hresponse]⟩

end OperationModels
