-- What a destination provides already. A module for it lacks those parts and is
-- otherwise the module that leaves nothing out: a nested struct goes by its
-- name, and the structs of the response and of the variables by their places.
import OperationModels.Proofs.Modules

namespace OperationModels

open Model

namespace Source

/-! ## Places -/

/-- A filter that looks at the entries only, place or no place. -/
theorem map_fst_filter_zipIdx {α : Type} (keep : α → Bool) (keepAt : α × Nat → Bool)
    (items : List α) (start : Nat)
    (h : ∀ item place, start ≤ place → place < start + items.length →
      keepAt (item, place) = keep item) :
    ((items.zipIdx start).filter keepAt).map Prod.fst = items.filter keep := by
  induction items generalizing start with
  | nil => rfl
  | cons item rest ih =>
    have hfirst : keepAt (item, start) = keep item := by
      apply h <;> simp
    have hrest := ih (start + 1) (fun other place hstart hend => by
      apply h
      · omega
      · simp only [List.length_cons]
        omega)
    rw [List.zipIdx_cons, List.filter_cons, List.filter_cons, hfirst, ← hrest]
    split <;> rfl

/-- Is the struct at a place of a module still needed? The structs of the
records come first, that of the response last among them, and then that of the
variables. -/
def ProvidedDeclarations.needs (provided : ProvidedDeclarations) (records place : Nat)
    (struct : Struct) : Bool :=
  if place + 1 < records then !provided.records.contains struct.name
  else if place < records then !provided.response.struct
  else !provided.request.struct

theorem needs_nested {provided : ProvidedDeclarations} {records place : Nat} {struct : Struct}
    (h : place + 1 < records) :
    provided.needs records place struct = !provided.records.contains struct.name :=
  if_pos h

theorem needs_response (provided : ProvidedDeclarations) (place : Nat) (struct : Struct) :
    provided.needs (place + 1) place struct = !provided.response.struct := by
  simp [ProvidedDeclarations.needs]

theorem needs_request (provided : ProvidedDeclarations) (place : Nat) (struct : Struct) :
    provided.needs place place struct = !provided.request.struct := by
  unfold ProvidedDeclarations.needs
  rw [if_neg (by omega), if_neg (by omega)]

/-! ## The parts of a module -/

/-- The structs of the nested records, in order. -/
def nestedStructs (extras : Extras) (records : List Record) : List Struct :=
  records.dropLast.map (structOfRecord extras none)

/-- The struct of the response, which is that of the last record. -/
def responseStruct? (extras : Extras) (operation : Operation) (records : List Record) :
    Option Struct :=
  records.getLast?.map (structOfRecord extras (some (responseDoc operation)))

theorem recordStructs_eq (extras : Extras) (provided : ProvidedDeclarations)
    (operation : Operation) (records : List Record) :
    recordStructs extras provided operation records =
      (nestedStructs extras records).filter
          (fun struct => !provided.records.contains struct.name) ++
        if provided.response.struct then []
        else (responseStruct? extras operation records).toList := by
  unfold recordStructs nestedStructs responseStruct?
  rw [List.filter_map, Option.toList_map]
  rfl

theorem length_nestedStructs (extras : Extras) (records : List Record) :
    (nestedStructs extras records).length = records.length - 1 := by
  simp [nestedStructs]

theorem structs_ofModel_none (operation : Operation) (records : List Record)
    (variableFields : List Field) (extras : Extras) :
    (Module.ofModel operation records variableFields extras .none).structs =
      nestedStructs extras records ++ ((responseStruct? extras operation records).toList ++
        [structOfVariables extras operation variableFields]) := by
  have hall : (nestedStructs extras records).filter
      (fun struct => !ProvidedDeclarations.none.records.contains struct.name) =
        nestedStructs extras records := List.filter_eq_self.2 (fun _ _ => rfl)
  rw [structs_ofModel, recordStructs_eq, hall, List.append_assoc]
  rfl

/-- The structs of a module that leaves nothing out are named for the records, in
order, and behind them stands that of the variables. -/
theorem map_name_structs_none (operation : Operation) (records : List Record)
    (variableFields : List Field) (extras : Extras) :
    (Module.ofModel operation records variableFields extras .none).structs.map Struct.name =
      records.map Record.name ++ [variablesRecord] := by
  have hname : ∀ doc, Struct.name ∘ structOfRecord extras doc = Record.name := fun _ => rfl
  rw [structs_ofModel_none]
  unfold nestedStructs responseStruct?
  rcases List.eq_nil_or_concat' records with rfl | ⟨nested, data, rfl⟩
  · rfl
  · rw [List.dropLast_concat, List.getLast?_concat, List.map_append, List.map_map, hname,
      List.map_append, List.map_append, List.append_assoc]
    rfl

/-- The structs that are left are those of the full module at the places that
are still needed. -/
theorem structs_eq_filter_needs (operation : Operation) (records : List Record)
    (variableFields : List Field) (extras : Extras) (provided : ProvidedDeclarations) :
    (Module.ofModel operation records variableFields extras provided).structs =
      ((Module.ofModel operation records variableFields extras .none).structs.zipIdx.filter
        (fun entry => provided.needs records.length entry.2 entry.1)).map Prod.fst := by
  have hlength := length_nestedStructs extras records
  have hnested := map_fst_filter_zipIdx
    (fun struct => !provided.records.contains struct.name)
    (fun entry => provided.needs records.length entry.2 entry.1)
    (nestedStructs extras records) 0 (fun struct place _ hplace => needs_nested (by omega))
  rw [structs_ofModel, recordStructs_eq, structs_ofModel_none, List.zipIdx_append,
    List.filter_append, List.map_append, hnested, List.append_assoc, hlength, Nat.zero_add]
  congr 1
  -- behind the nested structs stands that of the response, if there is a record for it
  unfold responseStruct?
  rcases List.eq_nil_or_concat' records with rfl | ⟨nested, data, rfl⟩
  · cases hrequest : provided.request.struct <;> simp [needs_request, hrequest]
  · cases hresponse : provided.response.struct <;> cases hrequest : provided.request.struct <;>
      simp [List.zipIdx_cons, needs_response, needs_request, hresponse, hrequest]

/-- A module is another one without the parts that a destination provides: head
and constants are the same, the structs are those at the needed places, and each
of the two methods stands unless it is provided. -/
structure Module.LacksOf (module full : Module) (provided : ProvidedDeclarations)
    (records : Nat) : Prop where
  header : module.header = full.header
  constants : module.constants = full.constants
  structs : module.structs = (full.structs.zipIdx.filter
    (fun entry => provided.needs records entry.2 entry.1)).map Prod.fst
  methods : ∃ decoding encoding name, full.methods = [decoding, encoding] ∧
    decoding.kind = .decode ∧ decoding.target = dataRecord ∧
    encoding.kind = .encode name ∧ encoding.target = variablesRecord ∧
    module.methods = (if provided.response.method then [] else [decoding]) ++
      if provided.request.method then [] else [encoding]

theorem lacksOf_ofModel (operation : Operation) (records : List Record)
    (variableFields : List Field) (extras : Extras) (provided : ProvidedDeclarations) :
    (Module.ofModel operation records variableFields extras provided).LacksOf
      (Module.ofModel operation records variableFields extras .none) provided records.length where
  header := rfl
  constants := rfl
  structs := structs_eq_filter_needs operation records variableFields extras provided
  methods := ⟨⟨dataRecord, .decode⟩, ⟨variablesRecord, .encode operation.name⟩, operation.name,
    rfl, rfl, rfl, rfl, rfl, rfl⟩

end Source

/-! ## Runs -/

/-- What a run gives besides the source. -/
def Generated.findings (generated : Generated) :
    Operation × List Record × List Field × List Warning :=
  (generated.operation, generated.records, generated.variableFields, generated.warnings)

/-- What the destination provides has no part in a run but for its source. -/
theorem LoadedSchema.findings_generate (loaded : LoadedSchema) (document : String)
    (options : GenerationOptions) (provided : Source.ProvidedDeclarations) :
    (loaded.generate document { options with provided := provided }).map Generated.findings =
      (loaded.generate document options).map Generated.findings := by
  unfold generate
  simp only [map_bind]
  rfl

/-! ## The law -/

/-- A module for a destination that provides some declarations is the module
that leaves nothing out without just those parts. The full module has a struct
for each record in order and one for the variables; of them go the nested ones
with a provided name, the one of the last record only if the response is
provided, and the one of the variables only if the request is. So runs that
differ in what is provided fail alike, or find the same in all but the source. -/
theorem provided_parts_only_are_left_out (operation : Operation) (records : List Record)
    (variableFields : List Field) (extras : Source.Extras)
    (provided other : Source.ProvidedDeclarations) (loaded : LoadedSchema) (document : String)
    (options : GenerationOptions) :
    (Source.Module.ofModel operation records variableFields extras .none).structs.map
        Source.Struct.name = records.map Record.name ++ [variablesRecord] ∧
      (Source.Module.ofModel operation records variableFields extras provided).LacksOf
        (Source.Module.ofModel operation records variableFields extras .none) provided
        records.length ∧
      (loaded.generate document { options with provided := provided }).map Generated.findings =
        (loaded.generate document { options with provided := other }).map Generated.findings := by
  refine ⟨?_, ?_, ?_⟩
  · exact Source.map_name_structs_none operation records variableFields extras
  · exact Source.lacksOf_ofModel operation records variableFields extras provided
  · rw [loaded.findings_generate document options provided,
      loaded.findings_generate document options other]

end OperationModels
