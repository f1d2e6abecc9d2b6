-- Names in string literals read back. Of a literal only a backslash and a quote
-- need a backslash, and both get it at once, so the scanner takes each character
-- back as it was and stops at the closing quote. In the source of models the
-- attribute of a field says the arguments it was made of, and the entry of a
-- request the name of its operation, whatever the names are.
import OperationModels.Proofs.ResponseKeys
import Mathlib.Data.List.Basic

namespace OperationModels

/-! ## Literals -/

namespace Text.Quoted

/-- The text with each occurrence of a character replaced. -/
def replaceAll (mark : Char) (instead text : List Char) : List Char :=
  text.flatMap (fun c => if c = mark then instead else [c])

/-- The backslashes come first: those put before quotes stay single. -/
theorem encode_eq_replaceAll (text : List Char) :
    encode text = replaceAll '"' ['\\', '"'] (replaceAll '\\' ['\\', '\\'] text) := by
  unfold encode replaceAll
  rw [List.flatMap_assoc]
  refine List.flatMap_congr fun c _ => ?_
  unfold encodeChar
  by_cases hbackslash : c = '\\'
  · simp [hbackslash]
  · by_cases hquote : c = '"' <;> simp [hbackslash, hquote]

theorem scan_encodeChar_append (c : Char) (text : List Char) :
    scan (encodeChar c ++ text) = (scan text).map (fun (read, after) => (c :: read, after)) := by
  unfold encodeChar
  by_cases hbackslash : c = '\\'
  · simp [hbackslash, scan]
  · by_cases hquote : c = '"'
    · simp [hquote, scan]
    · simp [hbackslash, hquote, scan]

/-- A literal is read as its text, up to the closing quote. -/
theorem scan_encode (text rest : List Char) :
    scan (encode text ++ '"' :: rest) = some (text, rest) := by
  induction text with
  | nil => rfl
  | cons c text ih =>
    have hencode : encode (c :: text) = encodeChar c ++ encode text := List.flatMap_cons
    rw [hencode, List.append_assoc, scan_encodeChar_append, ih]
    rfl

/-- The inside of a literal comes of its text by two replacements in turn, and the
literal reads back as the text, whatever follows its closing quote. -/
structure ReadsBack (text : List Char) : Prop where
  replaced : encode text = replaceAll '"' ['\\', '"'] (replaceAll '\\' ['\\', '\\'] text)
  verbatim : ∀ rest, scan (encode text ++ '"' :: rest) = some (text, rest)

theorem readsBack (text : List Char) : ReadsBack text :=
  ⟨encode_eq_replaceAll text, scan_encode text⟩

theorem scan_escape (text : String) (rest : List Char) :
    scan ((escape text ++ "\"").toList ++ rest) = some (text.toList, rest) := by
  have hlist : (escape text ++ "\"").toList ++ rest = encode text.toList ++ '"' :: rest := by
    simp [escape, String.toList_append]
  rw [hlist, scan_encode]

end Text.Quoted

theorem Text.Quoted.escape_injective : Function.Injective escape := by
  intro a b hsame
  have hread := scan_escape a []
  rw [hsame, scan_escape, Option.some.injEq, Prod.mk.injEq] at hread
  exact String.toList_inj.1 hread.1.symm

/-- What gives back each value and the rest behind its text has another text for
each value. -/
theorem injective_of_scan {α : Type} {text : α → String}
    {scan : List Char → Option (α × List Char)}
    (h : ∀ a rest, scan ((text a).toList ++ rest) = some (a, rest)) : Function.Injective text := by
  intro a b hsame
  have hread := h a []
  rw [hsame, h b, Option.some.injEq, Prod.mk.injEq] at hread
  exact hread.1.symm

namespace Source

/-! ## Attributes of fields -/

/-- Read one argument of an attribute. -/
def SerdeArgument.scan (text : List Char) : Option (SerdeArgument × List Char) :=
  match text.dropPrefix? "rename = \"".toList with
  | some inside =>
    (Text.Quoted.scan inside).map (fun (name, rest) => (.rename (String.ofList name), rest))
  | none =>
    match text.dropPrefix? "default".toList with
    | some rest => some (.default, rest)
    | none =>
      (text.dropPrefix? "skip_serializing_if = \"Option::is_none\"".toList).map
        (fun rest => (.skipNone, rest))

/-- Read arguments up to the end of the attribute, and of its line. -/
def scanArguments : (bound : Nat) → List Char → Option (List SerdeArgument × List Char)
  | 0, _ => none
  | bound + 1, text =>
    (SerdeArgument.scan text).bind (fun (argument, rest) =>
      match rest.dropPrefix? ", ".toList with
      | some more =>
        (scanArguments bound more).map (fun (others, after) => (argument :: others, after))
      | none => (rest.dropPrefix? ")]\n".toList).map (fun after => ([argument], after)))

/-- Read the attribute of a field, if a line with one comes first. -/
def StructField.scanSerde (text : List Char) : Option (List SerdeArgument × List Char) :=
  match text.dropPrefix? "    #[serde(".toList with
  | some inside => scanArguments inside.length inside
  | none => some ([], text)

/-- The line of a field behind its attribute. -/
def StructField.line (field : StructField) : String :=
  "    pub " ++ field.ident ++ ": " ++ field.type.render ++ ",\n"

theorem dropPrefix?_append_self (front rest : List Char) :
    (front ++ rest).dropPrefix? front = some rest :=
  List.dropPrefix?_append_of_beq rest (beq_self_eq_true front)

theorem SerdeArgument.scan_render (argument : SerdeArgument) (rest : List Char) :
    SerdeArgument.scan (argument.render.toList ++ rest) = some (argument, rest) := by
  cases argument with
  | rename name =>
    have hrender : (rename name).render.toList ++ rest =
        "rename = \"".toList ++ ((Text.Quoted.escape name ++ "\"").toList ++ rest) := by
      simp [SerdeArgument.render, String.toList_append]
    unfold SerdeArgument.scan
    rw [hrender, dropPrefix?_append_self]
    simp only [Text.Quoted.scan_escape, Option.map_some, String.ofList_toList]
  | default => simp [SerdeArgument.render, SerdeArgument.scan, List.dropPrefix?]
  | skipNone => simp [SerdeArgument.render, SerdeArgument.scan, List.dropPrefix?]

theorem scanArguments_intercalate {arguments : List SerdeArgument} (hsome : arguments ≠ [])
    {bound : Nat} (hbound : arguments.length ≤ bound) (rest : List Char) :
    scanArguments bound ((", ".intercalate (arguments.map SerdeArgument.render)).toList ++
      (")]\n".toList ++ rest)) = some (arguments, rest) := by
  induction arguments generalizing bound with
  | nil => exact absurd rfl hsome
  | cons first others ih =>
    cases bound with
    | zero => exact absurd hbound (by simp)
    | succ bound =>
      unfold scanArguments
      cases others with
      | nil =>
        rw [List.map_singleton, String.intercalate_singleton, SerdeArgument.scan_render]
        simp [List.dropPrefix?]
      | cons second behind =>
        rw [List.map_cons, String.intercalate_cons_of_ne_nil (by simp), String.append_assoc,
          String.toList_append, List.append_assoc, SerdeArgument.scan_render, String.toList_append,
          List.append_assoc]
        simp only [Option.bind_some, dropPrefix?_append_self]
        rw [ih (by simp) (by simpa using hbound)]
        rfl

/-- Every argument takes up some text, so the length of the text bounds their number. -/
theorem length_le_length_intercalate (arguments : List SerdeArgument) :
    arguments.length ≤ (", ".intercalate (arguments.map SerdeArgument.render)).toList.length := by
  induction arguments with
  | nil => exact Nat.zero_le _
  | cons first others ih =>
    cases others with
    | nil =>
      have hsome : 1 ≤ first.render.toList.length := by
        cases first <;> simp [SerdeArgument.render, String.toList_append]
      simpa using hsome
    | cons second behind =>
      rw [List.map_cons, String.intercalate_cons_of_ne_nil (by simp), String.toList_append,
        String.toList_append, List.length_append, List.length_append, List.length_cons]
      have hcomma : (", " : String).toList.length = 2 := rfl
      omega

/-- The attribute of a field says the arguments that it was made of. -/
theorem StructField.scanSerde_render (field : StructField) (rest : List Char) :
    scanSerde (field.render.toList ++ rest) = some (field.serde, field.line.toList ++ rest) := by
  unfold scanSerde
  cases hserde : field.serde with
  | nil =>
    have hrender : field.render = field.line := by
      simp [StructField.render, StructField.line, hserde]
    rw [hrender]
    simp [StructField.line, String.toList_append, List.dropPrefix?]
  | cons first others =>
    have hrender : field.render.toList ++ rest = "    #[serde(".toList ++
        ((", ".intercalate (field.serde.map SerdeArgument.render)).toList ++
          (")]\n".toList ++ (field.line.toList ++ rest))) := by
      simp [StructField.render, StructField.line, hserde, String.toList_append]
    rw [hrender, dropPrefix?_append_self]
    dsimp only
    rw [hserde]
    refine scanArguments_intercalate (List.cons_ne_nil first others) ?_ _
    rw [List.length_append]
    exact Nat.le_add_right_of_le (length_le_length_intercalate _)

/-! ## Entries of requests -/

namespace MethodBlock

/-- Lines, each with its end. -/
def ended (lines : List String) : String := String.join (lines.map (fun line => line ++ "\n"))

/-- The lines of an encoding method up to what names its operation. -/
def opening (target : String) : String :=
  ended ["impl " ++ target ++ " \x7b",
    "    /// Encode a request payload for `OPERATION` with these variables.",
    "    pub fn encode(&self) -> serde_json::Result<serde_json::Value> \x7b",
    "        Ok(serde_json::json!(\x7b",
    "            \"query\": OPERATION,"]

/-- The line that names an operation, which a request of an unnamed one lacks. -/
def entry (operation : Option String) : String :=
  ended (operation.toList.map (fun name =>
    "            \"operationName\": \"" ++ Text.Quoted.escape name ++ "\","))

/-- The lines behind that. -/
def closing : String :=
  ended ["            \"variables\": serde_json::to_value(self)?,", "        \x7d))", "    \x7d",
    "\x7d"]

/-- Read the name of the operation, if the line with one comes first. -/
def scanEntry (text : List Char) : Option (Option String × List Char) :=
  match text.dropPrefix? "            \"operationName\": \"".toList with
  | some inside =>
    (Text.Quoted.scan inside).bind (fun (name, rest) =>
      (rest.dropPrefix? ",\n".toList).map (fun after => (some (String.ofList name), after)))
  | none => some (none, text)

/-- Read the name of the operation from the encoding method of a struct. -/
def scanOperation (target : String) (text : List Char) : Option (Option String × List Char) :=
  (text.dropPrefix? (opening target).toList).bind (fun inside =>
    (scanEntry inside).bind (fun (operation, rest) =>
      (rest.dropPrefix? closing.toList).map (fun after => (operation, after))))

theorem ended_append (lines more : List String) :
    ended (lines ++ more) = ended lines ++ ended more := by
  rw [ended, List.map_append, String.join_append]
  rfl

theorem render_encode (target : String) (operation : Option String) :
    render ⟨target, .encode operation⟩ = opening target ++ (entry operation ++ closing) := by
  unfold opening entry closing
  rw [← ended_append, ← ended_append]
  cases operation <;> rfl

theorem scanEntry_entry (operation : Option String) (rest : List Char) :
    scanEntry ((entry operation).toList ++ (closing.toList ++ rest)) =
      some (operation, closing.toList ++ rest) := by
  cases operation with
  | none => simp [scanEntry, entry, closing, ended, List.dropPrefix?]
  | some name =>
    have hentry : (entry (some name)).toList ++ (closing.toList ++ rest) =
        "            \"operationName\": \"".toList ++ ((Text.Quoted.escape name ++ "\"").toList ++
          (",\n".toList ++ (closing.toList ++ rest))) := by
      simp [entry, ended, String.toList_append]
    unfold scanEntry
    rw [hentry, dropPrefix?_append_self]
    simp only [Text.Quoted.scan_escape, Option.bind_some, dropPrefix?_append_self, Option.map_some,
      String.ofList_toList]

/-- An encoding method says the name of the operation that it was made for. -/
theorem scanOperation_render (target : String) (operation : Option String) (rest : List Char) :
    scanOperation target ((render ⟨target, .encode operation⟩).toList ++ rest) =
      some (operation, rest) := by
  unfold scanOperation
  rw [render_encode, String.toList_append, String.toList_append, List.append_assoc,
    List.append_assoc, dropPrefix?_append_self, Option.bind_some, scanEntry_entry]
  simp only [Option.bind_some, dropPrefix?_append_self, Option.map_some]

end MethodBlock

/-! ## Parts of a module -/

theorem exists_intercalate_eq (sep : String) {part : String} {parts : List String}
    (h : part ∈ parts) :
    ∃ before behind, sep.intercalate parts = before ++ part ++ behind := by
  induction parts with
  | nil => cases h
  | cons first rest ih =>
    rcases List.mem_cons.1 h with rfl | hlater
    · cases rest with
      | nil => exact ⟨"", "", by simp⟩
      | cons second others =>
        refine ⟨"", sep ++ sep.intercalate (second :: others), ?_⟩
        rw [String.intercalate_cons_of_ne_nil (List.cons_ne_nil _ _), String.empty_append,
          String.append_assoc]
    · obtain ⟨before, behind, hrest⟩ := ih hlater
      refine ⟨first ++ sep ++ before, behind, ?_⟩
      rw [String.intercalate_cons_of_ne_nil (List.ne_nil_of_mem hlater), hrest]
      simp only [String.append_assoc]

theorem exists_join_eq {part : String} {parts : List String} (h : part ∈ parts) :
    ∃ before behind, String.join parts = before ++ part ++ behind := by
  obtain ⟨front, back, rfl⟩ := List.append_of_mem h
  exact ⟨String.join front, String.join back, by
    rw [String.join_append, String.join_cons, String.append_assoc]⟩

/-- The text of each field of each struct stands in the text of the module. -/
theorem Module.exists_render_of_field {file : Module} {struct : Struct} {field : StructField}
    (hstruct : struct ∈ file.structs) (hfield : field ∈ struct.fields) :
    ∃ before behind, file.render = before ++ field.render ++ behind := by
  have hsection : struct.render ∈ file.sections := by
    unfold Module.sections
    simp only [List.mem_append]
    exact .inl (.inr (List.mem_map_of_mem hstruct))
  obtain ⟨before, behind, hfile⟩ := exists_intercalate_eq "\n" hsection
  obtain ⟨front, back, hjoin⟩ :=
    exists_join_eq (List.mem_map_of_mem (f := StructField.render) hfield)
  have hsome : struct.fields.isEmpty = false := by
    rw [List.isEmpty_eq_false_iff]
    exact List.ne_nil_of_mem hfield
  obtain ⟨head, hhead⟩ : ∃ head, struct.render =
      head ++ String.join (struct.fields.map StructField.render) ++ "\x7d\n" := by
    unfold Struct.render
    simp only [hsome, Bool.false_eq_true, if_false]
    exact ⟨_, rfl⟩
  refine ⟨before ++ head ++ front, back ++ "\x7d\n" ++ behind, ?_⟩
  unfold Module.render
  rw [hfile, hhead, hjoin]
  simp only [String.append_assoc]

theorem Module.exists_render_of_method {file : Module} {block : MethodBlock}
    (h : block ∈ file.methods) :
    ∃ before behind, file.render = before ++ block.render ++ behind := by
  apply exists_intercalate_eq
  unfold Module.sections
  simp only [List.mem_append]
  exact .inr (List.mem_map_of_mem h)

/-! ## Names on the wire -/

/-- An argument that renames a field of a struct gives the name of the field that it
stands for. -/
theorem StandsFor.eq_name {ifAbsent : SerdeArgument} {field : Model.Field}
    {inStruct : StructField} (h : StandsFor ifAbsent field inStruct)
    (hrename : ∀ name, ifAbsent ≠ .rename name) {name : String}
    (hmem : SerdeArgument.rename name ∈ inStruct.serde) : name = field.name := by
  rw [h.2, List.mem_append] at hmem
  rcases hmem with hown | habsent
  · unfold renameFor at hown
    split at hown
    · cases hown
    · simpa using hown
  · split at habsent
    · exact absurd (List.mem_singleton.1 habsent).symm (hrename name)
    · cases habsent

/-- A source says the name of a field of the models: the field of a struct that is
made for it has that name on the wire, no argument gives it another one, and where
its text stands the attribute reads back. -/
structure SaysName (source : String) (field : Model.Field) (inStruct : StructField) : Prop where
  wireName : inStruct.wireName = field.name
  renamed : ∀ name, .rename name ∈ inStruct.serde → name = field.name
  readBack : ∃ before behind, source = before ++ inStruct.render ++ behind ∧
    StructField.scanSerde (inStruct.render ++ behind).toList =
      some (inStruct.serde, (inStruct.line ++ behind).toList)

theorem StandsFor.saysName {ifAbsent : SerdeArgument} {field : Model.Field}
    {inStruct : StructField} {source : String} (h : StandsFor ifAbsent field inStruct)
    (hrename : ∀ name, ifAbsent ≠ .rename name)
    (hstands : ∃ before behind, source = before ++ inStruct.render ++ behind) :
    SaysName source field inStruct := by
  refine ⟨h.wireName_eq hrename, fun _ hmem => h.eq_name hrename hmem, ?_⟩
  obtain ⟨before, behind, hsource⟩ := hstands
  refine ⟨before, behind, hsource, ?_⟩
  rw [String.toList_append, String.toList_append, StructField.scanSerde_render]

/-- A source in which the text of a struct's fields stands says the names of the
fields that the struct is made of. -/
theorem saysName_structFields {ifAbsent : SerdeArgument}
    (hrename : ∀ name, ifAbsent ≠ .rename name) {source : String} {fields : List Model.Field}
    (h : ∀ inStruct ∈ structFields ifAbsent fields,
      ∃ before behind, source = before ++ inStruct.render ++ behind) :
    List.Forall₂ (SaysName source) fields (structFields ifAbsent fields) := by
  have hboth := (List.forall₂_and_left _ _).2 ⟨h, (standsFor_structFields ifAbsent fields).flip⟩
  exact hboth.flip.imp (fun _ _ ⟨hstands, hfield⟩ => StandsFor.saysName hfield hrename hstands)

/-- A module encodes requests under the name of its operation. -/
theorem Module.eq_name_of_encode {operation : Operation} {records : List Model.Record}
    {variableFields : List Model.Field} {extras : Extras} {provided : ProvidedDeclarations}
    {target : String} {written : Option String}
    (h : ⟨target, .encode written⟩ ∈
      (ofModel operation records variableFields extras provided).methods) :
    written = operation.name := by
  unfold ofModel at h
  rcases List.mem_append.1 h with hresponse | hrequest
  · split at hresponse
    · cases hresponse
    · cases List.mem_singleton.1 hresponse
  · split at hrequest
    · cases hrequest
    · cases List.mem_singleton.1 hrequest
      rfl

end Source

/-! ## The law -/

open Source

/-- The source of models says their names: each struct of the module is made of the
fields of a record, or of the variables, and says their names one by one, and the
encoding method, if there is one, says the name of the operation. -/
structure Source.Module.SaysNames (file : Module) (generated : Generated) : Prop where
  fields : ∀ struct ∈ file.structs,
    (∃ record ∈ generated.records, struct.name = record.name ∧
      List.Forall₂ (SaysName generated.source) record.fields struct.fields) ∨
    (struct.name = Model.variablesRecord ∧
      List.Forall₂ (SaysName generated.source) generated.variableFields struct.fields)
  request : ∀ target written, ⟨target, .encode written⟩ ∈ file.methods →
    ∃ before behind,
      generated.source = before ++ MethodBlock.render ⟨target, .encode written⟩ ++ behind ∧
      MethodBlock.scanOperation target
          (MethodBlock.render ⟨target, .encode written⟩ ++ behind).toList =
        some (generated.operation.name, behind.toList)

/-- The source of a module says the names of the records and variables that the
module is made of. -/
theorem saysNames_ofModel {generated : Generated} {nested : List Model.Record}
    {data : Model.Record} {extras : Extras} {provided : ProvidedDeclarations}
    (hrecords : generated.records = nested ++ [data])
    (hsource : generated.source = (Module.ofModel generated.operation generated.records
      generated.variableFields extras provided).render) :
    (Module.ofModel generated.operation generated.records generated.variableFields extras
      provided).SaysNames generated := by
  constructor
  · intro struct hstruct
    have hstands : ∀ inStruct ∈ struct.fields,
        ∃ before behind, generated.source = before ++ inStruct.render ++ behind := by
      intro inStruct hfield
      rw [hsource]
      exact Module.exists_render_of_field hstruct hfield
    rw [hrecords] at hstruct ⊢
    rcases mem_structs_ofModel.1 hstruct with ⟨record, hrecord, -, rfl⟩ | ⟨-, rfl⟩ | ⟨-, rfl⟩
    · exact .inl ⟨record, List.mem_append_left _ hrecord, rfl,
        saysName_structFields SerdeArgument.default_ne_rename hstands⟩
    · exact .inl ⟨data, List.mem_concat_self, rfl,
        saysName_structFields SerdeArgument.default_ne_rename hstands⟩
    · exact .inr ⟨rfl, saysName_structFields SerdeArgument.skipNone_ne_rename hstands⟩
  · intro target written hblock
    obtain ⟨before, behind, hrender⟩ := Module.exists_render_of_method hblock
    refine ⟨before, behind, hsource.trans hrender, ?_⟩
    rw [String.toList_append, MethodBlock.scanOperation_render, Module.eq_name_of_encode hblock]

/-- Every text reads back from its literal. So the attribute of a field says its
arguments and a request its operation, texts of different ones are different, and
the source of models says all names that it was made with. -/
theorem names_read_back_from_string_literals :
    (∀ text, Text.Quoted.ReadsBack text) ∧
      (∀ (field : StructField) (rest : List Char),
        StructField.scanSerde (field.render.toList ++ rest) =
          some (field.serde, field.line.toList ++ rest)) ∧
      (∀ (target : String) (operation : Option String) (rest : List Char),
        MethodBlock.scanOperation target
            ((MethodBlock.render ⟨target, .encode operation⟩).toList ++ rest) =
          some (operation, rest)) ∧
      Function.Injective Text.Quoted.escape ∧ Function.Injective SerdeArgument.render ∧
      (∀ target, Function.Injective (fun operation =>
        MethodBlock.render ⟨target, .encode operation⟩)) ∧
      ∀ (loaded : LoadedSchema) (document : String) (options : GenerationOptions)
        (generated : Generated), loaded.generate document options = .ok generated →
        (loaded.moduleOf options generated.operation generated.records
          generated.variableFields).SaysNames generated := by
  refine ⟨Text.Quoted.readsBack, StructField.scanSerde_render, MethodBlock.scanOperation_render,
    Text.Quoted.escape_injective, injective_of_scan SerdeArgument.scan_render,
    fun target => injective_of_scan (MethodBlock.scanOperation_render target),
    fun loaded document options generated h => ?_⟩
  obtain ⟨root, response, bound, hrun⟩ := LoadedSchema.generates_of_generate h
  obtain ⟨harvest, -, hrecords⟩ := hrun.exists_walk
  exact saysNames_ofModel hrecords hrun.source

/-- A field that is asked for under a longer name, by a named operation. -/
def renamedDocument : String := "query Names($old: Int) \x7b fullName: name(old: $old) \x7d"

theorem names_of_a_renamed_field_read_back_from_string_literals :
    ∃ loaded generated, LoadedSchema.ofText "api" "type Query \x7b name(old: Int): String \x7d"
        .none = .ok loaded ∧
      loaded.generate renamedDocument ⟨none, .auto, .none⟩ = .ok generated ∧
      generated.operation.name = some "Names" ∧
      ((loaded.moduleOf ⟨none, .auto, .none⟩ generated.operation generated.records
        generated.variableFields).structs.map (fun struct => struct.fields.map StructField.serde)) =
          [[[.rename "fullName", .default]], [[.skipNone]]] ∧
      (loaded.moduleOf ⟨none, .auto, .none⟩ generated.operation generated.records
        generated.variableFields).SaysNames generated := by
  obtain ⟨loaded, hloaded, hgenerates⟩ := exists_of_any_toOption
    (x := LoadedSchema.ofText "api" "type Query \x7b name(old: Int): String \x7d" .none)
    (p := fun loaded => (loaded.generate renamedDocument ⟨none, .auto, .none⟩).toOption.any
      (fun generated => generated.operation.name = some "Names" ∧
        ((loaded.moduleOf ⟨none, .auto, .none⟩ generated.operation generated.records
          generated.variableFields).structs.map
            (fun struct => struct.fields.map StructField.serde)) =
          [[[.rename "fullName", .default]], [[.skipNone]]]))
    (by decide +kernel)
  obtain ⟨generated, hgenerated, hmade⟩ := exists_of_any_toOption hgenerates
  obtain ⟨hname, hserde⟩ := of_decide_eq_true hmade
  obtain ⟨-, -, -, -, -, -, hsays⟩ := names_read_back_from_string_literals
  exact ⟨loaded, generated, hloaded, hgenerated, hname, hserde,
    hsays loaded renamedDocument _ generated hgenerated⟩

end OperationModels
