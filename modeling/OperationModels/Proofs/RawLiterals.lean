-- Raw literals read back. A quote ends a literal only if as many hashes follow
-- it as its fence has. So a text reads back from its literal exactly if the
-- fence has more hashes than follow any quote of the text, and the fence of
-- `encode` is the shortest of these. The document of an operation stands in the
-- source of its models word for word.
import OperationModels.Proofs.ResponseKeys
import Mathlib.Data.List.Infix

namespace OperationModels

namespace Text.RawQuoted

variable {text rest : List Char} {hashes : Nat}

/-! ## Fences -/

/-- A text between fences of so many hashes, whatever the text holds. -/
def encodeWith (hashes : Nat) (text : List Char) : List Char :=
  let fence := List.replicate hashes '#'
  'r' :: fence ++ '"' :: text ++ '"' :: fence

/-- A text that closes a fence of so many hashes: a quote in it has them right
behind it. -/
def Closes (text : List Char) (hashes : Nat) : Prop :=
  '"' :: List.replicate hashes '#' <:+: text

instance (text : List Char) (hashes : Nat) : Decidable (Closes text hashes) :=
  inferInstanceAs (Decidable (_ <:+: _))

/-- Take one more hash in each round until the text does not close the fence.
There is no answer where the rounds do not suffice. -/
def search (text : List Char) : (rounds hashes : Nat) → Option Nat
  | 0, _ => none
  | rounds + 1, hashes =>
    if Closes text hashes then search text rounds (hashes + 1) else some hashes

/-! ## Hashes behind a quote -/

theorem leadingHashes_cons (c : Char) (rest : List Char) :
    leadingHashes (c :: rest) = if c = '#' then leadingHashes rest + 1 else 0 := by
  unfold leadingHashes
  rw [List.takeWhile_cons]
  by_cases hash : c = '#' <;> simp [hash]

theorem leadingHashes_le_length (text : List Char) : leadingHashes text ≤ text.length :=
  (List.takeWhile_prefix _).length_le

/-- The quote that ends a text is no hash, and none behind it counts. -/
theorem leadingHashes_append_quote (text rest : List Char) :
    leadingHashes (text ++ '"' :: rest) = leadingHashes text := by
  induction text with
  | nil => rfl
  | cons c text ih => rw [List.cons_append, leadingHashes_cons, leadingHashes_cons, ih]

theorem leadingHashes_replicate_append_quote (hashes : Nat) (rest : List Char) :
    leadingHashes (List.replicate hashes '#' ++ '"' :: rest) = hashes := by
  rw [leadingHashes_append_quote]
  unfold leadingHashes
  rw [List.takeWhile_replicate]
  simp

theorem replicate_prefix_iff :
    List.replicate hashes '#' <+: text ↔ hashes ≤ leadingHashes text := by
  induction hashes generalizing text with
  | zero => simp
  | succ hashes ih =>
    cases text with
    | nil => simp [leadingHashes]
    | cons c rest =>
      rw [List.replicate_succ, List.cons_prefix_cons, ih, leadingHashes_cons]
      by_cases hash : c = '#'
      · simp [hash]
      · simp [hash, Ne.symm hash]

theorem not_closes_nil (hashes : Nat) : ¬ Closes [] hashes := by
  simp [Closes]

theorem closes_cons_iff {c : Char} :
    Closes (c :: rest) hashes ↔ c = '"' ∧ hashes ≤ leadingHashes rest ∨ Closes rest hashes := by
  unfold Closes
  rw [List.infix_cons_iff, List.cons_prefix_cons, replicate_prefix_iff, eq_comm (b := c)]

/-! ## The fence of a text -/

theorem fence_cons (c : Char) (rest : List Char) :
    fence (c :: rest) =
      if c = '"' then max (leadingHashes rest + 1) (fence rest) else fence rest := rfl

theorem one_le_fence (text : List Char) : 1 ≤ fence text := by
  induction text with
  | nil => exact Nat.le_refl 1
  | cons c rest ih =>
    rw [fence_cons]
    split
    · exact ih.trans (Nat.le_max_right _ _)
    · exact ih

theorem fence_le (text : List Char) : fence text ≤ text.length + 1 := by
  induction text with
  | nil => exact Nat.le_refl 1
  | cons c rest ih =>
    have hrun := leadingHashes_le_length rest
    rw [fence_cons, List.length_cons]
    split <;> omega

/-- A text closes just the fences that are shorter than its own. -/
theorem closes_iff_lt_fence (hsome : 1 ≤ hashes) : Closes text hashes ↔ hashes < fence text := by
  induction text with
  | nil => exact iff_of_false (not_closes_nil hashes) (Nat.not_lt_of_le hsome)
  | cons c rest ih =>
    rw [closes_cons_iff, ih, fence_cons]
    by_cases hquote : c = '"'
    · rw [if_pos hquote, and_iff_right hquote]
      omega
    · rw [if_neg hquote, or_iff_right (fun h => hquote h.1)]

/-- From a fence that is not too long on, the search comes to the fence of the
text. -/
theorem search_eq_some {rounds : Nat} (hsome : 1 ≤ hashes) (hstart : hashes ≤ fence text)
    (hend : fence text < hashes + rounds) : search text rounds hashes = some (fence text) := by
  induction rounds generalizing hashes with
  | zero => omega
  | succ rounds ih =>
    unfold search
    by_cases hcloses : Closes text hashes
    · rw [if_pos hcloses]
      have hlonger := (closes_iff_lt_fence hsome).1 hcloses
      exact ih (by omega) (by omega) (by omega)
    · rw [if_neg hcloses]
      rw [closes_iff_lt_fence hsome] at hcloses
      exact congrArg some (by omega)

/-! ## Reading back -/

/-- A text that does not close the fence is read up to its end. -/
theorem scanBody_of_not_closes (rest : List Char) (h : ¬ Closes text hashes) :
    scanBody hashes (text ++ '"' :: List.replicate hashes '#' ++ rest) = some (text, rest) := by
  induction text with
  | nil =>
    have hrun : hashes ≤ leadingHashes (List.replicate hashes '#' ++ rest) :=
      replicate_prefix_iff.1 (List.prefix_append _ _)
    simp [scanBody, hrun]
  | cons c text ih =>
    rw [closes_cons_iff, not_or, not_and] at h
    have hrun : leadingHashes (text ++ '"' :: List.replicate hashes '#' ++ rest) =
        leadingHashes text := by
      rw [List.append_assoc, List.cons_append, leadingHashes_append_quote]
    have hgoes : ¬ (decide (c = '"') && decide (hashes ≤ leadingHashes text)) = true := by
      simpa using h.1
    rw [List.cons_append, List.cons_append, scanBody, hrun, if_neg hgoes, ih h.2]
    rfl

/-- A text that closes the fence is cut off before its end. -/
theorem scanBody_ne_of_closes (behind : List Char) (h : Closes text hashes) :
    scanBody hashes (text ++ '"' :: behind) ≠ some (text, rest) := by
  induction text with
  | nil => exact absurd h (not_closes_nil hashes)
  | cons c text ih =>
    rw [closes_cons_iff] at h
    rw [List.cons_append, scanBody, leadingHashes_append_quote]
    split
    · simp
    · rename_i hgoes
      have hlater : Closes text hashes := by
        rcases h with hquote | hlater
        · simp [hquote] at hgoes
        · exact hlater
      intro hread
      obtain ⟨⟨read, after⟩, hbody, hsame⟩ := Option.map_eq_some_iff.1 hread
      cases hsame
      exact ih hlater hbody

theorem scan_encodeWith_append (hashes : Nat) (text rest : List Char) :
    scan (encodeWith hashes text ++ rest) =
      scanBody hashes (text ++ '"' :: List.replicate hashes '#' ++ rest) := by
  have hopens : encodeWith hashes text ++ rest = 'r' :: (List.replicate hashes '#' ++
      '"' :: (text ++ '"' :: List.replicate hashes '#' ++ rest)) := by
    simp [encodeWith]
  rw [hopens, scan, leadingHashes_replicate_append_quote]
  simp only [List.drop_left', List.length_replicate]

/-- A text reads back from between two fences exactly if they are as long as its
own, at least. -/
theorem scan_encodeWith_iff (hsome : 1 ≤ hashes) :
    scan (encodeWith hashes text ++ rest) = some (text, rest) ↔ fence text ≤ hashes := by
  rw [scan_encodeWith_append]
  by_cases hcloses : Closes text hashes
  · rw [closes_iff_lt_fence hsome] at hcloses
    refine iff_of_false ?_ (Nat.not_le_of_lt hcloses)
    rw [List.append_assoc, List.cons_append]
    exact scanBody_ne_of_closes _ ((closes_iff_lt_fence hsome).2 hcloses)
  · refine iff_of_true (scanBody_of_not_closes rest hcloses) ?_
    rw [closes_iff_lt_fence hsome] at hcloses
    exact Nat.le_of_not_lt hcloses

/-- The literal of a text reads back as the text and leaves what follows, and
its fence is the shortest, of one hash or more, of which this is true. The search
from one hash on comes to it in at most one round more than the text is long. -/
structure ReadsBack (text : List Char) : Prop where
  fenced : encode text = encodeWith (fence text) text
  verbatim : ∀ rest, scan (encode text ++ rest) = some (text, rest)
  positive : 1 ≤ fence text
  shortest : ∀ hashes rest, 1 ≤ hashes →
    (scan (encodeWith hashes text ++ rest) = some (text, rest) ↔ fence text ≤ hashes)
  found : search text (text.length + 1) 1 = some (fence text)

theorem readsBack (text : List Char) : ReadsBack text where
  fenced := rfl
  verbatim _ := (scan_encodeWith_iff (one_le_fence text)).2 (Nat.le_refl _)
  positive := one_le_fence text
  shortest _ _ := scan_encodeWith_iff
  found := by
    have hlength := fence_le text
    exact search_eq_some (Nat.le_refl 1) (one_le_fence text) (by omega)

end Text.RawQuoted

/-! ## The document in the source -/

namespace Source

/-- What comes before the constants of a module: its comment and its imports. -/
def Module.heading (file : Module) : Module :=
  { file with constants := [], structs := [], methods := [] }

/-- The text of a module with one constant is its heading, the constant and what
comes behind. -/
theorem Module.exists_render_eq (file : Module) {constant : Constant} (hheader : file.header ≠ [])
    (hconstants : file.constants = [constant]) :
    ∃ behind, file.render = file.heading.render ++ "\n" ++ constant.render ++ behind := by
  have hheading : file.heading.sections ≠ [] := by
    unfold Module.sections Module.heading
    simp [List.isEmpty_eq_false_iff.2 hheader]
  have hsections : file.sections = file.heading.sections ++ constant.render ::
      (file.structs.map Struct.render ++ file.methods.map MethodBlock.render) := by
    unfold Module.sections Module.heading
    simp [hconstants]
  unfold Module.render
  rw [hsections, String.intercalate_append_of_ne_nil hheading (List.cons_ne_nil _ _)]
  cases hmore : file.structs.map Struct.render ++ file.methods.map MethodBlock.render with
  | nil => exact ⟨"", by simp⟩
  | cons first others =>
    exact ⟨"\n" ++ "\n".intercalate (first :: others), by simp [String.append_assoc]⟩

theorem render_operationConstant (operation : Operation) :
    (operationConstant operation).render = "/// Operation document sent as `query`.\n" ++
      "pub const OPERATION: &str = " ++ Text.RawQuoted.literal operation.source ++ ";\n" := by
  have hdoc : renderDoc (operationConstant operation).doc =
      "/// Operation document sent as `query`.\n" := rfl
  have hname : "pub const " ++ (operationConstant operation).name ++ ": &str = " =
      "pub const OPERATION: &str = " := rfl
  unfold Constant.render
  rw [hdoc, ← hname]
  simp only [String.append_assoc]
  rfl

end Source

/-- The document of an operation is the text that it was read from. -/
theorem Operation.source_of_parse {text : String} {wanted : Option String} {operation : Operation}
    {told : List Warning} (h : Operation.parse text wanted = .ok (operation, told)) :
    operation.source = text := by
  obtain ⟨document, definition, -, -, rfl, -⟩ := Operation.parse_eq_ok h
  rfl

/-- Every text reads back from its raw literal, whose fence is the shortest that
serves. In the source of models the constant with the document comes right behind
the heading, and its literal is read as the document, up to the semicolon. -/
theorem documents_read_back_from_raw_literals :
    (∀ text, Text.RawQuoted.ReadsBack text) ∧
      ∀ (loaded : LoadedSchema) (document : String) (options : GenerationOptions)
        (generated : Generated), loaded.generate document options = .ok generated →
        ∃ literal behind, generated.source =
            (loaded.moduleOf options generated.operation generated.records
              generated.variableFields).heading.render ++
            "\n" ++ "/// Operation document sent as `query`.\n" ++
            "pub const OPERATION: &str = " ++ literal ++ ";\n" ++ behind ∧
          Text.RawQuoted.scan (literal ++ ";\n" ++ behind).toList =
            some (document.toList, (";\n" ++ behind).toList) := by
  refine ⟨Text.RawQuoted.readsBack, fun loaded document options generated h => ?_⟩
  obtain ⟨root, response, bound, hrun⟩ := LoadedSchema.generates_of_generate h
  obtain ⟨told, hparsed⟩ := hrun.parsed
  obtain ⟨behind, hbehind⟩ := Source.Module.exists_render_eq
    (loaded.moduleOf options generated.operation generated.records
      generated.variableFields) (List.cons_ne_nil _ _) rfl
  refine ⟨Text.RawQuoted.literal document, behind, ?_, ?_⟩
  · rw [hrun.source, hbehind, Source.render_operationConstant,
      Operation.source_of_parse hparsed]
    simp only [String.append_assoc]
  · rw [String.append_assoc, String.toList_append, Text.RawQuoted.literal, String.toList_ofList]
    exact (Text.RawQuoted.readsBack document.toList).verbatim _

/-- A document with a string that closes the shortest fence. -/
def hashDocument : String := "\x7b say(what: \"#\") \x7d"

theorem a_document_with_a_hash_reads_back_from_its_raw_literal :
    ∃ loaded generated, LoadedSchema.ofText "api" "type Query \x7b say(what: String): Int \x7d"
        .none = .ok loaded ∧
      loaded.generate hashDocument ⟨none, .auto, .none⟩ = .ok generated ∧
      Text.RawQuoted.fence hashDocument.toList = 2 ∧
      ∃ literal behind, generated.source =
          (loaded.moduleOf ⟨none, .auto, .none⟩ generated.operation generated.records
            generated.variableFields).heading.render ++
          "\n" ++ "/// Operation document sent as `query`.\n" ++
          "pub const OPERATION: &str = " ++ literal ++ ";\n" ++ behind ∧
        Text.RawQuoted.scan (literal ++ ";\n" ++ behind).toList =
          some (hashDocument.toList, (";\n" ++ behind).toList) := by
  obtain ⟨loaded, hloaded, hgenerates⟩ := exists_of_any_toOption
    (x := LoadedSchema.ofText "api" "type Query \x7b say(what: String): Int \x7d" .none)
    (p := fun loaded =>
      (loaded.generate hashDocument ⟨none, .auto, .none⟩).toOption.any (fun _ => true))
    (by decide +kernel)
  obtain ⟨generated, hgenerated, -⟩ := exists_of_any_toOption hgenerates
  exact ⟨loaded, generated, hloaded, hgenerated, by decide +kernel,
    documents_read_back_from_raw_literals.2 loaded hashDocument _ generated hgenerated⟩

end OperationModels
