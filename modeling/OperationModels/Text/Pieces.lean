-- A text cut into pieces: what stands between the characters that are not
-- kept. There is always one piece more than there are such characters, so a
-- text without any is one piece, and pieces may be empty.
namespace OperationModels.Text

/-- The pieces between the characters that are not kept. -/
def pieces (keep : Char → Bool) : List Char → List (List Char)
  | [] => [[]]
  | c :: rest =>
    match pieces keep rest with
    | [] => [[c]]
    | piece :: others => if keep c then (c :: piece) :: others else [] :: piece :: others

/-- The pieces of a text between the occurrences of a character. -/
def cutAt (mark : Char) (text : List Char) : List String :=
  (pieces (· ≠ mark) text).map String.ofList

/-! ## Laws -/

theorem pieces_ne_nil (keep : Char → Bool) (text : List Char) : pieces keep text ≠ [] := by
  cases text with
  | nil => simp [pieces]
  | cons c rest =>
    unfold pieces
    split
    · simp
    · split <;> simp

/-- A piece holds nothing but what is kept. -/
theorem keep_of_mem_pieces {keep : Char → Bool} {text : List Char} :
    ∀ piece ∈ pieces keep text, ∀ c ∈ piece, keep c = true := by
  induction text with
  | nil => simp [pieces]
  | cons first rest ih =>
    unfold pieces
    cases hrest : pieces keep rest with
    | nil => exact absurd hrest (pieces_ne_nil keep rest)
    | cons front others =>
      rw [hrest, List.forall_mem_cons] at ih
      dsimp only
      split
      · rename_i hkeep
        rw [List.forall_mem_cons, List.forall_mem_cons]
        exact ⟨⟨hkeep, ih.1⟩, ih.2⟩
      · rw [List.forall_mem_cons, List.forall_mem_cons]
        exact ⟨by simp, ih⟩

theorem pieces_eq_splitOn (mark : Char) (text : List Char) :
    pieces (· ≠ mark) text = text.splitOn mark := by
  induction text with
  | nil => rfl
  | cons c rest ih =>
    rw [pieces, List.splitOn_cons_eq_if_modifyHead]
    cases hrest : pieces (· ≠ mark) rest with
    | nil => exact absurd hrest (pieces_ne_nil _ rest)
    | cons piece others =>
      rw [← ih, hrest]
      by_cases hmark : c = mark <;> simp [hmark]

/-- Without the character there is one piece. -/
theorem cutAt_of_not_mem {mark : Char} {text : List Char} (h : mark ∉ text) :
    cutAt mark text = [String.ofList text] := by
  unfold cutAt
  rw [pieces_eq_splitOn, List.splitOn_eq_singleton h, List.map_singleton]

/-- A text is cut at an occurrence as both of its sides are. -/
theorem cutAt_append_cons {mark : Char} (front rest : List Char) :
    cutAt mark (front ++ mark :: rest) = cutAt mark front ++ cutAt mark rest := by
  unfold cutAt
  rw [pieces_eq_splitOn, pieces_eq_splitOn, pieces_eq_splitOn, List.splitOn_append_cons_self,
    List.map_append]

/-- What stands behind the last occurrence is one more piece. -/
theorem cutAt_append {mark : Char} (front : List Char) {rest : List Char} (h : mark ∉ rest) :
    cutAt mark (front ++ mark :: rest) = cutAt mark front ++ [String.ofList rest] := by
  rw [cutAt_append_cons, cutAt_of_not_mem h]

/-- What comes behind a text and has no occurrence belongs to its last piece. -/
theorem exists_cutAt_append (mark : Char) (text : List Char) :
    ∃ front last, cutAt mark text = front ++ [last] ∧ ∀ more, mark ∉ more →
      cutAt mark (text ++ more) = front ++ [last ++ String.ofList more] := by
  by_cases hmark : mark ∈ text
  · obtain ⟨behind, before, hcut, hbehind⟩ :=
      List.eq_append_cons_of_mem (List.mem_reverse.2 hmark)
    rw [List.reverse_eq_iff, List.reverse_append, List.reverse_cons, List.append_assoc,
      List.singleton_append] at hcut
    rw [← List.mem_reverse] at hbehind
    refine ⟨_, _, by rw [hcut, cutAt_append _ hbehind], fun more hmore => ?_⟩
    have hrest : mark ∉ behind.reverse ++ more := by
      rw [List.mem_append, not_or]
      exact ⟨hbehind, hmore⟩
    rw [hcut, List.append_assoc, List.cons_append, cutAt_append _ hrest, String.ofList_append]
  · refine ⟨[], _, cutAt_of_not_mem hmark, fun more hmore => ?_⟩
    have hrest : mark ∉ text ++ more := by
      rw [List.mem_append, not_or]
      exact ⟨hmark, hmore⟩
    rw [cutAt_of_not_mem hrest, String.ofList_append, List.nil_append]

/-- Words without a character, with it between them, are cut there again. -/
theorem cutAt_intercalate {mark : Char} {sep : String} (hsep : sep.toList = [mark])
    {words : List String} (hwords : ∀ word ∈ words, mark ∉ word.toList) (h : words ≠ []) :
    cutAt mark (sep.intercalate words).toList = words := by
  unfold cutAt
  rw [String.toList_intercalate, hsep, pieces_eq_splitOn, List.splitOn_intercalate]
  · rw [List.map_map]
    simp
  · intro word hword
    obtain ⟨known, hknown, rfl⟩ := List.mem_map.1 hword
    exact hwords known hknown
  · simpa using h

/-- Pieces put together again are the text. -/
theorem intercalate_cutAt {mark : Char} {sep : String} (hsep : sep.toList = [mark])
    (text : List Char) : sep.intercalate (cutAt mark text) = String.ofList text := by
  rw [← String.toList_inj, String.toList_intercalate, hsep, String.toList_ofList]
  unfold cutAt
  rw [pieces_eq_splitOn, List.map_map]
  simp [List.intercalate_splitOn, Function.comp_def]

/-- What begins otherwise has a first piece that is not empty. -/
theorem head?_cutAt_cons_ne {mark c : Char} (h : c ≠ mark) (rest : List Char) :
    (cutAt mark (c :: rest)).head? ≠ some "" := by
  unfold cutAt
  rw [pieces_eq_splitOn, List.splitOn_cons_eq_if_modifyHead, if_neg (by simpa using h)]
  cases hrest : rest.splitOn mark with
  | nil => exact absurd hrest (List.splitOn_ne_nil mark rest)
  | cons piece others =>
    simp [← String.toList_inj]

theorem not_mem_of_mem_cutAt {mark : Char} {text : List Char} {word : String}
    (h : word ∈ cutAt mark text) : mark ∉ word.toList := by
  obtain ⟨piece, hpiece, rfl⟩ := List.mem_map.1 h
  rw [String.toList_ofList]
  intro hmark
  simpa using keep_of_mem_pieces piece hpiece mark hmark

end OperationModels.Text
