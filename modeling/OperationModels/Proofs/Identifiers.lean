-- The identifiers of the fields of a struct: no two of them are the same, even
-- without their raw marks, whatever the names on the wire are and however
-- often they come. Of snake case only this counts: it puts no `#` into a word,
-- so an identifier that holds one is a keyword behind a raw mark.
import OperationModels.Proofs.Modules
import Mathlib.Data.List.Nodup
import Mathlib.Data.List.Perm.Subperm

namespace OperationModels

/-! ## The characters of a word -/

namespace Text

theorem eq_of_char_ofNat_eq_hash {n : Nat} (h : Char.ofNat n = '#') : n = 35 := by
  by_cases hvalid : n.isValidChar
  · have hcode : (Char.ofNat n).toNat = n := by
      rw [Char.ofNat, dif_pos hvalid]
      rfl
    rw [← hcode, h]
    rfl
  · rw [Char.ofNat, dif_neg hvalid] at h
    cases h

/-- The other case of a letter is `#` only if a table says so. -/
theorem hash_not_mem_otherCase {several : Array (Nat × List Nat)}
    {runs : Array (Nat × Nat × Nat × Int)} {c : Char} (hc : c ≠ '#')
    (hseveral : several.all (fun entry => !entry.2.contains 35) = true)
    (hruns : runs.all (fun run => decide (35 < (run.1 : Int) + run.2.2.2)) = true) :
    '#' ∉ otherCase several runs c := by
  rw [Array.all_eq_true'] at hseveral hruns
  unfold otherCase
  split
  · rename_i entry hfind
    intro hmem
    obtain ⟨n, hn, heq⟩ := List.mem_map.1 hmem
    have hentry := hseveral entry (Array.mem_of_find?_eq_some hfind)
    rw [eq_of_char_ofNat_eq_hash heq] at hn
    simp [hn] at hentry
  · split
    · rename_i run hfind
      have hrun := hruns run (Array.mem_of_find?_eq_some hfind)
      have hfound := Array.find?_some hfind
      simp only [Bool.and_eq_true, decide_eq_true_eq] at hrun hfound
      intro hmem
      have heq := eq_of_char_ofNat_eq_hash (List.mem_singleton.1 hmem).symm
      omega
    · simpa using hc.symm

theorem hash_not_mem_toLower {c : Char} (h : c ≠ '#') : '#' ∉ toLower c := by
  unfold toLower
  split
  · rename_i hascii
    have hlower := of_isAscii (p := fun c => c ≠ '#' → c.toLower ≠ '#') (by decide +kernel) hascii
    simpa using (hlower h).symm
  · exact hash_not_mem_otherCase h (by decide +kernel) (by decide +kernel)

theorem hash_not_mem_lowerWord {word : List Char} (h : '#' ∉ word) : '#' ∉ lowerWord word := by
  fun_induction lowerWord word with
  | case1 => simp
  | case2 => simp
  | case3 c rest _ ih =>
    rw [List.mem_cons, not_or] at h
    rw [List.mem_append, not_or]
    exact ⟨hash_not_mem_toLower (Ne.symm h.1), ih h.2⟩

/-- The words of a run are made of its characters. -/
theorem mem_of_mem_wordsOfRun {known : WordCase} {front run : List Char} :
    ∀ word ∈ wordsOfRun known front run, ∀ c ∈ word, c ∈ front ∨ c ∈ run := by
  fun_induction wordsOfRun known front run with
  | case1 => simp
  | case2 => simp
  | case3 => simp [or_comm]
  | case4 known front c next rest _ ih =>
    intro word hword d hd
    rcases List.mem_cons.1 hword with rfl | hlater
    · rw [List.mem_reverse, List.mem_cons] at hd
      rcases hd with rfl | hfront
      · exact .inr List.mem_cons_self
      · exact .inl hfront
    · have hrest := ih word hlater d hd
      grind
  | case5 known front c next rest _ _ ih =>
    intro word hword d hd
    rcases List.mem_cons.1 hword with rfl | hlater
    · exact .inl (List.mem_reverse.1 hd)
    · have hrest := ih word hlater d hd
      grind
  | case6 known front c next rest _ _ ih =>
    intro word hword d hd
    have hrest := ih word hword d hd
    grind

theorem mem_of_mem_intercalate {c : Char} {sep : List Char} {words : List (List Char)}
    (h : c ∈ sep.intercalate words) : c ∈ sep ∨ ∃ word ∈ words, c ∈ word := by
  induction words with
  | nil => cases h
  | cons word rest ih =>
    cases rest with
    | nil =>
      rw [List.intercalate_singleton] at h
      exact .inr ⟨word, List.mem_cons_self, h⟩
    | cons next others =>
      rw [List.intercalate_cons_cons, List.append_assoc, List.mem_append, List.mem_append] at h
      rcases h with hword | hsep | hlater
      · exact .inr ⟨word, List.mem_cons_self, hword⟩
      · exact .inl hsep
      · rcases ih hlater with hsep | ⟨other, hother, hmem⟩
        · exact .inl hsep
        · exact .inr ⟨other, List.mem_cons_of_mem _ hother, hmem⟩

theorem hash_not_mem_wordsOf (name : List Char) : ∀ word ∈ wordsOf name, '#' ∉ word := by
  intro word hword hmem
  obtain ⟨piece, hpiece, hrun⟩ := List.mem_flatMap.1 hword
  rcases mem_of_mem_wordsOfRun word hrun _ hmem with hnone | hinside
  · cases hnone
  · have hkept := keep_of_mem_pieces piece hpiece _ hinside
    revert hkept
    decide

/-- Snake case keeps only letters and digits, of which none is a `#` in lower case. -/
theorem hash_not_mem_snakeCase (name : String) : '#' ∉ (snakeCase name).toList := by
  unfold snakeCase
  rw [String.toList_ofList]
  intro hmem
  rcases mem_of_mem_intercalate hmem with hsep | ⟨word, hword, hinside⟩
  · simp at hsep
  · obtain ⟨plain, hplain, rfl⟩ := List.mem_map.1 hword
    exact hash_not_mem_lowerWord (hash_not_mem_wordsOf _ plain hplain) hinside

end Text

namespace Source

/-! ## Fresh identifiers -/

theorem toString_inj {m n : Nat} (h : toString m = toString n) : m = n := by
  have hlists := congrArg String.toList h
  simp only [Nat.toString_eq_repr, Nat.toList_repr] at hlists
  rw [← Nat.ofDigitChars_ten_toDigits (n := m), hlists, Nat.ofDigitChars_ten_toDigits]

theorem numbered_injective (ident : String) : Function.Injective (numbered ident) := by
  intro m n h
  unfold numbered at h
  exact toString_inj ((String.append_right_inj _).1 h)

/-- Among one candidate more than there are taken names one is not taken. -/
theorem exists_numbered_not_mem (taken : List String) (ident : String) :
    ∃ k ∈ List.range (taken.length + 1), numbered ident (k + 2) ∉ taken := by
  by_contra hall
  push Not at hall
  have hnodup : ((List.range (taken.length + 1)).map (fun k => numbered ident (k + 2))).Nodup := by
    refine List.Nodup.map ?_ List.nodup_range
    intro m n h
    exact Nat.add_right_cancel (numbered_injective ident h)
  have hsubset : (List.range (taken.length + 1)).map (fun k => numbered ident (k + 2)) ⊆ taken := by
    intro candidate hmem
    obtain ⟨k, hk, rfl⟩ := List.mem_map.1 hmem
    exact hall k hk
  have hlength := (List.subperm_of_subset hnodup hsubset).length_le
  rw [List.length_map, List.length_range] at hlength
  omega

/-- An identifier that is made fresh is itself or a candidate, and not taken. -/
theorem fresh_cases (taken : List String) (ident : String) :
    fresh taken ident ∉ taken ∧
      (fresh taken ident = ident ∨ ∃ n, fresh taken ident = numbered ident n) := by
  unfold fresh
  split
  · have hsome := exists_numbered_not_mem taken ident
    split
    · rename_i k hfind
      exact ⟨by simpa using List.find?_some hfind, .inr ⟨_, rfl⟩⟩
    · rename_i hnone
      obtain ⟨k, hk, hnew⟩ := hsome
      have htaken := List.find?_eq_none.1 hnone k hk
      simp [hnew] at htaken
  · rename_i hnew
    exact ⟨by simpa using hnew, .inl rfl⟩

theorem nodup_freshAll (taken idents : List String) :
    (freshAll taken idents).Nodup ∧ ∀ made ∈ freshAll taken idents, made ∉ taken := by
  induction idents generalizing taken with
  | nil => simp [freshAll]
  | cons ident rest ih =>
    obtain ⟨hnodup, hnew⟩ := ih (fresh taken ident :: taken)
    rw [freshAll]
    refine ⟨List.nodup_cons.2 ⟨?_, hnodup⟩,
      List.forall_mem_cons.2 ⟨(fresh_cases taken ident).1, ?_⟩⟩
    · intro hmem
      exact hnew _ hmem List.mem_cons_self
    · intro made hmade htaken
      exact hnew made hmade (List.mem_cons_of_mem _ htaken)

/-! ## Identifiers without their raw marks -/

theorem bare_rawMark (word : String) : bare (rawMark ++ word) = word := by
  simp [bare, rawMark, String.toList_append]

theorem bare_of_hash_not_mem {ident : String} (h : '#' ∉ ident.toList) : bare ident = ident := by
  unfold bare
  split
  · rename_i rest heq
    rw [heq] at h
    simp at h
  · rfl

/-- The identifier of a field is a keyword behind a raw mark, or it is no
keyword and holds no mark. -/
inductive IsFieldIdent : String → Prop
  | raw {keyword : String} (hkeyword : keyword ∈ rawKeywords) : IsFieldIdent (rawMark ++ keyword)
  | plain {ident : String} (hhash : '#' ∉ ident.toList) (hword : ident ∉ rawKeywords) :
      IsFieldIdent ident

theorem keyword_marks : ∀ keyword ∈ rawKeywords, '#' ∉ keyword.toList ∧ '_' ∉ keyword.toList := by
  decide +kernel

namespace IsFieldIdent

theorem hash_not_mem_bare {ident : String} (h : IsFieldIdent ident) :
    '#' ∉ (bare ident).toList := by
  cases h with
  | raw hkeyword =>
    rw [bare_rawMark]
    exact (keyword_marks _ hkeyword).1
  | plain hhash _ => rwa [bare_of_hash_not_mem hhash]

/-- A raw mark is never all that keeps two identifiers apart. -/
theorem eq_of_bare_eq {a b : String} (ha : IsFieldIdent a) (hb : IsFieldIdent b)
    (h : bare a = bare b) : a = b := by
  cases ha with
  | raw ha =>
    rw [bare_rawMark] at h
    cases hb with
    | raw hb => rw [h, bare_rawMark]
    | plain hhash hword =>
      rw [bare_of_hash_not_mem hhash] at h
      exact absurd (h ▸ ha) hword
  | plain hhash hword =>
    rw [bare_of_hash_not_mem hhash] at h
    cases hb with
    | raw hb =>
      rw [bare_rawMark] at h
      exact absurd (h ▸ hb) hword
    | plain hhash' _ => rw [h, bare_of_hash_not_mem hhash']

/-- What holds an underscore and no mark is no keyword. -/
theorem of_underscore {ident : String} (hhash : '#' ∉ ident.toList) (hline : '_' ∈ ident.toList) :
    IsFieldIdent ident :=
  .plain hhash (fun hkeyword => (keyword_marks _ hkeyword).2 hline)

theorem numbered {ident : String} (h : IsFieldIdent ident) (n : Nat) :
    IsFieldIdent (Source.numbered ident n) := by
  have hdigits : '#' ∉ Nat.toDigits 10 n := by
    intro hmem
    have hdigit := Nat.isDigit_of_mem_toDigits (by decide) (by decide) hmem
    revert hdigit
    decide
  apply of_underscore
  · simp [Source.numbered, String.toList_append, h.hash_not_mem_bare, hdigits]
  · simp [Source.numbered, String.toList_append]

theorem fresh {taken : List String} {ident : String} (h : IsFieldIdent ident) :
    IsFieldIdent (Source.fresh taken ident) := by
  rcases (fresh_cases taken ident).2 with hsame | ⟨n, hnumber⟩
  · rwa [hsame]
  · rw [hnumber]
    exact h.numbered n

theorem identOfWord {word : String} (h : '#' ∉ word.toList) :
    IsFieldIdent (Source.identOfWord word) := by
  unfold Source.identOfWord
  split
  · exact of_underscore (by simp [String.toList_append, h]) (by simp [String.toList_append])
  · split
    · exact of_underscore (by simp [String.toList_append, h]) (by simp [String.toList_append])
    · split
      · rename_i hkeyword
        exact .raw (by simpa using hkeyword)
      · rename_i hkeyword
        exact .plain h (by simpa using hkeyword)

end IsFieldIdent

theorem isFieldIdent_fieldIdent (wireName : String) : IsFieldIdent (fieldIdent wireName) :=
  .identOfWord (Text.hash_not_mem_snakeCase wireName)

theorem isFieldIdent_of_mem_freshAll {idents : List String}
    (h : ∀ ident ∈ idents, IsFieldIdent ident) (taken : List String) :
    ∀ made ∈ freshAll taken idents, IsFieldIdent made := by
  induction idents generalizing taken with
  | nil => simp [freshAll]
  | cons ident rest ih =>
    rw [List.forall_mem_cons] at h
    rw [freshAll, List.forall_mem_cons]
    exact ⟨h.1.fresh, ih h.2 _⟩

theorem nodup_bare_freshAll {idents : List String} (h : ∀ ident ∈ idents, IsFieldIdent ident) :
    ((freshAll [] idents).map bare).Nodup := by
  have hmade := isFieldIdent_of_mem_freshAll h []
  refine List.Nodup.map_on ?_ (nodup_freshAll [] idents).1
  intro a ha b hb hsame
  exact (hmade a ha).eq_of_bare_eq (hmade b hb) hsame

/-! ## The fields of a struct -/

open Model

theorem map_zipWith_eq_right {α β γ : Type} {f : α → β → γ} {g : γ → β}
    (hg : ∀ a b, g (f a b) = b) {as : List α} {bs : List β} (h : bs.length = as.length) :
    (List.zipWith f as bs).map g = bs := by
  induction as generalizing bs with
  | nil => simpa using h
  | cons a rest ih =>
    cases bs with
    | nil => rfl
    | cons b others => simp [hg, ih (Nat.succ.inj h)]

theorem map_ident_structFieldsBy (identOf : String → String) (ifAbsent : SerdeArgument)
    (fields : List Field) :
    (structFieldsBy identOf ifAbsent fields).map StructField.ident =
      freshAll [] (fields.map (fun field => identOf field.name)) :=
  map_zipWith_eq_right (fun _ _ => rfl) (by simp [length_freshAll])

theorem nodup_bare_structFieldsBy {identOf : String → String}
    (h : ∀ name, IsFieldIdent (identOf name)) (ifAbsent : SerdeArgument) (fields : List Field) :
    (((structFieldsBy identOf ifAbsent fields).map StructField.ident).map bare).Nodup := by
  rw [map_ident_structFieldsBy]
  apply nodup_bare_freshAll
  intro ident hident
  obtain ⟨field, -, rfl⟩ := List.mem_map.1 hident
  exact h field.name

/-- The fields of a struct carry those of a record: one for each, in order, of
its type and with its name on the wire, and marked by `ifAbsent` just if it is
optional. Their identifiers are different, even without the raw marks. -/
structure Carries (ifAbsent : SerdeArgument) (fields : List Field)
    (inStruct : List StructField) : Prop where
  each : List.Forall₂ (fun (field : Field) (made : StructField) =>
    made.type = field.type ∧ made.wireName = field.name ∧
      (ifAbsent ∈ made.serde ↔ field.type.isOptional = true)) fields inStruct
  apart : ((inStruct.map StructField.ident).map bare).Nodup

theorem carries_structFieldsBy {identOf : String → String}
    (h : ∀ name, IsFieldIdent (identOf name)) {ifAbsent : SerdeArgument} (fields : List Field)
    (hrename : ∀ name, ifAbsent ≠ .rename name) :
    Carries ifAbsent fields (structFieldsBy identOf ifAbsent fields) where
  each := by
    refine (standsFor_structFieldsBy identOf ifAbsent fields).imp ?_
    intro field made hstands
    exact ⟨hstands.1, hstands.wireName_eq hrename, hstands.ifAbsent_mem_iff hrename⟩
  apart := nodup_bare_structFieldsBy h ifAbsent fields

/-! ## The law -/

/-- Whichever way names are put into words, as long as no word has a `#`, the
fields of a struct that are made of these words carry the fields that they are
made of, whatever the names of these are and however often they come. Snake case
is one such way, so the struct of a record and the struct of variables carry
their fields. -/
theorem every_struct_carries_its_fields (extras : Extras) (doc : Option String)
    (record : Record) (operation : Operation) (variableFields : List Field) :
    (∀ word : String → String, (∀ name, '#' ∉ (word name).toList) →
      Carries .default record.fields
          (structFieldsBy (fun name => identOfWord (word name)) .default record.fields) ∧
        Carries .skipNone variableFields
          (structFieldsBy (fun name => identOfWord (word name)) .skipNone variableFields)) ∧
      (∀ name, '#' ∉ (Text.snakeCase name).toList) ∧
      Carries .default record.fields (structOfRecord extras doc record).fields ∧
      Carries .skipNone variableFields
        (structOfVariables extras operation variableFields).fields := by
  refine ⟨?_, Text.hash_not_mem_snakeCase, ?_, ?_⟩
  · intro word hword
    have hident : ∀ name, IsFieldIdent (identOfWord (word name)) :=
      fun name => .identOfWord (hword name)
    exact ⟨carries_structFieldsBy hident record.fields SerdeArgument.default_ne_rename,
      carries_structFieldsBy hident variableFields SerdeArgument.skipNone_ne_rename⟩
  · exact carries_structFieldsBy isFieldIdent_fieldIdent record.fields
      SerdeArgument.default_ne_rename
  · exact carries_structFieldsBy isFieldIdent_fieldIdent variableFields
      SerdeArgument.skipNone_ne_rename

/-- Fields of which each is put into the same word, a keyword. -/
def keywordFields : List Field :=
  [⟨"type", .optional (.named "i32")⟩, ⟨"type_2", .named "i32"⟩, ⟨"r#type", .named "i32"⟩]

theorem fields_of_one_word_are_carried :
    (structFieldsBy (fun _ => identOfWord "type") .default keywordFields).map
          (fun field => (field.ident, field.serde)) =
        [("r#type", [.default]), ("type_2", []), ("type_3", [.rename "r#type"])] ∧
      '#' ∉ "type".toList ∧
      Carries .default keywordFields
        (structFieldsBy (fun _ => identOfWord "type") .default keywordFields) := by
  have hword : '#' ∉ "type".toList := by decide
  obtain ⟨hall, -⟩ := every_struct_carries_its_fields ⟨[], []⟩ none ⟨dataRecord, keywordFields⟩
    ⟨.query, none, [], .nothing, ""⟩ []
  exact ⟨by decide +kernel, hword, (hall (fun _ => "type") (fun _ => hword)).1⟩

-- A number given to one name may be what a later name is by itself.
example :
    (structFields .skipNone (["type", "Type", "type_2", "self", "Self", "3d", "3D", "_"].map
        (fun name => ⟨name, .named "i32"⟩))).map (fun field => (field.ident, field.wireName)) =
      [("r#type", "type"), ("type_2", "Type"), ("type_2_2", "type_2"), ("self_", "self"),
        ("self__2", "Self"), ("field_3d", "3d"), ("field_3d_2", "3D"), ("field_", "_")] := by
  decide +kernel

end Source

end OperationModels
