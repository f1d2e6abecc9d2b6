-- The identifiers of the fields of a struct are legal, for every name that a
-- document can give a field. Snake case leaves lower case letters, digits and
-- underscores; what it makes of a name can be empty, begin with a digit or be a
-- keyword, and each of these is repaired. A number repairs nothing and harms
-- nothing, so identifiers that are made different stay legal.
import OperationModels.Proofs.Identifiers
import OperationModels.Proofs.StructNames

namespace OperationModels

open Graphql

/-! ## Names in snake case -/

namespace Text

/-- A text is a name in snake case: the letters and digits of the name in lower
case, cut into words wherever that may be, with one underscore between two. -/
def InSnakeCase (name text : String) : Prop :=
  ∃ words : List (List Char), words.flatten = name.toList.filter Char.isAlphanum ∧
    (∀ word ∈ words, word ≠ []) ∧
    text.toList = ['_'].intercalate (words.map (List.map Char.toLower))

theorem isAscii_of_isNameChar {c : Char} (h : isNameChar c = true) : isAscii c = true := by
  rw [isNameChar, Char.isAlphanum, Bool.or_right_comm, Bool.or_eq_true] at h
  rcases h with hstart | hdigit
  · exact isAscii_of_isNameStart hstart
  · rw [Char.isDigit, Bool.and_eq_true, decide_eq_true_eq, decide_eq_true_eq] at hdigit
    exact decide_eq_true (Nat.lt_of_le_of_lt hdigit.2 (by decide))

theorem isAscii_of_isName {name : String} (h : isName name = true) :
    ∀ c ∈ name.toList, isAscii c = true := by
  obtain ⟨first, rest, rfl, hstart, hrest⟩ := isName_iff.1 h
  rw [String.toList_ofList, List.forall_mem_cons]
  exact ⟨isAscii_of_isNameStart hstart,
    fun c hc => isAscii_of_isNameChar (List.all_eq_true.1 hrest c hc)⟩

/-- Pieces lose nothing but the characters that are not kept. -/
theorem flatten_pieces (keep : Char → Bool) (text : List Char) :
    (pieces keep text).flatten = text.filter keep := by
  induction text with
  | nil => rfl
  | cons c rest ih =>
    unfold pieces
    cases hrest : pieces keep rest with
    | nil => exact absurd hrest (pieces_ne_nil keep rest)
    | cons piece others =>
      rw [hrest, List.flatten_cons] at ih
      by_cases hkeep : keep c = true
      · simp [hkeep, ← ih]
      · simp [hkeep, ← ih]

/-- A run loses nothing when it is cut. -/
theorem flatten_wordsOfRun (known : WordCase) (front run : List Char) :
    (wordsOfRun known front run).flatten = front.reverse ++ run := by
  fun_induction wordsOfRun known front run with
  | case1 => rfl
  | case2 => simp
  | case3 => simp
  | case4 known front c next rest _ ih => simp [ih]
  | case5 known front c next rest _ _ ih => simp [ih]
  | case6 known front c next rest _ _ ih => simp [ih]

/-- A word is only cut off where there is one: upper case is known of a letter. -/
theorem ne_nil_of_mem_wordsOfRun {known : WordCase} {front run : List Char}
    (h : known = .upper → front ≠ []) : ∀ word ∈ wordsOfRun known front run, word ≠ [] := by
  fun_induction wordsOfRun known front run with
  | case1 => simp
  | case2 known front hfront => simpa using hfront
  | case3 => simp
  | case4 known front c next rest _ ih =>
    rw [List.forall_mem_cons]
    exact ⟨by simp, ih (by simp)⟩
  | case5 known front c next rest _ hcut ih =>
    rw [Bool.and_eq_true, Bool.and_eq_true, decide_eq_true_eq] at hcut
    rw [List.forall_mem_cons]
    exact ⟨by simpa using h hcut.1.1, ih (by simp)⟩
  | case6 known front c next rest _ _ ih => exact ih (by simp)

theorem lowerWord_of_isAscii {word : List Char} (h : ∀ c ∈ word, isAscii c = true) :
    lowerWord word = word.map Char.toLower := by
  fun_induction lowerWord word with
  | case1 => rfl
  | case2 => exact absurd (h 'Σ' List.mem_cons_self) (by decide)
  | case3 c rest _ ih =>
    rw [List.forall_mem_cons] at h
    rw [ih h.2, toLower, if_pos h.1, List.map_cons, List.singleton_append]

/-- A name of a document is put into snake case. -/
theorem inSnakeCase_snakeCase {name : String} (h : isName name = true) :
    InSnakeCase name (snakeCase name) := by
  have hascii := isAscii_of_isName h
  have hkept : name.toList.filter isAlphanumeric = name.toList.filter Char.isAlphanum := by
    refine List.filter_congr fun c hc => ?_
    rw [isAlphanumeric, if_pos (hascii c hc)]
  have hall : (wordsOf name.toList).flatten = name.toList.filter Char.isAlphanum := by
    rw [← hkept, ← flatten_pieces]
    unfold wordsOf
    rw [List.flatMap_def, List.flatten_flatten, List.map_map]
    congr 1
    refine List.map_id'' (fun run => ?_) _
    exact flatten_wordsOfRun .unknown [] run
  refine ⟨wordsOf name.toList, hall, ?_, ?_⟩
  · intro word hword
    obtain ⟨run, -, hrun⟩ := List.mem_flatMap.1 hword
    exact ne_nil_of_mem_wordsOfRun (by simp) word hrun
  · unfold snakeCase
    rw [String.toList_ofList]
    congr 1
    refine List.map_congr_left fun word hword => lowerWord_of_isAscii fun c hc => ?_
    have hinside : c ∈ name.toList.filter Char.isAlphanum := by
      rw [← hall]
      exact List.mem_flatten.2 ⟨word, hword, hc⟩
    exact hascii c (List.mem_of_mem_filter hinside)

end Text

namespace Source

/-! ## Legal identifiers -/

/-- The keywords of the language of the models that have a meaning. -/
def strictKeywords : List String :=
  ["as", "async", "await", "break", "const", "continue", "crate", "dyn", "else", "enum",
    "extern", "false", "fn", "for", "if", "impl", "in", "let", "loop", "match", "mod", "move",
    "mut", "pub", "ref", "return", "self", "Self", "static", "struct", "super", "trait", "true",
    "type", "unsafe", "use", "where", "while"]

/-- The keywords that are kept for a later meaning. -/
def futureKeywords : List String :=
  ["abstract", "become", "box", "do", "final", "gen", "macro", "override", "priv", "try",
    "typeof", "unsized", "virtual", "yield"]

def keywords : List String := strictKeywords ++ futureKeywords

/-- The keywords that can stand in a path. They cannot be raw identifiers. -/
def pathKeywords : List String := ["crate", "self", "Self", "super"]

/-- What the identifier of a field is spelt with: lower case letters, digits and
underscores. -/
def isFieldChar (c : Char) : Bool := c.isLower || c.isDigit || c = '_'

/-- The identifier can name a field: it is a keyword behind a raw mark, or it is
spelt as a field, begins with no digit and means nothing else. -/
inductive IsLegal : String → Prop
  | raw {keyword : String} (hkeyword : keyword ∈ keywords) (hpath : keyword ∉ pathKeywords) :
      IsLegal ("r#" ++ keyword)
  | plain {ident : String} (hsome : ident ≠ "") (hspelt : ident.toList.all isFieldChar = true)
      (hfront : startsWithDigit ident = false) (hline : ident ≠ "_")
      (hkeyword : ident ∉ keywords) : IsLegal ident

/-- Each keyword is repaired, and only keywords and the lone underscore are. -/
theorem keywords_known :
    (∀ word ∈ keywords, word ∈ rawKeywords ∨ word ∈ reservedWords) ∧
      (∀ word ∈ rawKeywords, word ∈ keywords ∧ word ∉ pathKeywords) ∧
      ∀ word ∈ reservedWords, word = "_" ∨ word ∈ pathKeywords := by
  decide +kernel

theorem line_not_mem_keyword : ∀ word ∈ keywords, '_' ∉ word.toList := by
  decide +kernel

/-- A keyword with a raw form could be spelt as a field. -/
theorem rawKeyword_spelt : ∀ word ∈ keywords, word ∉ pathKeywords →
    word ≠ "" ∧ word.toList.all isFieldChar = true ∧ startsWithDigit word = false := by
  decide +kernel

theorem reservedWord_front : ∀ word ∈ reservedWords, word ≠ "" ∧ startsWithDigit word = false := by
  decide +kernel

theorem startsWithDigit_append {front : String} (h : front ≠ "") (back : String) :
    startsWithDigit (front ++ back) = startsWithDigit front := by
  unfold startsWithDigit
  rw [String.toList_append, List.head?_append_of_ne_nil _ (by simpa using h)]

/-- What is spelt as a field in two parts with an underscore between is legal:
no keyword has one, and another character stands before it. -/
theorem isLegal_joined (front back : String) (hsome : front ≠ "")
    (hdigit : startsWithDigit front = false) (hfront : front.toList.all isFieldChar = true)
    (hback : back.toList.all isFieldChar = true) : IsLegal (front ++ "_" ++ back) := by
  have hlist : (front ++ "_" ++ back).toList = front.toList ++ '_' :: back.toList := by
    simp [String.toList_append]
  refine .plain ?_ ?_ ?_ ?_ ?_
  · intro hempty
    rw [hempty] at hlist
    simp at hlist
  · rw [hlist, List.all_append, List.all_cons, hfront, hback]
    decide
  · rw [String.append_assoc, startsWithDigit_append hsome, hdigit]
  · intro hsame
    have hchars : front.toList ++ '_' :: back.toList = ['_'] := by rw [← hlist, hsame]; rfl
    obtain ⟨c, rest, hcons⟩ := List.exists_cons_of_ne_nil (l := front.toList) (by simpa using hsome)
    rw [hcons] at hchars
    simp at hchars
  · intro hkeyword
    exact line_not_mem_keyword _ hkeyword (by simp [hlist])

/-! ## Repaired words -/

/-- Whatever is spelt as a field is made a legal identifier, and stands in it. -/
theorem isLegal_identOfWord {word : String} (h : word.toList.all isFieldChar = true) :
    IsLegal (identOfWord word) ∧ word.toList <:+: (identOfWord word).toList := by
  unfold identOfWord
  split
  · constructor
    · exact isLegal_joined "field" word (by decide) (by decide) (by decide) h
    · rw [String.toList_append]
      exact (List.suffix_append _ _).isInfix
  · rename_i hfine
    rw [Bool.or_eq_true, not_or, decide_eq_true_eq, Bool.not_eq_true] at hfine
    split
    · rename_i hreserved
      obtain ⟨hsome, hdigit⟩ := reservedWord_front word (by simpa using hreserved)
      constructor
      · simpa using isLegal_joined word "" hsome hdigit h (by decide)
      · rw [String.toList_append]
        exact (List.prefix_append _ _).isInfix
    · rename_i hreserved
      split
      · rename_i hraw
        obtain ⟨hkeyword, hpath⟩ := keywords_known.2.1 word (by simpa using hraw)
        constructor
        · exact .raw hkeyword hpath
        · rw [String.toList_append]
          exact (List.suffix_append _ _).isInfix
      · rename_i hraw
        refine ⟨.plain hfine.1 h hfine.2 ?_ ?_, List.infix_refl _⟩
        · rintro rfl
          exact hreserved (by decide)
        · intro hkeyword
          rcases keywords_known.1 word hkeyword with hmem | hmem
          · exact hraw (by simpa using hmem)
          · exact hreserved (by simpa using hmem)

theorem isFieldChar_toLower {c : Char} (h : c.isAlphanum = true) :
    isFieldChar c.toLower = true := by
  have hname : isNameChar c = true := by rw [isNameChar, h, Bool.true_or]
  exact Text.of_isAscii (p := fun c => c.isAlphanum = true → isFieldChar c.toLower = true)
    (by decide +kernel) (Text.isAscii_of_isNameChar hname) h

/-- A name in snake case is spelt as a field. -/
theorem spelt_of_inSnakeCase {name text : String} (h : Text.InSnakeCase name text) :
    text.toList.all isFieldChar = true := by
  obtain ⟨words, hwords, -, htext⟩ := h
  rw [List.all_eq_true, htext]
  intro c hc
  rcases Text.mem_of_mem_intercalate hc with hline | ⟨lowered, hlowered, hinside⟩
  · rw [List.mem_singleton.1 hline]
    decide
  · obtain ⟨word, hword, rfl⟩ := List.mem_map.1 hlowered
    obtain ⟨d, hd, rfl⟩ := List.mem_map.1 hinside
    have hletter : d ∈ name.toList.filter Char.isAlphanum := by
      rw [← hwords]
      exact List.mem_flatten.2 ⟨word, hword, hd⟩
    exact isFieldChar_toLower (List.mem_filter.1 hletter).2

theorem isLegal_fieldIdent {name : String} (h : isName name = true) : IsLegal (fieldIdent name) :=
  (isLegal_identOfWord (spelt_of_inSnakeCase (Text.inSnakeCase_snakeCase h))).1

/-! ## Numbered identifiers -/

namespace IsLegal

variable {ident : String}

/-- Without its raw mark a legal identifier is spelt as a field. -/
theorem bare (h : IsLegal ident) : Source.bare ident ≠ "" ∧
    (Source.bare ident).toList.all isFieldChar = true ∧
      startsWithDigit (Source.bare ident) = false := by
  cases h with
  | raw hkeyword hpath =>
    rw [← rawMark, bare_rawMark]
    exact rawKeyword_spelt _ hkeyword hpath
  | plain hsome hspelt hfront _ _ =>
    have hhash : '#' ∉ ident.toList := by
      intro hmem
      exact absurd (List.all_eq_true.1 hspelt _ hmem) (by decide)
    rw [bare_of_hash_not_mem hhash]
    exact ⟨hsome, hspelt, hfront⟩

theorem numbered (h : IsLegal ident) (n : Nat) : IsLegal (Source.numbered ident n) := by
  obtain ⟨hsome, hspelt, hfront⟩ := h.bare
  refine isLegal_joined _ _ hsome hfront hspelt (List.all_eq_true.2 fun c hc => ?_)
  rw [Nat.toString_eq_repr, Nat.toList_repr] at hc
  have hdigit := Nat.isDigit_of_mem_toDigits (by decide) (by decide) hc
  rw [isFieldChar, hdigit, Bool.or_true, Bool.true_or]

theorem fresh (h : IsLegal ident) (taken : List String) : IsLegal (Source.fresh taken ident) := by
  rcases (fresh_cases taken ident).2 with hsame | ⟨n, hnumber⟩
  · rwa [hsame]
  · rw [hnumber]
    exact h.numbered n

end IsLegal

theorem isLegal_of_mem_freshAll {idents : List String} (h : ∀ ident ∈ idents, IsLegal ident)
    (taken : List String) : ∀ made ∈ freshAll taken idents, IsLegal made := by
  induction idents generalizing taken with
  | nil => simp [freshAll]
  | cons ident rest ih =>
    rw [List.forall_mem_cons] at h
    rw [freshAll, List.forall_mem_cons]
    exact ⟨h.1.fresh taken, ih h.2 _⟩

/-! ## The law -/

/-- Every name of a document has a legal identifier, whichever way snake case
cuts it, and its letters and digits stand in that. Identifiers of such names that
are made different, whatever names are taken, are legal too. -/
theorem identifiers_of_names_are_legal (taken names : List String)
    (h : ∀ name ∈ names, isName name = true) :
    (∀ name ∈ names, ∀ text, Text.InSnakeCase name text →
      IsLegal (identOfWord text) ∧ text.toList <:+: (identOfWord text).toList) ∧
      (∀ name ∈ names, Text.InSnakeCase name (Text.snakeCase name)) ∧
      (∀ ident ∈ names.map fieldIdent, IsLegal ident) ∧
      ∀ made ∈ freshAll taken (names.map fieldIdent), IsLegal made := by
  have hlegal : ∀ ident ∈ names.map fieldIdent, IsLegal ident := by
    intro ident hident
    obtain ⟨name, hname, rfl⟩ := List.mem_map.1 hident
    exact isLegal_fieldIdent (h name hname)
  refine ⟨?_, ?_, hlegal, isLegal_of_mem_freshAll hlegal taken⟩
  · intro name _ text htext
    exact isLegal_identOfWord (spelt_of_inSnakeCase htext)
  · intro name hname
    exact Text.inSnakeCase_snakeCase (h name hname)

/-- Names of which snake case leaves a keyword, nothing, a digit at the front, or
the same word twice. -/
def awkwardNames : List String := ["_self", "Type", "type", "__", "_3D", "_3d", "Self"]

theorem identifiers_of_awkward_names_are_legal :
    freshAll ["r#type"] (awkwardNames.map fieldIdent) =
        ["self_", "type_2", "type_3", "field_", "field_3d", "field_3d_2", "self__2"] ∧
      (∀ name ∈ awkwardNames, isName name = true) ∧
      (∀ name ∈ awkwardNames, ∀ text, Text.InSnakeCase name text →
        IsLegal (identOfWord text) ∧ text.toList <:+: (identOfWord text).toList) ∧
      (∀ name ∈ awkwardNames, Text.InSnakeCase name (Text.snakeCase name)) ∧
      (∀ ident ∈ awkwardNames.map fieldIdent, IsLegal ident) ∧
      ∀ made ∈ freshAll ["r#type"] (awkwardNames.map fieldIdent), IsLegal made := by
  have hnames : ∀ name ∈ awkwardNames, isName name = true := by decide
  exact ⟨by decide +kernel, hnames, identifiers_of_names_are_legal _ _ hnames⟩

end Source

end OperationModels
