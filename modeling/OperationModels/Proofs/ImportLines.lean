-- The import lines of a module. A path that the settings add is one path however
-- it is written, and its line stands where it comes first. The line for the two
-- traits that carry data over the wire comes ahead of those. It follows from which
-- structs there are and never looks at the traits that the settings derive.
import Mathlib.Data.List.Infix
import Mathlib.Data.List.Nodup
import OperationModels.Proofs.Modules
import OperationModels.Text.Pieces

namespace OperationModels.Source

open Model

/-! ## The ways to write a path -/

/-- A path by itself: no blanks around it, no keyword ahead and no semicolon
behind. -/
structure IsImportPath (path : String) : Prop where
  nonempty : path ≠ ""
  starts : ∀ c ∈ path.toList.head?, Text.isBlank c = false
  ends : ∀ c ∈ path.toList.getLast?, Text.isBlank c = false ∧ c ≠ ';'
  noKeyword : ¬ "use ".toList <+: path.toList

theorem isImportPath_iff {path : String} :
    IsImportPath path ↔
      path ≠ "" ∧ path.toList.head?.all (fun c => !Text.isBlank c) = true ∧
        path.toList.getLast?.all (fun c => !Text.isBlank c && c != ';') = true ∧
        "use ".toList.isPrefixOf path.toList = false := by
  have hkeyword : "use ".toList.isPrefixOf path.toList = false ↔
      ¬ "use ".toList <+: path.toList := by
    rw [← List.isPrefixOf_iff_prefix, Bool.not_eq_true]
  rw [Option.all_eq_true, Option.all_eq_true, hkeyword]
  simp only [Bool.not_eq_true', Bool.and_eq_true, bne_iff_ne]
  exact ⟨fun h => ⟨h.nonempty, h.starts, h.ends, h.noKeyword⟩,
    fun ⟨hnonempty, hstarts, hends, hnoKeyword⟩ => ⟨hnonempty, hstarts, hends, hnoKeyword⟩⟩

instance (path : String) : Decidable (IsImportPath path) := decidable_of_iff _ isImportPath_iff.symm

/-- The line that imports a path. -/
def useLine (path : String) : String := "use " ++ path ++ ";"

/-- A line writes a path: as it is, with a semicolon or as the line that imports
it, with any blanks around the whole. -/
def Writes (path line : String) : Prop :=
  ∃ before written behind, Text.isAllBlank before = true ∧ Text.isAllBlank behind = true ∧
    written ∈ [path, path ++ ";", useLine path] ∧ line = before ++ written ++ behind

theorem useLine_inj {path other : String} : useLine path = useLine other ↔ path = other := by
  unfold useLine
  rw [String.append_left_inj, String.append_right_inj]

/-- The path in a line without blanks around it. -/
def pathIn (text : List Char) : String :=
  Text.trim (String.ofList (Text.dropEnd (· = ';')
    (if ['u', 's', 'e', ' '].isPrefixOf text then text.drop 4 else text)))

/-- Reading a path begins behind the blanks around it. -/
theorem importPath_append {before written behind : String}
    (hbefore : Text.isAllBlank before = true) (hbehind : Text.isAllBlank behind = true)
    (hne : written ≠ "") (hfirst : ∀ c ∈ written.toList.head?, Text.isBlank c = false)
    (hlast : ∀ c ∈ written.toList.getLast?, Text.isBlank c = false) :
    importPath (before ++ written ++ behind) = pathIn written.toList := by
  unfold importPath
  rw [Text.trim_append hbefore hbehind hne hfirst hlast]
  rfl

/-- The same of what ends with a semicolon, which is no blank. -/
theorem importPath_append_semicolon {before front behind : String}
    (hbefore : Text.isAllBlank before = true) (hbehind : Text.isAllBlank behind = true)
    (hne : front ≠ "") (hfirst : ∀ c ∈ front.toList.head?, Text.isBlank c = false) :
    importPath (before ++ (front ++ ";") ++ behind) = pathIn (front.toList ++ [';']) := by
  have hsemicolon : (front ++ ";").toList = front.toList ++ [';'] := String.toList_append
  rw [importPath_append hbefore hbehind, hsemicolon]
  · intro hempty
    exact hne (String.append_eq_empty_iff.1 hempty).1
  · rw [hsemicolon]
    cases htext : front.toList with
    | nil => exact absurd (String.toList_eq_nil_iff.1 htext) hne
    | cons first rest => rwa [htext] at hfirst
  · rw [hsemicolon, List.getLast?_concat]
    rintro c ⟨⟩
    rfl

namespace IsImportPath

variable {path : String}

/-- A semicolon behind a path is dropped, and nothing else. -/
theorem trim_dropEnd (h : IsImportPath path) {text : List Char}
    (htext : text = path.toList ∨ text = path.toList ++ [';']) :
    Text.trim (String.ofList (Text.dropEnd (· = ';') text)) = path := by
  have hlast : ∀ c ∈ path.toList.getLast?, decide (c = ';') = false :=
    fun c hc => decide_eq_false (h.ends c hc).2
  have hdrop : Text.dropEnd (· = ';') text = path.toList := by
    rcases htext with rfl | rfl
    · have hnone := Text.dropEnd_append (List.forall_mem_nil _) hlast
      rwa [List.append_nil] at hnone
    · exact Text.dropEnd_append (by simp) hlast
  have htrim : Text.trim ("" ++ path ++ "") = path :=
    Text.trim_append rfl rfl h.nonempty h.starts fun c hc => (h.ends c hc).1
  rw [hdrop, String.ofList_toList]
  simpa using htrim

/-- Without the keyword ahead nothing is taken from the front. -/
theorem pathIn_eq (h : IsImportPath path) {text : List Char}
    (htext : text = path.toList ∨ text = path.toList ++ [';']) : pathIn text = path := by
  have hnoKeyword : ¬ ['u', 's', 'e', ' '] <+: text := by
    rcases htext with rfl | rfl
    · exact h.noKeyword
    · rw [List.prefix_concat_iff]
      rintro (hwhole | hahead)
      · exact absurd (congrArg List.getLast? hwhole) (by simp)
      · exact h.noKeyword hahead
  unfold pathIn
  rw [if_neg fun hkeyword => hnoKeyword (List.isPrefixOf_iff_prefix.1 hkeyword)]
  exact h.trim_dropEnd htext

/-- The keyword ahead of a path is taken away. -/
theorem pathIn_keyword (h : IsImportPath path) :
    pathIn (("use " ++ path).toList ++ [';']) = path := by
  have hkeyword : ("use " ++ path).toList ++ [';'] =
      ['u', 's', 'e', ' '] ++ (path.toList ++ [';']) := by
    rw [String.toList_append, List.append_assoc]
    rfl
  unfold pathIn
  rw [hkeyword, if_pos (List.isPrefixOf_iff_prefix.2 (List.prefix_append _ _))]
  exact h.trim_dropEnd (.inr rfl)

/-- However a path is written, it is read as itself. -/
theorem importPath_eq (h : IsImportPath path) {line : String} (hline : Writes path line) :
    importPath line = path := by
  obtain ⟨before, written, behind, hbefore, hbehind, hwritten, rfl⟩ := hline
  simp only [List.mem_cons, List.not_mem_nil, or_false] at hwritten
  rcases hwritten with rfl | rfl | rfl
  · rw [importPath_append hbefore hbehind h.nonempty h.starts fun c hc => (h.ends c hc).1]
    exact h.pathIn_eq (.inl rfl)
  · rw [importPath_append_semicolon hbefore hbehind h.nonempty h.starts]
    exact h.pathIn_eq (.inr rfl)
  · have hstarts : ∀ c ∈ ("use " ++ path).toList.head?, Text.isBlank c = false := by
      rw [String.toList_append]
      rintro c ⟨⟩
      rfl
    unfold useLine
    rw [importPath_append_semicolon hbefore hbehind (by simp) hstarts]
    exact h.pathIn_keyword

end IsImportPath

/-- Lines that write some paths, one for each, are read as those paths. -/
theorem map_importPath_eq {paths lines : List String} (hpaths : ∀ path ∈ paths, IsImportPath path)
    (h : List.Forall₂ Writes paths lines) : lines.map importPath = paths := by
  induction h with
  | nil => rfl
  | cons hline _ ih =>
    rw [List.forall_mem_cons] at hpaths
    rw [List.map_cons, hpaths.1.importPath_eq hline, ih hpaths.2]

/-! ## What comes first -/

section

variable {α : Type} [DecidableEq α] {known items firsts : List α} {item : α}

/-- The items that are not known yet, each once and in the order in which they
come first. -/
structure FirstsOf (known items firsts : List α) : Prop where
  mem_iff : ∀ item, item ∈ firsts ↔ item ∈ items ∧ item ∉ known
  ordered : firsts.Pairwise (fun item next => items.idxOf item < items.idxOf next)

theorem FirstsOf.nodup (h : FirstsOf known items firsts) : firsts.Nodup :=
  h.ordered.imp fun hlt heq => absurd (heq ▸ hlt) (lt_irrefl _)

theorem FirstsOf.nil (known : List α) : FirstsOf known [] [] where
  mem_iff := by simp
  ordered := .nil

/-- One more item behind the others leaves their order as it is. -/
theorem FirstsOf.ordered_snoc (h : FirstsOf known items firsts) (item : α) :
    firsts.Pairwise
      (fun first next => (items ++ [item]).idxOf first < (items ++ [item]).idxOf next) := by
  refine h.ordered.imp_of_mem fun hfirst hnext hlt => ?_
  rwa [List.idxOf_append_of_mem ((h.mem_iff _).1 hfirst).1,
    List.idxOf_append_of_mem ((h.mem_iff _).1 hnext).1]

/-- An item that is known or came before adds nothing. -/
theorem FirstsOf.snoc_seen (h : FirstsOf known items firsts) (hseen : item ∈ known ∨ item ∈ items) :
    FirstsOf known (items ++ [item]) firsts where
  mem_iff other := by
    rw [h.mem_iff, List.mem_append, List.mem_singleton]
    constructor
    · exact fun hother => ⟨.inl hother.1, hother.2⟩
    · rintro ⟨hother | rfl, hnew⟩
      · exact ⟨hother, hnew⟩
      · exact ⟨hseen.resolve_left hnew, hnew⟩
  ordered := h.ordered_snoc item

/-- A new item comes last. -/
theorem FirstsOf.snoc_new (h : FirstsOf known items firsts) (hknown : item ∉ known)
    (hitems : item ∉ items) : FirstsOf known (items ++ [item]) (firsts ++ [item]) where
  mem_iff other := by
    rw [List.mem_append, List.mem_append, h.mem_iff, List.mem_singleton, or_and_right]
    refine or_congr_right ⟨?_, And.left⟩
    rintro rfl
    exact ⟨rfl, hknown⟩
  ordered := by
    rw [List.pairwise_append]
    refine ⟨h.ordered_snoc item, List.pairwise_singleton _ _, fun first hfirst next hnext => ?_⟩
    cases List.mem_singleton.1 hnext
    have hmem := ((h.mem_iff first).1 hfirst).1
    rw [List.idxOf_append_of_mem hmem, List.idxOf_append_of_notMem hitems]
    exact Nat.lt_add_right _ (List.idxOf_lt_length_of_mem hmem)

/-- Erasing what is known and what comes twice leaves the firsts. -/
theorem firstsOf_eraseDups (known items : List α) :
    FirstsOf known items (items.removeAll known).eraseDups := by
  induction items using List.reverseRecOn with
  | nil => exact .nil known
  | append_singleton items item ih =>
    have hsplit : (items ++ [item]).removeAll known =
        items.removeAll known ++ [item].removeAll known := List.filter_append ..
    rw [hsplit]
    by_cases hknown : item ∈ known
    · rw [show [item].removeAll known = [] by simp [List.removeAll, hknown], List.append_nil]
      exact ih.snoc_seen (.inl hknown)
    · rw [show [item].removeAll known = [item] by simp [List.removeAll, hknown], eraseDups_snoc]
      by_cases hitems : item ∈ items
      · rw [if_pos (by simp [List.removeAll, hitems, hknown])]
        exact ih.snoc_seen (.inr hitems)
      · rw [if_neg (by simp [List.removeAll, hitems])]
        exact ih.snoc_new hknown hitems

end

/-! ## The lines of a module -/

/-- The line that the structs of a module need comes first, and a line for each
other path follows. -/
theorem importLines_eq (decodes encodes : Bool) (extra : List String) :
    importLines decodes encodes extra =
      (serdeImport decodes encodes ++
        ((extra.map importPath).removeAll (serdeImport decodes encodes)).eraseDups).map
          useLine := by
  have hserde : (serdeImport decodes encodes).eraseDups = serdeImport decodes encodes := by
    cases decodes <;> cases encodes <;> rfl
  unfold importLines
  rw [List.eraseDups_append, hserde]
  rfl

theorem nodup_serdeImport (decodes encodes : Bool) : (serdeImport decodes encodes).Nodup := by
  cases decodes <;> cases encodes <;> simp [serdeImport]

/-- However the paths that the settings add are written, the lines are the same:
the line for the structs of the module, if they need one, and then one for each
other path in the order in which the paths come first. No line comes twice. -/
theorem import_lines_do_not_depend_on_how_paths_are_written (decodes encodes : Bool)
    {paths : List String} (hpaths : ∀ path ∈ paths, IsImportPath path) :
    ∃ others, FirstsOf (serdeImport decodes encodes) paths others ∧
      ((serdeImport decodes encodes ++ others).map useLine).Nodup ∧
      ∀ lines, List.Forall₂ Writes paths lines →
        importLines decodes encodes lines =
          (serdeImport decodes encodes ++ others).map useLine := by
  have hfirsts := firstsOf_eraseDups (serdeImport decodes encodes) paths
  refine ⟨_, hfirsts, ?_, fun lines hlines => ?_⟩
  · have hnodup : (serdeImport decodes encodes ++
        (paths.removeAll (serdeImport decodes encodes)).eraseDups).Nodup := by
      refine (nodup_serdeImport decodes encodes).append hfirsts.nodup ?_
      exact fun path hknown hother => ((hfirsts.mem_iff path).1 hother).2 hknown
    exact hnodup.map fun path other => useLine_inj.1
  · rw [importLines_eq, map_importPath_eq hpaths hlines]

/-- Paths of which one comes twice and one is of the line for the structs. -/
def datePaths : List String :=
  ["chrono::NaiveDate", "serde::Deserialize", "chrono::NaiveDate", "url::Url"]

/-- Those paths, each written in a way of its own. -/
def dateLines : List String :=
  ["  use chrono::NaiveDate;\n", "serde::Deserialize;", "chrono::NaiveDate", "\turl::Url; "]

theorem import_lines_of_dates_do_not_depend_on_how_paths_are_written :
    (∀ path ∈ datePaths, IsImportPath path) ∧ List.Forall₂ Writes datePaths dateLines ∧
      ∃ others, FirstsOf (serdeImport true false) datePaths others ∧
        importLines true false dateLines = (serdeImport true false ++ others).map useLine ∧
        importLines true false dateLines =
          ["use serde::Deserialize;", "use chrono::NaiveDate;", "use url::Url;"] := by
  have hpaths : ∀ path ∈ datePaths, IsImportPath path := by decide +kernel
  have hwrites : List.Forall₂ Writes datePaths dateLines := by
    refine .cons ⟨"  ", useLine "chrono::NaiveDate", "\n", by decide, by decide, ?_, by decide⟩ <|
      .cons ⟨"", "serde::Deserialize;", "", by decide, by decide, ?_, by decide⟩ <|
      .cons ⟨"", "chrono::NaiveDate", "", by decide, by decide, ?_, by decide⟩ <|
      .cons ⟨"\t", "url::Url;", " ", by decide, by decide, ?_, by decide⟩ .nil
    all_goals decide
  obtain ⟨others, hfirsts, -, hlines⟩ :=
    import_lines_do_not_depend_on_how_paths_are_written true false hpaths
  exact ⟨hpaths, hwrites, others, hfirsts, hlines dateLines hwrites, by decide +kernel⟩

/-! ## The traits that a module imports -/

/-- The traits that carry data over the wire. -/
inductive SerdeTrait
  | deserialize
  | serialize
deriving DecidableEq, Repr

def SerdeTrait.name : SerdeTrait → String
  | .deserialize => "Deserialize"
  | .serialize => "Serialize"

/-- Some line names a trait: the name is one of its words. -/
def NamesTrait (lines : List String) (trait : SerdeTrait) : Prop :=
  ∃ line ∈ lines, trait.name.toList ∈ Text.pieces Char.isAlphanum line.toList

instance (lines : List String) (trait : SerdeTrait) : Decidable (NamesTrait lines trait) :=
  inferInstanceAs (Decidable (∃ line ∈ lines, _))

/-- Some struct of a module derives a trait. -/
def Module.Derives (made : Module) (trait : SerdeTrait) : Prop :=
  ∃ struct ∈ made.structs, trait.name ∈ struct.derives

instance (made : Module) (trait : SerdeTrait) : Decidable (made.Derives trait) :=
  inferInstanceAs (Decidable (∃ struct ∈ made.structs, _))

/-- Settings without import paths. -/
def Extras.withoutImports (extras : Extras) : Extras := { extras with imports := [] }

/-- Settings that derive no more traits. -/
def Extras.withoutDerives (extras : Extras) : Extras := { extras with derives := [] }

/-- The lines that a module needs for its own structs: at most one, ahead of all
others. What they name is what the structs derive without the settings, which is
what they do derive unless the settings add a trait that none of them has. -/
structure Module.ImportsOwn (made plain : Module) (own derives : List String) : Prop where
  ahead : own <+: made.imports
  atMostOne : own.length ≤ 1
  absent_iff : own = [] ↔ ∀ trait, ¬ made.Derives trait
  names_iff : ∀ trait, NamesTrait own trait ↔ plain.Derives trait
  derived_of_names : ∀ trait, NamesTrait own trait → made.Derives trait
  suits_iff : ∀ trait, (NamesTrait own trait ↔ made.Derives trait) ↔
    (trait.name ∈ derives → made.structs = [] ∨ plain.Derives trait)

theorem mem_derivesWith {direction : String} {extra : List String} {derive : String} :
    derive ∈ derivesWith direction extra ↔
      derive ∈ baseDerives ∨ derive = direction ∨ derive ∈ extra := by
  induction extra using List.reverseRecOn with
  | nil => simp [derivesWith]
  | append_singleton extra last ih =>
    rw [derivesWith, List.foldl_concat, ← derivesWith]
    split
    · rename_i hknown
      rw [ih, List.mem_append, List.mem_singleton]
      rw [List.contains_iff_mem] at hknown
      constructor
      · exact Or.imp_right (Or.imp_right .inl)
      · rintro (hbase | hdirection | hextra | rfl)
        · exact .inl hbase
        · exact .inr (.inl hdirection)
        · exact .inr (.inr hextra)
        · exact ih.1 hknown
    · rw [List.mem_append, ih, List.mem_append, or_assoc, or_assoc]

/-- The traits of a struct for one direction: that of the direction, and those that
are added. -/
theorem name_mem_derivesWith (own trait : SerdeTrait) (extra : List String) :
    trait.name ∈ derivesWith own.name extra ↔ trait = own ∨ trait.name ∈ extra := by
  rw [mem_derivesWith]
  cases own <;> cases trait <;> simp [SerdeTrait.name, baseDerives]

/-- Without added paths the lines name the trait to decode with if there is
something to decode, and the trait to encode with if there is something to encode. -/
theorem namesTrait_importLines (decodes encodes : Bool) (trait : SerdeTrait) :
    NamesTrait (importLines decodes encodes []) trait ↔
      decodes = true ∧ trait = .deserialize ∨ encodes = true ∧ trait = .serialize := by
  cases decodes <;> cases encodes <;> cases trait <;> decide

theorem length_importLines_nil_le (decodes encodes : Bool) :
    (importLines decodes encodes []).length ≤ 1 := by
  cases decodes <;> cases encodes <;> decide

theorem importLines_nil_ne_nil {decodes encodes : Bool} :
    importLines decodes encodes [] ≠ [] ↔ decodes = true ∨ encodes = true := by
  cases decodes <;> cases encodes <;> decide

/-- Added paths leave the line for the structs ahead of all others. -/
theorem prefix_importLines (decodes encodes : Bool) (extra : List String) :
    importLines decodes encodes [] <+: importLines decodes encodes extra := by
  rw [importLines_eq decodes encodes [], importLines_eq decodes encodes extra]
  simp [List.removeAll]

/-! ## The structs behind the traits -/

variable (operation : Operation) (records : List Record) (variableFields : List Field)
  (extras : Extras) (provided : ProvidedDeclarations)

theorem derives_of_mem_recordStructs {struct : Struct}
    (h : struct ∈ recordStructs extras provided operation records) :
    struct.derives = derivesWith "Deserialize" extras.derives := by
  unfold recordStructs at h
  rw [List.mem_append, List.mem_map] at h
  rcases h with ⟨record, -, rfl⟩ | h
  · rfl
  · split at h
    · cases h
    · obtain ⟨record, -, rfl⟩ := List.mem_map.1 h
      rfl

/-- Which structs there are does not depend on the settings. -/
theorem recordStructs_eq_nil_iff (other : Extras) :
    recordStructs extras provided operation records = [] ↔
      recordStructs other provided operation records = [] := by
  unfold recordStructs
  cases provided.response.struct <;> simp

/-- The structs of the response are for decoding, the one of the variables is for
encoding, and the settings add to all of them. -/
theorem derives_ofModel (trait : SerdeTrait) :
    (Module.ofModel operation records variableFields extras provided).Derives trait ↔
      recordStructs extras provided operation records ≠ [] ∧
          (trait = .deserialize ∨ trait.name ∈ extras.derives) ∨
        provided.request.struct = false ∧
          (trait = .serialize ∨ trait.name ∈ extras.derives) := by
  have hdecode : trait.name ∈ derivesWith "Deserialize" extras.derives ↔
      trait = .deserialize ∨ trait.name ∈ extras.derives :=
    name_mem_derivesWith .deserialize trait extras.derives
  have hencode : trait.name ∈ derivesWith "Serialize" extras.derives ↔
      trait = .serialize ∨ trait.name ∈ extras.derives :=
    name_mem_derivesWith .serialize trait extras.derives
  unfold Module.Derives
  rw [structs_ofModel]
  simp only [List.mem_append, or_and_right, exists_or]
  refine or_congr ?_ ?_
  · rw [← hdecode]
    constructor
    · rintro ⟨struct, hstruct, hderives⟩
      rw [derives_of_mem_recordStructs operation records extras provided hstruct] at hderives
      exact ⟨List.ne_nil_of_mem hstruct, hderives⟩
    · rintro ⟨hsome, hderives⟩
      obtain ⟨struct, hstruct⟩ := List.exists_mem_of_ne_nil _ hsome
      refine ⟨struct, hstruct, ?_⟩
      rwa [derives_of_mem_recordStructs operation records extras provided hstruct]
  · rw [← hencode]
    cases provided.request.struct <;> simp [structOfVariables]

/-! ## The line for the structs -/

/-- The lines without those that the settings add, by what there is to decode and
to encode. -/
theorem imports_withoutImports :
    (Module.ofModel operation records variableFields extras.withoutImports provided).imports =
      importLines (!(recordStructs extras provided operation records).isEmpty)
        (!provided.request.struct) [] := by
  have hsame : (recordStructs extras.withoutImports provided operation records).isEmpty =
      (recordStructs extras provided operation records).isEmpty := by
    rw [Bool.eq_iff_iff, List.isEmpty_iff, List.isEmpty_iff,
      recordStructs_eq_nil_iff operation records _ provided extras]
  rw [← hsame]
  rfl

theorem structs_ofModel_ne_nil :
    (Module.ofModel operation records variableFields extras provided).structs ≠ [] ↔
      recordStructs extras provided operation records ≠ [] ∨ provided.request.struct = false := by
  rw [structs_ofModel, Ne, List.append_eq_nil_iff, not_and_or]
  cases provided.request.struct <;> simp

theorem derives_withoutDerives (trait : SerdeTrait) :
    (Module.ofModel operation records variableFields extras.withoutDerives provided).Derives
        trait ↔
      recordStructs extras provided operation records ≠ [] ∧ trait = .deserialize ∨
        provided.request.struct = false ∧ trait = .serialize := by
  rw [derives_ofModel, Ne, recordStructs_eq_nil_iff operation records _ provided extras]
  simp [Extras.withoutDerives]

/-- The settings add their traits to each struct that there is. -/
theorem derives_ofModel_iff_added (trait : SerdeTrait) :
    (Module.ofModel operation records variableFields extras provided).Derives trait ↔
      (Module.ofModel operation records variableFields extras.withoutDerives provided).Derives
          trait ∨
        trait.name ∈ extras.derives ∧
          (Module.ofModel operation records variableFields extras provided).structs ≠ [] := by
  rw [derives_ofModel, derives_withoutDerives, structs_ofModel_ne_nil]
  tauto

/-- There is a trait to derive as soon as there is a struct. -/
theorem exists_derives_of_ne_nil
    (h : (Module.ofModel operation records variableFields extras provided).structs ≠ []) :
    ∃ trait, (Module.ofModel operation records variableFields extras provided).Derives trait := by
  simp only [derives_ofModel]
  rcases (structs_ofModel_ne_nil operation records variableFields extras provided).1 h with
    hresponse | hrequest
  · exact ⟨.deserialize, .inl ⟨hresponse, .inl rfl⟩⟩
  · exact ⟨.serialize, .inr ⟨hrequest, .inl rfl⟩⟩

/-- What a module imports for its own structs is what they derive by themselves. -/
theorem namesTrait_imports_withoutImports (trait : SerdeTrait) :
    NamesTrait (Module.ofModel operation records variableFields extras.withoutImports
        provided).imports trait ↔
      (Module.ofModel operation records variableFields extras.withoutDerives provided).Derives
        trait := by
  rw [imports_withoutImports, namesTrait_importLines, derives_withoutDerives]
  simp

theorem imports_withoutImports_eq_nil :
    (Module.ofModel operation records variableFields extras.withoutImports provided).imports =
        [] ↔
      (Module.ofModel operation records variableFields extras provided).structs = [] := by
  refine not_iff_not.1 ?_
  rw [← Ne, ← Ne, imports_withoutImports, importLines_nil_ne_nil, structs_ofModel_ne_nil]
  simp

/-- A module imports for its own structs what they derive by themselves. The traits
that the settings add have no part in it. So the line names one of the two traits
exactly if some struct derives it, unless the settings add a trait to structs of
which none has it by itself. -/
theorem a_module_imports_what_structs_derive_by_themselves :
    (Module.ofModel operation records variableFields extras provided).ImportsOwn
      (Module.ofModel operation records variableFields extras.withoutDerives provided)
      (Module.ofModel operation records variableFields extras.withoutImports provided).imports
      extras.derives := by
  have hnames :=
    namesTrait_imports_withoutImports operation records variableFields extras provided
  have hadded := derives_ofModel_iff_added operation records variableFields extras provided
  constructor
  case ahead =>
    rw [imports_withoutImports]
    exact prefix_importLines _ _ _
  case atMostOne =>
    rw [imports_withoutImports]
    exact length_importLines_nil_le _ _
  case absent_iff =>
    rw [imports_withoutImports_eq_nil]
    constructor
    · rintro hnone trait ⟨struct, hstruct, -⟩
      rw [hnone] at hstruct
      cases hstruct
    · intro hnone
      by_contra hsome
      obtain ⟨trait, htrait⟩ :=
        exists_derives_of_ne_nil operation records variableFields extras provided hsome
      exact hnone trait htrait
  case names_iff => exact hnames
  case derived_of_names =>
    intro trait hown
    exact (hadded trait).2 (.inl ((hnames trait).1 hown))
  case suits_iff =>
    -- An added trait is the only one that a struct may have and the line does not name.
    intro trait
    rw [hnames, hadded]
    tauto

/-- A query of one number, without a name and without variables. -/
def countQuery : Operation := ⟨.query, none, [], .select "count" [] .nothing, "{ count }"⟩

/-- The record of its response. -/
def countRecord : Record := ⟨dataRecord, [⟨"count", .named "i32"⟩]⟩

/-- Settings that want every struct to be encoded too. -/
def encodedToo : Extras := ⟨[], ["Serialize"]⟩

/-- A destination that has the variables already. -/
def withRequest : ProvidedDeclarations := ⟨⟨false, false⟩, ⟨true, true⟩, []⟩

theorem a_response_that_is_encoded_too_lacks_its_import :
    (Module.ofModel countQuery [countRecord] [] encodedToo withRequest).imports =
        ["use serde::Deserialize;"] ∧
      (Module.ofModel countQuery [countRecord] [] encodedToo withRequest).structs.map
        Struct.derives = [["Debug", "Clone", "PartialEq", "Deserialize", "Serialize"]] ∧
      ¬ (NamesTrait (Module.ofModel countQuery [countRecord] [] encodedToo.withoutImports
          withRequest).imports .serialize ↔
        (Module.ofModel countQuery [countRecord] [] encodedToo withRequest).Derives
          .serialize) := by
  decide +kernel

end OperationModels.Source
