-- The order of paths, and the paths of what lies below a folder. Paths are
-- compared part by part, and what lies below a folder has the parts of the
-- folder in front, so that the names behind it decide.
import Mathlib.Data.List.Lex
import Mathlib.Data.Prod.Lex
import Mathlib.Data.String.Basic
import OperationModels.Proofs.OutputPaths

namespace OperationModels.Files

namespace Path

/-! ## Order -/

/-- What a part is compared by: its kind, and among names the name. -/
def Part.key : Part → Nat ×ₗ String
  | .named name => toLex (3, name)
  | part => toLex (part.rank, "")

theorem Part.key_injective : Function.Injective Part.key := by
  intro a b h
  cases a <;> cases b <;> simp_all [Part.key, Part.rank]

theorem Part.before_iff (a b : Part) : a.before b = true ↔ a.key < b.key := by
  cases a <;> cases b <;> simp [Part.before, Part.key, Part.rank, Prod.Lex.toLex_lt_toLex]

theorem partsLe_iff (as bs : List Part) :
    partsLe as bs = true ↔ as.map Part.key ≤ bs.map Part.key := by
  induction as generalizing bs with
  | nil => exact iff_of_true rfl (not_lt.1 (List.not_lt_nil _))
  | cons a as ih =>
    cases bs with
    | nil => exact iff_of_false Bool.false_ne_true (not_le.2 (List.nil_lt_cons _ _))
    | cons b bs =>
      unfold partsLe
      rw [Bool.or_eq_true, Bool.and_eq_true, decide_eq_true_eq, Part.before_iff, ih,
        List.map_cons, List.map_cons, le_iff_lt_or_eq, le_iff_lt_or_eq, List.cons_lt_cons_iff,
        List.cons.injEq, and_or_left, or_assoc, Part.key_injective.eq_iff]

/-- What a path is compared by. -/
def key (path : Path) : List (Nat ×ₗ String) := path.parts.map Part.key

theorem le_iff (a b : Path) : a.le b = true ↔ a.key ≤ b.key := partsLe_iff a.parts b.parts

theorem key_eq_iff {a b : Path} : a.key = b.key ↔ a.parts = b.parts :=
  (List.map_injective_iff.2 Part.key_injective).eq_iff

/-- Sorted paths of which no two have the same parts come in strict order. -/
theorem pairwise_mergeSort_le {paths : List Path}
    (h : paths.Pairwise (fun a b => a.parts ≠ b.parts)) :
    (paths.mergeSort le).Pairwise (fun a b => b.le a = false) := by
  have hordered : (paths.mergeSort le).Pairwise (fun a b => a.le b = true) := by
    refine List.pairwise_mergeSort ?_ ?_ paths
    · intro a b c
      simp only [le_iff]
      exact le_trans
    · intro a b
      rw [Bool.or_eq_true, le_iff, le_iff]
      exact le_total _ _
  have honce : (paths.mergeSort le).Pairwise (fun a b => a.parts ≠ b.parts) :=
    h.perm (List.mergeSort_perm paths le).symm Ne.symm
  refine (hordered.and honce).imp ?_
  rintro a b ⟨hle, hne⟩
  rw [Bool.eq_false_iff, ne_eq, le_iff]
  rw [le_iff] at hle
  exact fun hback => hne (key_eq_iff.1 (le_antisymm hle hback))

/-- Paths in strict order are told by which they are. -/
theorem eq_of_pairwise_of_mem_iff {paths others : List Path}
    (hpaths : paths.Pairwise (fun a b => b.le a = false))
    (hothers : others.Pairwise (fun a b => b.le a = false))
    (hsame : ∀ path, path ∈ paths ↔ path ∈ others) : paths = others := by
  have hnodup : ∀ {known : List Path}, known.Pairwise (fun a b => b.le a = false) →
      known.Nodup := by
    intro known hknown
    refine hknown.imp ?_
    rintro a _ hle rfl
    rw [Bool.eq_false_iff, ne_eq, le_iff] at hle
    exact hle le_rfl
  refine List.Perm.eq_of_pairwise ?_ hpaths hothers
    ((List.perm_ext_iff_of_nodup (hnodup hpaths) (hnodup hothers)).2 hsame)
  intro a b _ _ hab hba
  rw [Bool.eq_false_iff, ne_eq, le_iff, not_le] at hab hba
  exact absurd hab hba.asymm

/-! ## Extensions -/

/-- The extension of a name is what stands behind its last dot, unless the name
begins with that dot. -/
theorem splitName_snd_eq_some {name extension : String} :
    (splitName name).2 = some extension ↔
      ∃ stem, stem ≠ "" ∧ name = stem ++ "." ++ extension ∧ '.' ∉ extension.toList := by
  unfold splitName
  dsimp only
  constructor
  · intro h
    split at h
    · rename_i dot before rest hdrop
      cases h
      have hdot : dot = '.' := by
        have hnil : name.toList.reverse.dropWhile (· ≠ '.') ≠ [] := by
          rw [hdrop]
          exact List.cons_ne_nil _ _
        have hhead := List.head_dropWhile_not _ hnil
        simp only [hdrop, List.head_cons] at hhead
        simpa using hhead
      refine ⟨String.ofList (before :: rest).reverse, ?_, ?_, ?_⟩
      · simp
      · have hsplit := List.takeWhile_append_dropWhile (p := (· ≠ '.')) (l := name.toList.reverse)
        rw [hdrop, hdot] at hsplit
        rw [← String.toList_inj]
        refine (List.reverse_eq_iff.1 hsplit.symm).trans ?_
        simp
      · rw [String.toList_ofList, List.mem_reverse]
        intro hmem
        simpa using List.mem_takeWhile_imp hmem
    · cases h
  · rintro ⟨stem, hstem, rfl, hextension⟩
    have hkept : ∀ c ∈ extension.toList.reverse, decide (c ≠ '.') = true := by
      intro c hc
      rw [decide_eq_true_eq]
      rintro rfl
      exact hextension (List.mem_reverse.1 hc)
    have hreverse : (stem ++ "." ++ extension).toList.reverse =
        extension.toList.reverse ++ '.' :: stem.toList.reverse := by simp
    have hsome : stem.toList.reverse ≠ [] := by simpa using hstem
    obtain ⟨before, rest, hbefore⟩ := List.exists_cons_of_ne_nil hsome
    rw [hreverse, List.dropWhile_append_of_pos hkept, List.takeWhile_append_of_pos hkept, hbefore]
    simp

/-! ## Below a folder -/

/-- A name that a file or a folder can have. -/
def IsName (name : String) : Prop :=
  leadsFurther name = true ∧ name ≠ ".." ∧ '/' ∉ name.toList ∧ '\x00' ∉ name.toList ∧
    name.utf8ByteSize ≤ Disk.maxNameBytes

instance : DecidablePred IsName := fun _ => inferInstanceAs (Decidable (_ ∧ _))

/-- The parts of segments behind the root or behind nothing. -/
def partsOf : Bool → List String → List Part
  | true, segments => .root :: segments.filterMap (partOf? false)
  | false, [] => []
  | false, first :: others => (partOf? true first).toList ++ others.filterMap (partOf? false)

theorem parts_eq (path : Path) : path.parts = partsOf path.isAbsolute path.segments := by
  unfold parts partsOf
  cases path.isAbsolute <;> cases path.segments <;> rfl

theorem partsOf_concat (absolute : Bool) (front : List String) (last : String) :
    partsOf absolute (front ++ [last]) =
      partsOf absolute front ++ (partOf? (!absolute && front.isEmpty) last).toList := by
  have hlast : ∀ atFront, [last].filterMap (partOf? atFront) = (partOf? atFront last).toList := by
    intro atFront
    rw [List.filterMap_cons]
    cases partOf? atFront last <;> rfl
  cases absolute with
  | true =>
    show Part.root :: (front ++ [last]).filterMap (partOf? false) = _
    rw [List.filterMap_append, hlast]
    rfl
  | false =>
    cases front with
    | nil => simp [partsOf]
    | cons first others =>
      show (partOf? true first).toList ++ (others ++ [last]).filterMap (partOf? false) = _
      rw [List.filterMap_append, hlast, ← List.append_assoc]
      rfl

theorem parts_eq_innerSegments (folder : Path) :
    folder.parts = partsOf folder.isAbsolute folder.innerSegments := by
  rw [parts_eq]
  rcases folder.segments_eq_innerSegments with h | h
  · rw [h]
  · rw [h, partsOf_concat]
    exact List.append_nil _

variable {folder : Path} {name : String} {names : List String}

theorem parts_join (h : IsName name) :
    (folder.join ⟨name⟩).parts = folder.parts ++ [.named name] := by
  obtain ⟨hname, hup, hslash, -, -⟩ := h
  obtain ⟨habsolute, hsegments⟩ := folder.segments_join hslash
  rw [parts_eq, habsolute, hsegments, partsOf_concat, ← parts_eq_innerSegments,
    partOf?_of_leadsFurther hname, if_neg hup]
  rfl

theorem names_join (folder : Path) (h : IsName name) :
    (folder.join ⟨name⟩).isAbsolute = folder.isAbsolute ∧
      (folder.join ⟨name⟩).names = folder.names ++ [name] := by
  obtain ⟨hname, -, hslash, -, -⟩ := h
  obtain ⟨habsolute, hsegments⟩ := folder.segments_join hslash
  refine ⟨habsolute, ?_⟩
  rw [← folder.names_of_innerSegments]
  unfold Path.names
  rw [hsegments, List.filter_append, List.filter_singleton, hname, cond_true]

theorem joinAll_concat (folder : Path) (names : List String) (name : String) :
    folder.joinAll (names ++ [name]) = (folder.joinAll names).join ⟨name⟩ :=
  List.foldl_concat _ _ _ _

/-- What lies below a folder has the parts of the folder and then its names. -/
theorem parts_joinAll (h : ∀ name ∈ names, IsName name) :
    (folder.joinAll names).parts = folder.parts ++ names.map .named := by
  induction names using List.reverseRecOn with
  | nil => exact (List.append_nil _).symm
  | append_singleton names name ih =>
    rw [List.forall_mem_append, List.forall_mem_singleton] at h
    rw [joinAll_concat, parts_join h.2, ih h.1, List.append_assoc, List.map_append,
      List.map_singleton]

theorem names_joinAll (folder : Path) (h : ∀ name ∈ names, IsName name) :
    (folder.joinAll names).isAbsolute = folder.isAbsolute ∧
      (folder.joinAll names).names = folder.names ++ names := by
  induction names using List.reverseRecOn with
  | nil => exact ⟨rfl, (List.append_nil _).symm⟩
  | append_singleton names name ih =>
    rw [List.forall_mem_append, List.forall_mem_singleton] at h
    obtain ⟨habsolute, hnames⟩ := ih h.1
    obtain ⟨hboth, hjoined⟩ := (folder.joinAll names).names_join h.2
    rw [joinAll_concat, hboth, hjoined, habsolute, hnames, List.append_assoc]
    exact ⟨rfl, rfl⟩

/-- Different names lead to different paths. -/
theorem joinAll_inj {others : List String} (h : ∀ name ∈ names, IsName name)
    (hothers : ∀ name ∈ others, IsName name)
    (hparts : (folder.joinAll names).parts = (folder.joinAll others).parts) : names = others := by
  rw [parts_joinAll h, parts_joinAll hothers] at hparts
  refine List.map_injective_iff.2 ?_ (List.append_cancel_left hparts)
  intro a b hsame
  cases hsame
  rfl

theorem extension?_joinAll (hname : IsName name) :
    (folder.joinAll (names ++ [name])).extension? = (splitName name).2 := by
  obtain ⟨hfurther, hup, hslash, -, -⟩ := hname
  rw [joinAll_concat]
  unfold extension?
  rw [fileName?_of_segments ((folder.joinAll names).segments_join hslash).2 hfurther, if_neg hup]
  rfl

/-- Of the faults that the text of a path below a folder may have, only its
length is left. -/
theorem text_joinAll (hfolder : folder.text ≠ "" ∧ '\x00' ∉ folder.text.toList)
    (h : ∀ name ∈ names, IsName name) :
    (folder.joinAll names).text ≠ "" ∧ '\x00' ∉ (folder.joinAll names).text.toList := by
  induction names using List.reverseRecOn with
  | nil => exact hfolder
  | append_singleton names name ih =>
    rw [List.forall_mem_append, List.forall_mem_singleton] at h
    obtain ⟨hsome, hnul⟩ := ih h.1
    obtain ⟨-, -, hslash, hname, -⟩ := h.2
    rw [joinAll_concat]
    unfold join
    rw [isAbsolute_of_slash_not_mem hslash, if_neg (by simp)]
    split_ifs <;> simp [hsome, hnul, hname]

theorem textFault?_joinAll (hfolder : folder.textFault? = none)
    (h : ∀ name ∈ names, IsName name) :
    (folder.joinAll names).textFault? = none ↔
      (folder.joinAll names).text.utf8ByteSize ≤ Disk.maxPathBytes := by
  rw [textFault?_eq_none_iff] at hfolder ⊢
  obtain ⟨hsome, hnul⟩ := text_joinAll ⟨hfolder.1, hfolder.2.1⟩ h
  exact ⟨fun htext => htext.2.2, fun hshort => ⟨hsome, hnul, hshort⟩⟩

end Path

end OperationModels.Files
