-- Where paths lead. Of the segments of a path only some lead further: its
-- names. A path that never leads up leads to the place that its names tell, and
-- a path that it lies in has the same names up to some place.
import OperationModels.Proofs.DiskGrowth

namespace OperationModels.Files

namespace Path

/-! ## Names -/

/-- Does a segment lead further? An empty one and a single dot do not. -/
def leadsFurther (segment : String) : Bool := segment ≠ "" && segment ≠ "."

/-- The segments of a path that lead further; those that lead up are among
them. -/
def names (path : Path) : List String := path.segments.filter leadsFurther

theorem leadsFurther_of_mem_names {path : Path} :
    ∀ name ∈ path.names, leadsFurther name = true :=
  fun _ hmem => (List.mem_filter.1 hmem).2

theorem names_of_text_empty {path : Path} (h : path.text = "") : path.names = [] := by
  unfold names segments isAbsolute
  rw [h]
  rfl

theorem leadsFurther_eq_false_iff {segment : String} :
    leadsFurther segment = false ↔ segment = "" ∨ segment = "." := by
  simp only [leadsFurther, Bool.and_eq_false_iff, decide_eq_false_iff_not, Decidable.not_not]

/-- What is no part of a path leads no further. -/
theorem leadsFurther_of_partOf?_eq_none {atFront : Bool} {segment : String}
    (h : partOf? atFront segment = none) : leadsFurther segment = false := by
  rw [leadsFurther_eq_false_iff]
  by_contra hnot
  rw [not_or] at hnot
  unfold partOf? at h
  rw [if_neg hnot.1, if_neg hnot.2] at h
  split at h <;> cases h

/-! ## Segments -/

theorem slash_not_mem_segments (path : Path) : ∀ segment ∈ path.segments, '/' ∉ segment.toList :=
  fun _ hmem => Text.not_mem_of_mem_cutAt hmem

/-- A text without a slash is no absolute path. -/
theorem isAbsolute_of_slash_not_mem {text : String} (h : '/' ∉ text.toList) :
    (⟨text⟩ : Path).isAbsolute = false := by
  unfold isAbsolute
  rw [decide_eq_false_iff_not]
  exact fun hhead => h (List.mem_of_head? hhead)

theorem segments_of_relative {path : Path} (h : path.isAbsolute = false) :
    path.segments = Text.cutAt '/' path.text.toList := by
  simp [segments, h]

theorem segments_ne_nil (path : Path) : path.segments ≠ [] := by
  unfold segments Text.cutAt
  rw [ne_eq, List.map_eq_nil_iff]
  exact Text.pieces_ne_nil _ _

/-- A relative path begins with a segment that is not empty, unless it is
empty. -/
theorem segments_of_head?_eq_empty {path : Path} (habsolute : path.isAbsolute = false)
    (h : path.segments.head? = some "") : path.segments = [""] := by
  rw [segments_of_relative habsolute] at *
  cases htext : path.text.toList with
  | nil => rfl
  | cons c rest =>
    have hslash : c ≠ '/' := by simpa [isAbsolute, htext] using habsolute
    rw [htext] at h
    exact absurd h (Text.head?_cutAt_cons_ne hslash rest)

/-- Segments put together are the segments of the path, unless there are none;
a relative path must not begin with an empty one. -/
theorem isAbsolute_ofSegments {absolute : Bool} {segments : List String}
    (hplain : ∀ segment ∈ segments, '/' ∉ segment.toList)
    (hfront : absolute = false → segments.head? ≠ some "") :
    (ofSegments absolute segments).isAbsolute = absolute := by
  unfold isAbsolute ofSegments
  cases absolute with
  | true => simp
  | false =>
    rw [if_neg (by simp), String.empty_append, String.toList_intercalate, decide_eq_false_iff_not]
    cases segments with
    | nil => simp
    | cons first rest =>
      have hfirst : first ≠ "" := by simpa using hfront rfl
      rw [List.forall_mem_cons] at hplain
      intro hslash
      cases hchars : first.toList with
      | nil => exact hfirst (String.toList_eq_nil_iff.1 hchars)
      | cons c others =>
        rw [hchars] at hplain
        cases rest <;> simp_all

theorem segments_ofSegments {absolute : Bool} {segments : List String}
    (hplain : ∀ segment ∈ segments, '/' ∉ segment.toList)
    (hfront : absolute = false → segments.head? ≠ some "") (hsome : segments ≠ []) :
    (ofSegments absolute segments).segments = segments := by
  have habsolute := isAbsolute_ofSegments hplain hfront
  have hcut : Text.cutAt '/' ("/".intercalate segments).toList = segments :=
    Text.cutAt_intercalate rfl hplain hsome
  unfold Path.segments
  rw [habsolute]
  unfold ofSegments
  cases absolute with
  | true => simpa using hcut
  | false => simpa using hcut

theorem names_ofSegments {absolute : Bool} {segments : List String}
    (hplain : ∀ segment ∈ segments, '/' ∉ segment.toList)
    (hfront : absolute = false → segments.head? ≠ some "") :
    (ofSegments absolute segments).names = segments.filter leadsFurther := by
  unfold names
  by_cases hsome : segments = []
  · subst hsome
    cases absolute <;> rfl
  · rw [segments_ofSegments hplain hfront hsome]

/-- Segments put together are the path that they are read off. -/
theorem ofSegments_segments (path : Path) : ofSegments path.isAbsolute path.segments = path := by
  unfold ofSegments segments
  rw [Text.intercalate_cutAt rfl]
  congr 1
  rw [← String.toList_inj]
  cases habsolute : path.isAbsolute with
  | false => simp
  | true =>
    unfold isAbsolute at habsolute
    rw [decide_eq_true_eq] at habsolute
    simpa using List.cons_head?_tail habsolute

/-- Fewer segments make a front of the text. -/
theorem text_ofSegments_append (absolute : Bool) (front more : List String) (hmore : more ≠ []) :
    ∃ rest, (ofSegments absolute (front ++ more)).text =
        (ofSegments absolute front).text ++ rest ∧
      (rest = "/".intercalate more ∨ rest = "/" ++ "/".intercalate more) := by
  unfold ofSegments
  by_cases hfront : front = []
  · subst hfront
    exact ⟨_, by simp, .inl rfl⟩
  · refine ⟨_, ?_, .inr rfl⟩
    dsimp only
    rw [String.intercalate_append_of_ne_nil hfront hmore]
    simp only [String.append_assoc]

/-! ## Paths that a path lies in -/

theorem dropIdle_suffix (absolute : Bool) (segments : List String) :
    dropIdle absolute segments <:+ segments := by
  induction segments with
  | nil => exact List.suffix_refl _
  | cons segment before ih =>
    unfold dropIdle
    split
    · exact ih.trans (List.suffix_cons _ _)
    · exact List.suffix_refl _

/-- Only what leads no further is dropped. -/
theorem filter_dropIdle (absolute : Bool) (segments : List String) :
    (dropIdle absolute segments).filter leadsFurther = segments.filter leadsFurther := by
  induction segments with
  | nil => rfl
  | cons segment before ih =>
    unfold dropIdle
    split
    · rename_i hnone
      rw [ih, List.filter_cons_of_neg]
      rw [Option.isNone_iff_eq_none] at hnone
      simp [leadsFurther_of_partOf?_eq_none hnone]
    · rfl

theorem names_eq_filter_tail (path : Path) :
    path.names = (path.tail.filter leadsFurther).reverse := by
  unfold names tail
  rw [filter_dropIdle, List.filter_reverse, List.reverse_reverse]

theorem partOf?_of_dropIdle_eq_cons {absolute : Bool} {segments before : List String}
    {last : String} (h : dropIdle absolute segments = last :: before) :
    (partOf? (!absolute && before.isEmpty) last).isSome = true := by
  induction segments with
  | nil => cases h
  | cons segment others ih =>
    unfold dropIdle at h
    split at h
    · exact ih h
    · rename_i hsome
      cases h
      simpa [Option.isNone_iff_eq_none, Option.isSome_iff_ne_none] using hsome

/-- A last part that leads no further is all that there is. -/
theorem eq_nil_of_dropIdle_eq_cons {absolute : Bool} {segments before : List String}
    {last : String} (h : dropIdle absolute segments = last :: before)
    (hlast : leadsFurther last = false) : before = [] := by
  have hpart := partOf?_of_dropIdle_eq_cons h
  rcases leadsFurther_eq_false_iff.1 hlast with rfl | rfl
  · cases hpart
  · cases before with
    | nil => rfl
    | cons => simp [partOf?] at hpart

/-- The segments of a path up to some place are those of a path. -/
theorem front_of_tail {path : Path} {last : String} {before segments : List String}
    (htail : path.tail = last :: before) (hbegins : segments <+: path.segments) :
    (∀ segment ∈ segments, '/' ∉ segment.toList) ∧
      (path.isAbsolute = false → segments.head? ≠ some "") := by
  refine ⟨fun segment hmem => path.slash_not_mem_segments segment (hbegins.subset hmem), ?_⟩
  intro habsolute hempty
  obtain ⟨rest, hrest⟩ := hbegins
  have hhead : path.segments.head? = some "" := by
    rw [← hrest, List.head?_append, hempty, Option.some_or]
  unfold tail at htail
  rw [segments_of_head?_eq_empty habsolute hhead, habsolute] at htail
  cases htail

theorem prefix_of_tail {path : Path} {last : String} {before : List String}
    (htail : path.tail = last :: before) : before.reverse ++ [last] <+: path.segments := by
  rw [← List.reverse_cons, ← htail, ← List.reverse_suffix, List.reverse_reverse]
  exact dropIdle_suffix _ _

/-- The segments of the path that a path lies in come first in it. -/
theorem outer_prefix_of_tail {path : Path} {last : String} {before : List String}
    (htail : path.tail = last :: before) :
    (dropIdle path.isAbsolute before).reverse <+: path.segments := by
  have houter : (dropIdle path.isAbsolute before).reverse <+: before.reverse := by
    rw [List.reverse_prefix]
    exact dropIdle_suffix _ _
  exact houter.trans ((List.prefix_append _ _).trans (prefix_of_tail htail))

/-- The path without its last part has the names but the last one. -/
theorem parent?_eq_some {path parent : Path} (h : path.parent? = some parent) :
    parent.isAbsolute = path.isAbsolute ∧ parent.names = path.names.dropLast := by
  unfold parent? at h
  split at h
  · cases h
  · rename_i last before htail
    cases h
    obtain ⟨hplain, hfront⟩ := front_of_tail htail (outer_prefix_of_tail htail)
    refine ⟨isAbsolute_ofSegments hplain hfront, ?_⟩
    rw [names_ofSegments hplain hfront, List.filter_reverse, filter_dropIdle,
      names_eq_filter_tail, htail]
    cases hlast : leadsFurther last with
    | true => rw [List.filter_cons_of_pos hlast, List.reverse_cons, List.dropLast_concat]
    | false =>
      rw [eq_nil_of_dropIdle_eq_cons htail hlast, List.filter_cons_of_neg (by simp [hlast])]
      rfl

/-- A path and the paths that it lies in start at one place and have the same
names up to some place. -/
theorem of_mem_ancestors {path folder : Path} (h : folder ∈ path.ancestors) :
    folder.isAbsolute = path.isAbsolute ∧ folder.names <+: path.names := by
  unfold ancestors at h
  generalize path.text.length + 1 = bound at h
  induction bound generalizing path with
  | zero => cases h
  | succ bound ih =>
    unfold ancestorsWithin at h
    split at h
    · cases h
    · rcases List.mem_cons.1 h with rfl | houter
      · exact ⟨rfl, List.prefix_refl _⟩
      · cases hparent : path.parent? with
        | none =>
          rw [hparent] at houter
          cases houter
        | some parent =>
          rw [hparent] at houter
          obtain ⟨habsolute, hnames⟩ := parent?_eq_some hparent
          obtain ⟨hstart, hbegins⟩ := ih houter
          refine ⟨hstart.trans habsolute, hbegins.trans ?_⟩
          rw [hnames]
          exact List.dropLast_prefix _

/-- The path without its last part begins as the path does, and is shorter. -/
theorem text_of_parent? {path parent : Path} (h : path.parent? = some parent) :
    ∃ rest, path.text = parent.text ++ rest ∧ rest ≠ "" := by
  unfold parent? at h
  split at h
  · cases h
  · rename_i last before htail
    cases h
    obtain ⟨idle, hidle⟩ : (dropIdle path.isAbsolute before).reverse <+: before.reverse := by
      rw [List.reverse_prefix]
      exact dropIdle_suffix _ _
    obtain ⟨behind, hbehind⟩ := prefix_of_tail htail
    rw [← hidle, List.append_assoc, List.append_assoc] at hbehind
    have hsegments := path.ofSegments_segments
    rw [← hbehind] at hsegments
    obtain ⟨rest, htext, hrest⟩ := text_ofSegments_append path.isAbsolute
      (dropIdle path.isAbsolute before).reverse (idle ++ ([last] ++ behind)) (by simp)
    rw [hsegments] at htext
    refine ⟨rest, htext, ?_⟩
    rintro rfl
    rcases hrest with hrest | hrest
    · have hplain : ∀ segment ∈ idle ++ ([last] ++ behind), '/' ∉ segment.toList := by
        intro segment hmem
        exact path.slash_not_mem_segments segment (hbehind ▸ List.mem_append_right _ hmem)
      have hcut : Text.cutAt '/' ("/".intercalate (idle ++ ([last] ++ behind))).toList =
          idle ++ ([last] ++ behind) := Text.cutAt_intercalate rfl hplain (by simp)
      rw [← hrest] at hcut
      -- a text that is empty has one segment, which is no part
      have hlast : last ∈ Text.cutAt '/' "".toList := by
        rw [hcut]
        simp
      have hempty : last = "" := by simpa [Text.cutAt, Text.pieces] using hlast
      have hpart := partOf?_of_dropIdle_eq_cons htail
      rw [hempty] at hpart
      cases hpart
    · exact absurd (congrArg String.toList hrest) (by simp)

/-! ## Ends -/

/-- A path that ends in a segment that leads further, or that has no such
segment at all. -/
def IsTidy (path : Path) : Prop :=
  path.names = [] ∨ ∃ front last, path.segments = front ++ [last] ∧ leadsFurther last = true

/-- A path that another one lies in is tidy, however that one is written. -/
theorem isTidy_of_parent? {path parent : Path} (h : path.parent? = some parent) :
    parent.IsTidy := by
  unfold parent? at h
  split at h
  · cases h
  · rename_i last before htail
    cases h
    obtain ⟨hplain, hfront⟩ := front_of_tail htail (outer_prefix_of_tail htail)
    cases hends : dropIdle path.isAbsolute before with
    | nil =>
      left
      rw [hends] at hplain hfront
      rw [names_ofSegments hplain hfront]
      rfl
    | cons final outer =>
      rw [hends] at hplain hfront
      cases hfinal : leadsFurther final with
      | true =>
        right
        refine ⟨outer.reverse, final, ?_, hfinal⟩
        rw [segments_ofSegments hplain hfront (by simp), List.reverse_cons]
      | false =>
        left
        have houter := eq_nil_of_dropIdle_eq_cons hends hfinal
        rw [names_ofSegments hplain hfront, houter]
        simp [hfinal]

/-- A path lies in another one, under a name. -/
structure LiesIn (path parent : Path) (last : String) : Prop where
  isAbsolute : path.isAbsolute = parent.isAbsolute
  names : path.names = parent.names ++ [last]

/-- A path leads up no less than the path that it lies in. -/
theorem LiesIn.level {path parent : Path} {last : String} (h : path.LiesIn parent last)
    (hup : ".." ∉ path.names) : ".." ∉ parent.names :=
  fun hmem => hup (h.names ▸ List.mem_append_left _ hmem)

theorem exists_liesIn_of_parent? {path parent : Path} (hnamed : path.names ≠ [])
    (h : path.parent? = some parent) : ∃ last, path.LiesIn parent last := by
  obtain ⟨habsolute, hnames⟩ := parent?_eq_some h
  refine ⟨path.names.getLast hnamed, habsolute.symm, ?_⟩
  rw [hnames, List.dropLast_concat_getLast]

/-- A path with names lies in the one without its last part. -/
theorem exists_liesIn_of_names_ne_nil {path : Path} (h : path.names ≠ []) :
    ∃ parent last, path.parent? = some parent ∧ path.LiesIn parent last := by
  cases hparent : path.parent? with
  | none =>
    unfold parent? at hparent
    split at hparent
    · rename_i htail
      rw [names_eq_filter_tail, htail] at h
      exact absurd rfl h
    · cases hparent
  | some parent =>
    obtain ⟨last, hlies⟩ := exists_liesIn_of_parent? h hparent
    exact ⟨parent, last, rfl, hlies⟩

end Path

/-! ## Places -/

namespace Disk

/-- Where a path starts: at the root, or in the working folder. -/
def origin (disk : Disk) (path : Path) : Location := if path.isAbsolute then [] else disk.here

/-- The place that the names of a path tell. A path that never leads up leads
there, if it leads anywhere. -/
def placeOf (disk : Disk) (path : Path) : Location := disk.origin path ++ path.names

theorem origin_of_isAbsolute (disk : Disk) {path other : Path}
    (h : path.isAbsolute = other.isAbsolute) : disk.origin path = disk.origin other := by
  unfold origin
  rw [h]

theorem origin_of_here {disk left : Disk} (h : left.here = disk.here) (path : Path) :
    left.origin path = disk.origin path := by
  unfold origin
  rw [h]

theorem placeOf_of_here {disk left : Disk} (h : left.here = disk.here) (path : Path) :
    left.placeOf path = disk.placeOf path := by
  unfold placeOf
  rw [origin_of_here h]

/-- One segment further from a folder. -/
theorem step_of_folder {disk : Disk} {location : Location} {segment : String}
    (h : disk.get? location = some .folder) :
    disk.step location segment =
      if Path.leadsFurther segment = false then .ok location
      else if segment = ".." then .ok location.dropLast
      else if maxNameBytes < segment.utf8ByteSize then .error .nameTooLong
      else .ok (location ++ [segment]) := by
  unfold step
  rw [h]
  by_cases hidle : Path.leadsFurther segment = false
  · rw [if_pos hidle]
    rcases Path.leadsFurther_eq_false_iff.1 hidle with rfl | rfl <;> rfl
  · rw [if_neg hidle]
    rw [Path.leadsFurther_eq_false_iff, not_or] at hidle
    simp [hidle.1, hidle.2]

theorem eq_of_foldlM_step {disk : Disk} {segments : List String} {start location : Location}
    (hup : ".." ∉ segments.filter Path.leadsFurther)
    (h : segments.foldlM disk.step start = .ok location) :
    location = start ++ segments.filter Path.leadsFurther := by
  induction segments generalizing start with
  | nil =>
    cases h
    simp
  | cons segment rest ih =>
    rw [List.foldlM_cons, bind_eq_ok] at h
    obtain ⟨next, hnext, hrest⟩ := h
    have hfolder := step_eq_ok hnext
    rw [step_of_folder hfolder] at hnext
    cases hidle : Path.leadsFurther segment with
    | false =>
      rw [if_pos hidle, Except.ok.injEq] at hnext
      subst hnext
      rw [List.filter_cons_of_neg (by simp [hidle])] at hup ⊢
      exact ih hup hrest
    | true =>
      rw [List.filter_cons_of_pos hidle] at hup ⊢
      rw [List.mem_cons, not_or] at hup
      rw [if_neg (by simp [hidle]), if_neg (Ne.symm hup.1)] at hnext
      split at hnext
      · cases hnext
      · cases hnext
        rw [ih hup.2 hrest, List.append_assoc, List.singleton_append]

/-- A path that never leads up leads to its place. -/
theorem eq_placeOf_of_reach {disk : Disk} {path : Path} {location : Location}
    (hup : ".." ∉ path.names) (h : disk.reach path path.segments = .ok location) :
    location = disk.placeOf path := by
  unfold reach at h
  split_ifs at h with hempty hnul hlong habsolute
  · rw [eq_of_foldlM_step hup h, placeOf, origin, if_pos habsolute]
    rfl
  · rw [eq_of_foldlM_step hup h, placeOf, origin, if_neg habsolute]
    rfl

/-- A path with fewer names leads to a place that the place of a path lies in. -/
theorem prefix_placeOf {disk : Disk} {path folder : Path} {location : Location}
    {entry : Entry} (hup : ".." ∉ path.names) (habsolute : folder.isAbsolute = path.isAbsolute)
    (hnames : folder.names <+: path.names) (h : disk.find folder = .ok (location, entry)) :
    location <+: disk.placeOf path := by
  have hplace := eq_placeOf_of_reach (fun hmem => hup (hnames.subset hmem)) (find_eq_ok.1 h).1
  rw [hplace, placeOf, placeOf, disk.origin_of_isAbsolute habsolute]
  exact (List.prefix_append_right_inj _).2 hnames

end Disk

end OperationModels.Files
