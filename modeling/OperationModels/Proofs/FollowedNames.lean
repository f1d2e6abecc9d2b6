-- Where the names of a path lead. A path whose text is right and that ends in a
-- name leads where its names do, so what a folder is made of can be said of the
-- names alone.
import OperationModels.Proofs.PathPlaces

namespace OperationModels.Files

/-! ## Texts -/

namespace Path

/-- Why a path leads nowhere on any disk: what is wrong with its text. -/
def textFault? (path : Path) : Option Fault :=
  if path.text = "" then some .notFound
  else if path.text.toList.contains '\x00' then some .nulInName
  else if Disk.maxPathBytes < path.text.utf8ByteSize then some .nameTooLong
  else none

theorem textFault?_eq_none_iff {path : Path} :
    path.textFault? = none ↔ path.text ≠ "" ∧ '\x00' ∉ path.text.toList ∧
      path.text.utf8ByteSize ≤ Disk.maxPathBytes := by
  unfold textFault?
  split_ifs <;> simp_all

/-- With the text of a path, that of a path it lies in is right, unless it is
empty. -/
theorem textFault?_of_parent? {path parent : Path} (hparent : path.parent? = some parent)
    (hsome : parent.text ≠ "") (h : path.textFault? = none) : parent.textFault? = none := by
  obtain ⟨rest, hrest, -⟩ := text_of_parent? hparent
  rw [textFault?_eq_none_iff] at h ⊢
  rw [hrest, String.toList_append, String.utf8ByteSize_append, List.mem_append, not_or] at h
  exact ⟨hsome, h.2.1.1, by omega⟩

end Path

namespace Disk

theorem reach_eq (disk : Disk) (path : Path) (segments : List String) :
    disk.reach path segments =
      match path.textFault? with
      | some fault => .error fault
      | none => segments.foldlM disk.step (disk.origin path) := by
  unfold reach Path.textFault? origin
  split_ifs <;> rfl

/-! ## Following names -/

/-- Where the names of a path lead. -/
def follow (disk : Disk) (path : Path) : Except Fault Location :=
  path.names.foldlM disk.step (disk.origin path)

theorem step_of_idle {disk : Disk} {location : Location} {segment : String}
    (hidle : Path.leadsFurther segment = false) (h : disk.get? location = some .folder) :
    disk.step location segment = .ok location := by
  rw [step_of_folder h, if_pos hidle]

/-- Away from a folder, all steps fail alike. -/
theorem exists_fault_of_step {disk : Disk} {location : Location}
    (h : disk.get? location ≠ some .folder) :
    ∃ fault, ∀ segment, disk.step location segment = .error fault := by
  unfold step
  cases hentry : disk.get? location with
  | none => exact ⟨.notFound, fun _ => rfl⟩
  | some entry =>
    cases entry with
    | file bytes => exact ⟨.notFolder, fun _ => rfl⟩
    | folder => contradiction

/-- From a folder, no step leads nowhere. -/
theorem step_ne_notFound {disk : Disk} {location : Location}
    (h : disk.get? location = some .folder) (segment : String) :
    disk.step location segment ≠ .error .notFound := by
  rw [step_of_folder h]
  split_ifs <;> simp

theorem foldlM_step_concat (disk : Disk) (front : List String) (last : String)
    (start : Location) :
    (front ++ [last]).foldlM disk.step start =
      front.foldlM disk.step start >>= fun location => disk.step location last := by
  rw [List.foldlM_append]
  refine congrArg _ (funext fun location => ?_)
  rw [List.foldlM_cons]
  cases disk.step location last <;> rfl

/-- Segments lead to a folder exactly if those do that lead further. -/
theorem foldlM_step_folder_iff {disk : Disk} {segments : List String}
    {start location : Location} :
    (segments.foldlM disk.step start = .ok location ∧ disk.get? location = some .folder) ↔
      ((segments.filter Path.leadsFurther).foldlM disk.step start = .ok location ∧
        disk.get? location = some .folder) := by
  induction segments generalizing start with
  | nil => exact Iff.rfl
  | cons segment rest ih =>
    cases hfurther : Path.leadsFurther segment with
    | true =>
      rw [List.filter_cons_of_pos hfurther, List.foldlM_cons, List.foldlM_cons]
      cases disk.step start segment with
      | error fault => exact Iff.rfl
      | ok next => exact ih
    | false =>
      rw [List.filter_cons_of_neg (by simp [hfurther]), List.foldlM_cons]
      by_cases hfolder : disk.get? start = some .folder
      · rw [step_of_idle hfurther hfolder]
        exact ih
      · -- away from a folder nothing leads to one, with the idle segment or without
        refine iff_of_false ?_ ?_
        · rintro ⟨hlead, -⟩
          obtain ⟨next, hnext, -⟩ := bind_eq_ok.1 hlead
          exact hfolder (step_eq_ok hnext)
        · rintro ⟨hlead, hlast⟩
          cases hrest : rest.filter Path.leadsFurther with
          | nil =>
            rw [hrest] at hlead
            cases hlead
            exact hfolder hlast
          | cons first others =>
            rw [hrest, List.foldlM_cons, bind_eq_ok] at hlead
            obtain ⟨next, hnext, -⟩ := hlead
            exact hfolder (step_eq_ok hnext)

/-- Segments that end in one that leads further lead where those do that lead
further. -/
theorem foldlM_step_of_last (disk : Disk) (front : List String) {last : String}
    (hlast : Path.leadsFurther last = true) (start : Location) :
    (front ++ [last]).foldlM disk.step start =
      ((front ++ [last]).filter Path.leadsFurther).foldlM disk.step start := by
  induction front generalizing start with
  | nil => rw [List.nil_append, List.filter_singleton, hlast, cond_true]
  | cons segment rest ih =>
    rw [List.cons_append, List.foldlM_cons]
    cases hfurther : Path.leadsFurther segment with
    | true =>
      rw [List.filter_cons_of_pos hfurther, List.foldlM_cons]
      exact congrArg _ (funext ih)
    | false =>
      rw [List.filter_cons_of_neg (by simp [hfurther])]
      by_cases hfolder : disk.get? start = some .folder
      · rw [step_of_idle hfurther hfolder]
        exact ih start
      · obtain ⟨fault, hfault⟩ := exists_fault_of_step hfolder
        rw [← ih start, hfault segment]
        cases rest with
        | nil =>
          rw [List.nil_append, List.foldlM_cons, hfault last]
          rfl
        | cons first others =>
          rw [List.cons_append, List.foldlM_cons, hfault first]
          rfl

/-- Segments of which none leads further stay in a folder. -/
theorem foldlM_step_of_idle {disk : Disk} {segments : List String} {start : Location}
    (hidle : segments.filter Path.leadsFurther = []) (h : disk.get? start = some .folder) :
    segments.foldlM disk.step start = .ok start := by
  refine (foldlM_step_folder_iff.2 ⟨?_, h⟩).1
  rw [hidle]
  rfl

/-- A path leads to a folder exactly if its text is right and its names do. -/
theorem find_folder_iff {disk : Disk} {path : Path} {location : Location} :
    disk.find path = .ok (location, .folder) ↔ path.textFault? = none ∧
      disk.follow path = .ok location ∧ disk.get? location = some .folder := by
  rw [find_eq_ok, reach_eq]
  unfold follow Path.names
  rw [← foldlM_step_folder_iff]
  cases path.textFault? with
  | none => simp
  | some fault => simp

theorem follow_of_liesIn {disk : Disk} {path parent : Path} {last : String}
    (h : path.LiesIn parent last) :
    disk.follow path = disk.follow parent >>= fun location => disk.step location last := by
  unfold follow origin
  rw [h.names, foldlM_step_concat, h.isAbsolute]

theorem isFolder_of_follow {disk : Disk} {path : Path} {location : Location}
    (htext : path.textFault? = none) (hlead : disk.follow path = .ok location)
    (hfolder : disk.get? location = some .folder) : disk.isFolder path = true :=
  isFolder_iff.2 ⟨location, find_folder_iff.2 ⟨htext, hlead, hfolder⟩⟩

/-- A path that never leads up and that leads where its names do: its text is
right, it ends in a name, and it starts in a folder. -/
structure Usable (disk : Disk) (path : Path) : Prop where
  text : path.textFault? = none
  tidy : path.IsTidy
  level : ".." ∉ path.names
  origin : disk.get? (disk.origin path) = some .folder

theorem Usable.keeps {disk left : Disk} {path : Path} {written : List Location}
    (h : disk.Usable path) (hkeeps : disk.Keeps left written) : left.Usable path := by
  refine ⟨h.text, h.tidy, h.level, ?_⟩
  rw [origin_of_here hkeeps.here]
  exact hkeeps.folder _ h.origin

theorem Usable.parent? {disk : Disk} {path parent : Path} (h : disk.Usable path)
    (hparent : path.parent? = some parent) (hsome : parent.text ≠ "") : disk.Usable parent := by
  obtain ⟨habsolute, hnames⟩ := Path.parent?_eq_some hparent
  refine ⟨Path.textFault?_of_parent? hparent hsome h.text, Path.isTidy_of_parent? hparent, ?_, ?_⟩
  · exact fun hmem => h.level (List.dropLast_subset _ (hnames ▸ hmem))
  · rw [disk.origin_of_isAbsolute habsolute]
    exact h.origin

theorem Usable.reach {disk : Disk} {path : Path} (h : disk.Usable path) :
    disk.reach path path.segments = disk.follow path := by
  rw [reach_eq, h.text]
  unfold follow
  rcases h.tidy with hnames | ⟨front, last, hsegments, hlast⟩
  · rw [hnames]
    exact foldlM_step_of_idle hnames h.origin
  · unfold Path.names
    rw [hsegments]
    exact disk.foldlM_step_of_last front hlast _

/-- A folder is made where the names lead, if nothing is there. -/
theorem Usable.createFolder {disk : Disk} {path : Path} (h : disk.Usable path) :
    disk.createFolder path = disk.follow path >>= fun location =>
      if (disk.get? location).isSome then .error .exists
      else .ok (disk.put location .folder) := by
  have hreach := h.reach
  unfold Disk.createFolder
  dsimp only
  rcases h.tidy with hnames | ⟨front, last, hsegments, hlast⟩
  · have hidle : ((path.segments.reverse.dropWhile (· = "")).reverse).filter Path.leadsFurther =
        [] := by
      unfold Path.names at hnames
      rw [List.filter_eq_nil_iff] at hnames ⊢
      intro segment hmem
      rw [List.mem_reverse] at hmem
      exact hnames segment (List.mem_reverse.1 ((List.dropWhile_suffix _).subset hmem))
    have hfollow : disk.follow path = .ok (disk.origin path) := by
      unfold follow
      rw [hnames]
      rfl
    rw [reach_eq, h.text, hfollow]
    dsimp only
    rw [foldlM_step_of_idle hidle h.origin]
    simp only [bind, Except.bind, h.origin]
    rfl
  · have hempty : last ≠ "" := by
      rintro rfl
      cases hlast
    have hdot : last ≠ "." := by
      rintro rfl
      cases hlast
    have hdots : last ≠ ".." := by
      rintro rfl
      exact h.level (List.mem_filter.2 ⟨hsegments ▸ by simp, rfl⟩)
    have hsame : (path.segments.reverse.dropWhile (· = "")).reverse = path.segments := by
      rw [hsegments, List.reverse_append, List.reverse_singleton, List.singleton_append,
        List.dropWhile_cons_of_neg (by simpa using hempty), List.reverse_cons, List.reverse_reverse]
    rw [hsame, hreach, hsegments, List.getLast?_concat]
    refine congrArg _ (funext fun location => ?_)
    cases disk.get? location with
    | some entry => rfl
    | none => simp [hdot, hdots]

/-- A path that never leads up and whose names lead somewhere leads to its
place. -/
theorem eq_placeOf_of_follow {disk : Disk} {path : Path} {location : Location}
    (hup : ".." ∉ path.names) (h : disk.follow path = .ok location) :
    location = disk.placeOf path := by
  have hall : path.names.filter Path.leadsFurther = path.names :=
    List.filter_eq_self.2 Path.leadsFurther_of_mem_names
  have hplace := eq_of_foldlM_step (by rw [hall]; exact hup) h
  rw [hplace, hall, placeOf]

/-- In a folder that stays, a tidy path leads where it did. -/
theorem Keeps.reach_of_liesIn {disk left : Disk} {written : List Location} {path parent : Path}
    {last : String} {location : Location} (hkeeps : disk.Keeps left written)
    (htidy : path.IsTidy) (hlies : path.LiesIn parent last)
    (hlead : disk.follow parent = .ok location)
    (hfolder : disk.get? location = some .folder) :
    left.reach path path.segments = disk.reach path path.segments := by
  rcases htidy with hnames | ⟨front, final, hsegments, hfinal⟩
  · rw [hlies.names] at hnames
    simp at hnames
  have hfollow : left.follow path = disk.follow path := by
    rw [follow_of_liesIn hlies, follow_of_liesIn hlies, hlead]
    have hstays : left.follow parent = .ok location := by
      unfold follow Disk.origin at *
      rw [hkeeps.here]
      exact hkeeps.foldlM_step _ hlead
    rw [hstays]
    simp only [bind, Except.bind, step_of_folder hfolder,
      step_of_folder (hkeeps.folder _ hfolder)]
  rw [reach_eq, reach_eq]
  unfold follow Path.names at hfollow
  rw [hsegments] at hfollow ⊢
  rw [foldlM_step_of_last _ _ hfinal, foldlM_step_of_last _ _ hfinal, hfollow]

end Disk

end OperationModels.Files
