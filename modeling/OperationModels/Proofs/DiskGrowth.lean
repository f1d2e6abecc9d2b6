-- What making folders and writing files changes, and what it leaves as it was.
-- A folder stays a folder, so a path that leads somewhere leads there ever
-- after; a file changes only where a file is written, and folders come only
-- where they are asked for.
import OperationModels.Files.Disk
import OperationModels.Proofs.Results
import Mathlib.Data.List.TakeWhile
import Mathlib.Tactic.SplitIfs

namespace OperationModels.Files

namespace Disk

/-! ## Looking up -/

theorem get?_root (disk : Disk) : disk.get? [] = some .folder := rfl

theorem get?_of_ne_root (disk : Disk) {location : Location} (h : location ≠ []) :
    disk.get? location = disk.entries.get? location := if_neg h

/-- Below the root, an entry is found where it is put, and all else is as
before. -/
theorem get?_put (disk : Disk) (entry : Entry) {location : Location} (other : Location)
    (h : location ≠ []) :
    (disk.put location entry).get? other =
      if other = location then some entry else disk.get? other := by
  unfold get? put
  by_cases hroot : other = []
  · have hother : other ≠ location := fun hsame => h (hsame ▸ hroot)
    rw [if_pos hroot, if_neg hother, if_pos hroot]
  · rw [if_neg hroot, OrderedMap.get?_insert, if_neg hroot]

/-! ## What stays -/

/-- From a disk to a later one, folders stay, and so does what is at none of
the written locations. -/
structure Keeps (disk left : Disk) (written : List Location) : Prop where
  here : left.here = disk.here
  folder : ∀ location, disk.get? location = some .folder → left.get? location = some .folder
  entry : ∀ location entry, location ∉ written → disk.get? location = some entry →
    left.get? location = some entry

theorem Keeps.refl (disk : Disk) : disk.Keeps disk [] :=
  ⟨rfl, fun _ h => h, fun _ _ _ h => h⟩

theorem Keeps.trans {disk middle left : Disk} {first second : List Location}
    (hfirst : disk.Keeps middle first) (hsecond : middle.Keeps left second) :
    disk.Keeps left (first ++ second) := by
  refine ⟨hsecond.here.trans hfirst.here, ?_, ?_⟩
  · intro location h
    exact hsecond.folder _ (hfirst.folder _ h)
  · intro location entry hwritten h
    rw [List.mem_append, not_or] at hwritten
    exact hsecond.entry _ _ hwritten.2 (hfirst.entry _ _ hwritten.1 h)

/-! ## Where paths lead -/

theorem step_eq_ok {disk : Disk} {location next : Location} {segment : String}
    (h : disk.step location segment = .ok next) : disk.get? location = some .folder := by
  unfold step at h
  cases hentry : disk.get? location with
  | none =>
    rw [hentry] at h
    cases h
  | some entry =>
    cases entry with
    | file bytes =>
      rw [hentry] at h
      cases h
    | folder => rfl

theorem Keeps.step {disk left : Disk} {written : List Location} (hkeeps : disk.Keeps left written)
    {location next : Location} {segment : String} (h : disk.step location segment = .ok next) :
    left.step location segment = .ok next := by
  have hfolder := step_eq_ok h
  unfold Disk.step at *
  rw [hfolder] at h
  rw [hkeeps.folder location hfolder]
  exact h

theorem Keeps.foldlM_step {disk left : Disk} {written : List Location}
    (hkeeps : disk.Keeps left written) (segments : List String) {start location : Location}
    (h : segments.foldlM disk.step start = .ok location) :
    segments.foldlM left.step start = .ok location := by
  induction segments generalizing start with
  | nil => exact h
  | cons segment rest ih =>
    rw [List.foldlM_cons, bind_eq_ok] at h
    obtain ⟨next, hnext, hrest⟩ := h
    rw [List.foldlM_cons, bind_eq_ok]
    exact ⟨next, hkeeps.step hnext, ih hrest⟩

/-- A path that leads to a location leads there ever after. -/
theorem Keeps.reach {disk left : Disk} {written : List Location}
    (hkeeps : disk.Keeps left written) {path : Path} {segments : List String}
    {location : Location} (h : disk.reach path segments = .ok location) :
    left.reach path segments = .ok location := by
  unfold Disk.reach at *
  rw [hkeeps.here]
  split_ifs at h ⊢ with hempty hnul hlong habsolute
  · exact hkeeps.foldlM_step segments h
  · exact hkeeps.foldlM_step segments h

/-! ## Finding -/

theorem find_eq_ok {disk : Disk} {path : Path} {location : Location} {entry : Entry} :
    disk.find path = .ok (location, entry) ↔
      disk.reach path path.segments = .ok location ∧ disk.get? location = some entry := by
  unfold Disk.find
  rw [bind_eq_ok]
  constructor
  · rintro ⟨known, hreach, hfound⟩
    split at hfound
    · rename_i other hentry
      cases hfound
      exact ⟨hreach, hentry⟩
    · cases hfound
  · rintro ⟨hreach, hentry⟩
    exact ⟨location, hreach, by rw [hentry]⟩

theorem canonical?_eq_some {disk : Disk} {path : Path} {location : Location} :
    disk.canonical? path = some location ↔ ∃ entry, disk.find path = .ok (location, entry) := by
  unfold Disk.canonical?
  cases disk.find path with
  | error fault => simp
  | ok found => simp [Prod.ext_iff]

theorem isFolder_iff {disk : Disk} {path : Path} :
    disk.isFolder path = true ↔ ∃ location, disk.find path = .ok (location, .folder) := by
  unfold Disk.isFolder
  split
  · rename_i location hfind
    exact iff_of_true rfl ⟨location, hfind⟩
  · rename_i hother
    exact iff_of_false (by simp) (fun ⟨location, hfind⟩ => hother location hfind)

/-- A path that leads to a folder leads to it ever after. -/
theorem Keeps.find_folder {disk left : Disk} {written : List Location}
    (hkeeps : disk.Keeps left written) {path : Path} {location : Location}
    (h : disk.find path = .ok (location, .folder)) :
    left.find path = .ok (location, .folder) := by
  rw [find_eq_ok] at h ⊢
  exact ⟨hkeeps.reach h.1, hkeeps.folder _ h.2⟩

theorem Keeps.isFolder {disk left : Disk} {written : List Location}
    (hkeeps : disk.Keeps left written) {path : Path} (h : disk.isFolder path = true) :
    left.isFolder path = true := by
  rw [isFolder_iff] at h ⊢
  obtain ⟨location, hfind⟩ := h
  exact ⟨location, hkeeps.find_folder hfind⟩

/-! ## What changes -/

/-- From a disk to a later one, nothing changes but this: files are written at
the given locations, where no folders are, and the given folders are made in
empty places. -/
structure Changes (disk left : Disk) (written : List Location) (folders : List Path) : Prop where
  here : left.here = disk.here
  place : ∀ location, left.get? location = disk.get? location ∨
    (location ∈ written ∧ disk.get? location ≠ some .folder ∧
      ∃ bytes, left.get? location = some (.file bytes)) ∨
    (disk.get? location = none ∧
      ∃ folder ∈ folders, left.find folder = .ok (location, .folder))

theorem Changes.refl (disk : Disk) : disk.Changes disk [] [] := ⟨rfl, fun _ => .inl rfl⟩

theorem Changes.mono {disk left : Disk} {written more : List Location} {folders others : List Path}
    (h : disk.Changes left written folders) (hwritten : written ⊆ more)
    (hfolders : folders ⊆ others) : disk.Changes left more others := by
  refine ⟨h.here, fun location => ?_⟩
  rcases h.place location with hsame | ⟨hmem, hfile⟩ | ⟨hnone, folder, hmem, hfind⟩
  · exact .inl hsame
  · exact .inr (.inl ⟨hwritten hmem, hfile⟩)
  · exact .inr (.inr ⟨hnone, folder, hfolders hmem, hfind⟩)

theorem Changes.keeps {disk left : Disk} {written : List Location} {folders : List Path}
    (h : disk.Changes left written folders) : disk.Keeps left written := by
  refine ⟨h.here, ?_, ?_⟩
  · intro location hfolder
    rcases h.place location with hsame | ⟨-, hnot, -⟩ | ⟨hnone, -⟩
    · rw [hsame]
      exact hfolder
    · exact absurd hfolder hnot
    · rw [hnone] at hfolder
      cases hfolder
  · intro location entry hwritten hentry
    rcases h.place location with hsame | ⟨hmem, -⟩ | ⟨hnone, -⟩
    · rw [hsame]
      exact hentry
    · exact absurd hmem hwritten
    · rw [hnone] at hentry
      cases hentry

theorem Changes.get?_of_not_mem {disk left : Disk} {written : List Location}
    (h : disk.Changes left written []) {location : Location} (hnot : location ∉ written) :
    left.get? location = disk.get? location := by
  rcases h.place location with hsame | ⟨hmem, -⟩ | ⟨-, folder, hmem, -⟩
  · exact hsame
  · exact absurd hmem hnot
  · cases hmem

theorem Changes.trans {disk middle left : Disk} {first second : List Location}
    {folders others : List Path} (hfirst : disk.Changes middle first folders)
    (hsecond : middle.Changes left second others) :
    disk.Changes left (first ++ second) (folders ++ others) := by
  refine ⟨hsecond.here.trans hfirst.here, fun location => ?_⟩
  rcases hsecond.place location with hsame | ⟨hmem, hnot, hfile⟩ | ⟨hnone, folder, hmem, hfind⟩
  · rcases hfirst.place location with hold | ⟨hmem, hnot, hfile⟩ | ⟨hnone, folder, hmem, hfind⟩
    · exact .inl (hsame.trans hold)
    · rw [← hsame] at hfile
      exact .inr (.inl ⟨List.mem_append_left _ hmem, hnot, hfile⟩)
    · refine .inr (.inr ⟨hnone, folder, List.mem_append_left _ hmem, ?_⟩)
      exact hsecond.keeps.find_folder hfind
  · refine .inr (.inl ⟨List.mem_append_right _ hmem, ?_, hfile⟩)
    exact fun hfolder => hnot (hfirst.keeps.folder _ hfolder)
  · refine .inr (.inr ⟨?_, folder, List.mem_append_right _ hmem, hfind⟩)
    -- what was there before was there in between, where nothing is
    rcases hfirst.place location with hold | ⟨-, -, bytes, hfile⟩ | ⟨hempty, -⟩
    · rw [← hold]
      exact hnone
    · rw [hnone] at hfile
      cases hfile
    · exact hempty

theorem changes_put_file {disk : Disk} {location : Location} (bytes : ByteArray)
    (h : disk.get? location ≠ some .folder) :
    disk.Changes (disk.put location (.file bytes)) [location] [] := by
  have hroot : location ≠ [] := by
    rintro rfl
    exact h disk.get?_root
  refine ⟨rfl, fun other => ?_⟩
  rw [disk.get?_put _ other hroot]
  by_cases hsame : other = location
  · subst hsame
    exact .inr (.inl ⟨List.mem_singleton_self _, h, bytes, by rw [if_pos rfl]⟩)
  · exact .inl (by rw [if_neg hsame])

/-! ## Reading -/

/-- The bytes of a text read back as the text. -/
theorem fromUTF8?_toUTF8 (text : String) : String.fromUTF8? text.toUTF8 = some text := by
  unfold String.fromUTF8?
  rw [String.toUTF8_eq_toByteArray, dif_pos text.isValidUTF8]
  rfl

/-- A path leads to a file that holds the text. -/
structure Holds (disk : Disk) (path : Path) (location : Location) (text : String) : Prop where
  reached : disk.reach path path.segments = .ok location
  stands : disk.get? location = some (.file text.toUTF8)

theorem Holds.find {disk : Disk} {path : Path} {location : Location} {text : String}
    (h : disk.Holds path location text) : disk.find path = .ok (location, .file text.toUTF8) :=
  find_eq_ok.2 ⟨h.reached, h.stands⟩

theorem Holds.canonical? {disk : Disk} {path : Path} {location : Location} {text : String}
    (h : disk.Holds path location text) : disk.canonical? path = some location :=
  canonical?_eq_some.2 ⟨_, h.find⟩

theorem Holds.readText {disk : Disk} {path : Path} {location : Location} {text : String}
    (h : disk.Holds path location text) : disk.readText path = .ok text := by
  unfold Disk.readText
  rw [bind_eq_ok]
  refine ⟨_, h.find, ?_⟩
  dsimp only
  rw [fromUTF8?_toUTF8]

/-! ## Writing -/

theorem writeText_eq_ok {disk left : Disk} {path : Path} {text : String}
    (h : disk.writeText path text = .ok left) :
    ∃ location, disk.Changes left [location] [] ∧ left.Holds path location text := by
  unfold writeText writeBytes at h
  rw [bind_eq_ok] at h
  obtain ⟨location, hreach, hput⟩ := h
  have hfile : disk.get? location ≠ some .folder := by
    intro hfolder
    rw [hfolder] at hput
    cases hput
  split at hput
  · cases hput
  · cases hput
    have hroot : location ≠ [] := by
      rintro rfl
      exact hfile disk.get?_root
    have hchanges := changes_put_file text.toUTF8 hfile
    refine ⟨location, hchanges, hchanges.keeps.reach hreach, ?_⟩
    rw [disk.get?_put _ _ hroot, if_pos rfl]

/-- Empty segments at the end of a path lead no further from a folder. -/
theorem foldlM_step_append_empty {disk : Disk} {location : Location} (segments idle : List String)
    (hidle : ∀ segment ∈ idle, segment = "") {start : Location}
    (h : segments.foldlM disk.step start = .ok location)
    (hfolder : disk.get? location = some .folder) :
    (segments ++ idle).foldlM disk.step start = .ok location := by
  rw [List.foldlM_append, bind_eq_ok]
  refine ⟨location, h, ?_⟩
  clear h
  induction idle with
  | nil => rfl
  | cons segment rest ih =>
    rw [List.forall_mem_cons] at hidle
    rw [List.foldlM_cons, bind_eq_ok]
    refine ⟨location, ?_, ih hidle.2⟩
    rw [hidle.1, step, hfolder]
    rfl

/-- A path without its empty segments at the end leads to a folder where the
path does. -/
theorem reach_of_dropWhile {disk : Disk} {path : Path} {location : Location}
    (h : disk.reach path (path.segments.reverse.dropWhile (· = "")).reverse = .ok location)
    (hfolder : disk.get? location = some .folder) :
    disk.reach path path.segments = .ok location := by
  have hsegments : path.segments = (path.segments.reverse.dropWhile (· = "")).reverse ++
      (path.segments.reverse.takeWhile (· = "")).reverse := by
    rw [← List.reverse_append, List.takeWhile_append_dropWhile, List.reverse_reverse]
  unfold reach at *
  rw [hsegments]
  have hidle : ∀ segment ∈ (path.segments.reverse.takeWhile (· = "")).reverse, segment = "" := by
    intro segment hmem
    simpa using List.mem_takeWhile_imp (List.mem_reverse.1 hmem)
  split_ifs at h ⊢
  · exact foldlM_step_append_empty _ _ hidle h hfolder
  · exact foldlM_step_append_empty _ _ hidle h hfolder

/-- A folder in an empty place changes nothing that is there. -/
theorem keeps_put_folder {disk : Disk} {location : Location} (h : disk.get? location = none) :
    disk.Keeps (disk.put location .folder) [] := by
  have hroot : location ≠ [] := by
    rintro rfl
    cases h
  have hother : ∀ other entry, disk.get? other = some entry →
      (disk.put location .folder).get? other = some entry := by
    intro other entry hentry
    rw [disk.get?_put _ _ hroot, if_neg, hentry]
    rintro rfl
    rw [h] at hentry
    cases hentry
  exact ⟨rfl, fun other => hother other .folder, fun other entry _ => hother other entry⟩

/-- A folder that was made came into an empty place, and its path leads there. -/
theorem createFolder_eq_ok {disk made : Disk} {path : Path}
    (h : disk.createFolder path = .ok made) :
    ∃ location, disk.get? location = none ∧ made = disk.put location .folder ∧
      made.find path = .ok (location, .folder) := by
  unfold createFolder at h
  rw [bind_eq_ok] at h
  obtain ⟨location, hreach, hmade⟩ := h
  split at hmade
  · cases hmade
  · rename_i last hentry hlast
    split at hmade
    · cases hmade
    · cases hmade
      have hroot : location ≠ [] := by
        rintro rfl
        cases hentry
      have hfolder : (disk.put location .folder).get? location = some .folder := by
        rw [disk.get?_put _ _ hroot, if_pos rfl]
      have hlead := reach_of_dropWhile ((keeps_put_folder hentry).reach hreach) hfolder
      exact ⟨location, hentry, rfl, find_eq_ok.2 ⟨hlead, hfolder⟩⟩
  · cases hmade

theorem changes_createFolder {disk made : Disk} {path : Path}
    (h : disk.createFolder path = .ok made) : disk.Changes made [] [path] := by
  obtain ⟨location, hnone, rfl, hfind⟩ := createFolder_eq_ok h
  have hroot : location ≠ [] := by
    rintro rfl
    cases hnone
  refine ⟨rfl, fun other => ?_⟩
  by_cases hsame : other = location
  · subst hsame
    exact .inr (.inr ⟨hnone, path, List.mem_singleton_self _, hfind⟩)
  · left
    rw [disk.get?_put _ _ hroot, if_neg hsame]

theorem isFolder_of_createFolder {disk made : Disk} {path : Path}
    (h : disk.createFolder path = .ok made) : made.isFolder path = true := by
  obtain ⟨location, -, -, hfind⟩ := createFolder_eq_ok h
  exact isFolder_iff.2 ⟨location, hfind⟩

theorem changes_createEach (disk : Disk) (paths : List Path) :
    disk.Changes (disk.createEach paths).1 [] paths := by
  induction paths with
  | nil => exact .refl disk
  | cons path outer ih =>
    have hnone : disk.Changes disk [] (path :: outer) :=
      (Changes.refl disk).mono (List.nil_subset _) (List.nil_subset _)
    have hpath : [path] ⊆ path :: outer := by simp
    have houter : outer ⊆ path :: outer := List.subset_cons_self _ _
    unfold createEach
    split
    · rename_i made hmade
      exact (changes_createFolder hmade).mono (List.Subset.refl _) hpath
    · split
      · rename_i made fault hfailed
        rw [hfailed] at ih
        exact ih.mono (List.Subset.refl _) houter
      · rename_i made hdone
        rw [hdone] at ih
        split
        · rename_i done hmade
          refine (ih.trans (changes_createFolder hmade)).mono (List.Subset.refl _) ?_
          exact List.append_subset.2 ⟨houter, hpath⟩
        · exact ih.mono (List.Subset.refl _) houter
    · exact hnone

/-- The empty path is no folder to be made. -/
theorem createFolders_empty (disk : Disk) {path : Path} (h : path.text = "") :
    disk.createFolders path = (disk, none) := by
  unfold createFolders Path.ancestors Path.ancestorsWithin
  rw [if_pos h]
  rfl

/-- To make a folder changes nothing but that it is made, with those it lies
in, also where it fails. -/
theorem changes_createFolders (disk : Disk) (path : Path) :
    disk.Changes (disk.createFolders path).1 [] path.ancestors :=
  disk.changes_createEach path.ancestors

end Disk

end OperationModels.Files
