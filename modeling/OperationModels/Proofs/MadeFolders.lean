-- Making folders over again. On a disk that is a tree, a folder that could not
-- be made fails the second time as it failed the first, and one that was made
-- is there from then on.
import OperationModels.Proofs.FollowedNames

namespace OperationModels.Files

namespace Disk

/-! ## Trees -/

/-- Whatever is on the disk lies in a folder, and the working folder is one. -/
structure IsTree (disk : Disk) : Prop where
  here : disk.get? disk.here = some .folder
  above : ∀ location entry, disk.get? location = some entry →
    disk.get? location.dropLast = some .folder

/-- Is there a folder at a location? -/
def holdsFolder (disk : Disk) (location : Location) : Bool :=
  match disk.get? location with
  | some .folder => true
  | _ => false

theorem holdsFolder_iff {disk : Disk} {location : Location} :
    disk.holdsFolder location = true ↔ disk.get? location = some .folder := by
  unfold holdsFolder
  split <;> simp_all

/-- A disk is a tree if each of its entries lies in a folder. -/
theorem isTree_of_entries {disk : Disk} (hhere : disk.holdsFolder disk.here = true)
    (habove : ∀ item ∈ disk.entries.entries, disk.holdsFolder item.1.dropLast = true) :
    disk.IsTree := by
  refine ⟨holdsFolder_iff.1 hhere, fun location entry hentry => ?_⟩
  by_cases hroot : location = []
  · subst hroot
    exact disk.get?_root
  · rw [disk.get?_of_ne_root hroot] at hentry
    exact holdsFolder_iff.1 (habove _ (OrderedMap.mem_of_get?_eq_some hentry))

theorem IsTree.origin {disk : Disk} (h : disk.IsTree) (path : Path) :
    disk.get? (disk.origin path) = some .folder := by
  unfold Disk.origin
  split
  · exact disk.get?_root
  · exact h.here

theorem IsTree.of_append {disk : Disk} (h : disk.IsTree) {location : Location} {last : String}
    {entry : Entry} (hentry : disk.get? (location ++ [last]) = some entry) :
    disk.get? location = some .folder := by
  have habove := h.above _ _ hentry
  rw [List.dropLast_concat] at habove
  exact habove

/-- Names that lead nowhere tell a place where nothing is. -/
theorem IsTree.get?_of_notFound {disk : Disk} (h : disk.IsTree) {names : List String}
    {start : Location} (hfurther : ∀ name ∈ names, Path.leadsFurther name = true)
    (hup : ".." ∉ names) (hlead : names.foldlM disk.step start = .error .notFound) :
    disk.get? (start ++ names) = none := by
  induction names using List.reverseRecOn with
  | nil => cases hlead
  | append_singleton names last ih =>
    rw [List.mem_append, not_or] at hup
    rw [List.forall_mem_append] at hfurther
    rw [foldlM_step_concat] at hlead
    have hnone : disk.get? (start ++ names) ≠ some .folder := by
      intro hfolder
      cases hfront : names.foldlM disk.step start with
      | error fault =>
        rw [hfront] at hlead
        cases hlead
        rw [ih hfurther.1 hup.1 hfront] at hfolder
        cases hfolder
      | ok location =>
        have hplace : location = start ++ names := by
          have hall : names.filter Path.leadsFurther = names := List.filter_eq_self.2 hfurther.1
          rw [← hall] at hup ⊢
          exact eq_of_foldlM_step hup.1 hfront
        rw [hfront, hplace] at hlead
        exact step_ne_notFound hfolder last hlead
    cases hentry : disk.get? (start ++ (names ++ [last])) with
    | none => rfl
    | some entry =>
      rw [← List.append_assoc] at hentry
      exact absurd (h.of_append hentry) hnone

theorem IsTree.get?_placeOf {disk : Disk} (h : disk.IsTree) {path : Path}
    (hup : ".." ∉ path.names) (hlead : disk.follow path = .error .notFound) :
    disk.get? (disk.placeOf path) = none :=
  h.get?_of_notFound Path.leadsFurther_of_mem_names hup hlead

/-! ## Folders -/

/-- Where only folders were made, a file was there before. -/
theorem Changes.file_of_no_file {disk left : Disk} {folders : List Path}
    (h : disk.Changes left [] folders) {location : Location} {bytes : ByteArray}
    (hfile : left.get? location = some (.file bytes)) :
    disk.get? location = some (.file bytes) := by
  rcases h.place location with hsame | ⟨hmem, -⟩ | ⟨-, folder, -, hfind⟩
  · rw [← hsame]
    exact hfile
  · cases hmem
  · rw [(find_eq_ok.1 hfind).2] at hfile
    cases hfile

/-- Folders that could be made are there. -/
theorem isFolder_of_createEach {disk made : Disk} {path : Path} {outer : List Path}
    (h : disk.createEach (path :: outer) = (made, none)) : made.isFolder path = true := by
  unfold createEach at h
  split at h
  · rename_i first hfirst
    cases h
    exact isFolder_of_createFolder hfirst
  · split at h
    · cases h
    · split at h
      · rename_i done hdone
        cases h
        exact isFolder_of_createFolder hdone
      · rw [Prod.mk.injEq] at h
        obtain ⟨rfl, hnone⟩ := h
        split_ifs at hnone with hfolder
        exact hfolder
  · rw [Prod.mk.injEq] at h
    obtain ⟨rfl, hnone⟩ := h
    split_ifs at hnone with hfolder
    exact hfolder

/-- A folder that is not there and cannot be made, whatever is made around it. -/
structure Refuses (disk : Disk) (path : Path) (fault : Fault) : Prop where
  fails : disk.createFolder path = .error fault
  stops : fault ≠ .notFound
  missing : disk.isFolder path = false

theorem createEach_of_stops {disk : Disk} {path : Path} {fault : Fault} (outer : List Path)
    (hfails : disk.createFolder path = .error fault) (hstops : fault ≠ .notFound) :
    disk.createEach (path :: outer) =
      (disk, if disk.isFolder path then none else some fault) := by
  unfold createEach
  rw [hfails]
  cases fault <;> first | contradiction | rfl

theorem Refuses.createEach {disk : Disk} {path : Path} {fault : Fault}
    (h : disk.Refuses path fault) (outer : List Path) :
    disk.createEach (path :: outer) = (disk, some fault) := by
  rw [createEach_of_stops outer h.fails h.stops, h.missing]
  rfl

/-- Where the folder that a path lies in refuses to be made and is no file, the
path refuses to be made for the same reason. -/
theorem Refuses.inner {disk : Disk} {path parent : Path} {last : String} {fault : Fault}
    (h : disk.Refuses parent fault) (houter : disk.Usable parent) (hpath : disk.Usable path)
    (hlies : path.LiesIn parent last)
    (hfile : ∀ location bytes, disk.follow parent = .ok location →
      disk.get? location ≠ some (.file bytes)) : disk.Refuses path fault := by
  have hlead : disk.follow path = .error fault := by
    have hfails := h.fails
    rw [houter.createFolder] at hfails
    rw [follow_of_liesIn hlies]
    cases hfollow : disk.follow parent with
    | error own =>
      rw [hfollow] at hfails
      cases hfails
      rfl
    | ok location =>
      rw [hfollow] at hfails
      cases hentry : disk.get? location with
      | none => simp [bind, Except.bind, hentry] at hfails
      | some entry =>
        cases entry with
        | file bytes => exact absurd hentry (hfile location bytes hfollow)
        | folder =>
          have hfolder := isFolder_of_follow houter.text hfollow hentry
          rw [h.missing] at hfolder
          cases hfolder
  refine ⟨?_, h.stops, ?_⟩
  · rw [hpath.createFolder, hlead]
    rfl
  · by_contra hfolder
    rw [Bool.not_eq_false, isFolder_iff] at hfolder
    obtain ⟨location, hfind⟩ := hfolder
    rw [(find_folder_iff.1 hfind).2.1] at hlead
    cases hlead

/-- In a folder that is there, a path that cannot be made refuses to be. -/
theorem refuses_of_isFolder {disk : Disk} {path parent : Path} {last : String} {fault : Fault}
    (hfolder : disk.isFolder parent = true) (hpath : disk.Usable path)
    (hlies : path.LiesIn parent last) (hfails : disk.createFolder path = .error fault)
    (hmissing : disk.isFolder path = false) : disk.Refuses path fault := by
  refine ⟨hfails, ?_, hmissing⟩
  rintro rfl
  obtain ⟨location, hfind⟩ := isFolder_iff.1 hfolder
  obtain ⟨-, hfollow, hthere⟩ := find_folder_iff.1 hfind
  rw [hpath.createFolder, follow_of_liesIn hlies, hfollow] at hfails
  simp only [bind, Except.bind] at hfails
  split at hfails
  · rename_i own hstep
    cases hfails
    exact step_ne_notFound hthere last hstep
  · split at hfails <;> cases hfails

/-- A path that cannot be made as a folder since something is missing lies in a
folder that is not there, and is not empty but for it. -/
theorem IsTree.of_createFolder_notFound {disk : Disk} (htree : disk.IsTree) {path : Path}
    (htidy : path.IsTidy) (hup : ".." ∉ path.names) (hempty : path.text ≠ "")
    (h : disk.createFolder path = .error .notFound) :
    disk.Usable path ∧ disk.follow path = .error .notFound := by
  have htext : path.textFault? = none := by
    cases hfault : path.textFault? with
    | none => rfl
    | some fault =>
      unfold Disk.createFolder at h
      dsimp only at h
      rw [reach_eq, hfault] at h
      cases h
      unfold Path.textFault? at hfault
      rw [if_neg hempty] at hfault
      split_ifs at hfault <;> cases hfault
  have husable : disk.Usable path := ⟨htext, htidy, hup, htree.origin path⟩
  refine ⟨husable, ?_⟩
  rw [husable.createFolder] at h
  cases hfollow : disk.follow path with
  | error own =>
    rw [hfollow] at h
    cases h
    rfl
  | ok location =>
    rw [hfollow] at h
    simp only [bind, Except.bind] at h
    split at h <;> cases h

/-- Where a path leads nowhere, it does not lie in a file. -/
theorem IsTree.outer_ne_file {disk : Disk} (htree : disk.IsTree) {path parent : Path}
    {last : String} (hlies : path.LiesIn parent last) (hup : ".." ∉ path.names)
    (hlead : disk.follow path = .error .notFound) (bytes : ByteArray) :
    disk.get? (disk.placeOf parent) ≠ some (.file bytes) := by
  intro hfile
  have houter := hlies.level hup
  rw [follow_of_liesIn hlies] at hlead
  cases hfollow : disk.follow parent with
  | error own =>
    rw [hfollow] at hlead
    cases hlead
    rw [htree.get?_placeOf houter hfollow] at hfile
    cases hfile
  | ok location =>
    rw [hfollow] at hlead
    obtain rfl := eq_placeOf_of_follow houter hfollow
    unfold step at hlead
    simp only [bind, Except.bind, hfile] at hlead
    cases hlead

/-- A path that leads nowhere from a folder lies in a path that is not empty. -/
theorem text_ne_empty_of_follow {disk : Disk} {path parent : Path} {last : String}
    (hlies : path.LiesIn parent last) (horigin : disk.get? (disk.origin path) = some .folder)
    (hlead : disk.follow path = .error .notFound) : parent.text ≠ "" := by
  intro hempty
  unfold follow at hlead
  rw [hlies.names, Path.names_of_text_empty hempty, List.nil_append, List.foldlM_cons] at hlead
  cases hstep : disk.step (disk.origin path) last with
  | error own =>
    rw [hstep] at hlead
    cases hlead
    exact step_ne_notFound horigin last hstep
  | ok location =>
    rw [hstep] at hlead
    cases hlead

/-- Where a path leads nowhere and the folder that it lies in either is made or
refuses to be from then on, so does the path. -/
theorem IsTree.refuses_of_outer {disk made : Disk} {path parent : Path} {outer : List Path}
    {last : String} {fault : Fault} (htree : disk.IsTree) (husable : disk.Usable path)
    (houter : disk.Usable parent) (hlies : path.LiesIn parent last)
    (hlead : disk.follow path = .error .notFound)
    (hfirst : disk.createFolder path = .error .notFound)
    (hrefuses : ∀ middle own, disk.createEach outer = (middle, some own) →
      middle.Refuses parent own)
    (hfolder : ∀ middle, disk.createEach outer = (middle, none) → middle.isFolder parent = true)
    (h : disk.createEach (path :: outer) = (made, some fault)) : made.Refuses path fault := by
  have hchanges := disk.changes_createEach outer
  unfold Disk.createEach at h
  rw [hfirst] at h
  rcases hmiddle : disk.createEach outer with ⟨middle, _ | own⟩
  · rw [hmiddle] at h hchanges
    dsimp only at h hchanges
    cases hagain : middle.createFolder path with
    | ok done =>
      rw [hagain] at h
      cases h
    | error second =>
      rw [hagain] at h
      dsimp only at h
      rw [Prod.mk.injEq] at h
      obtain ⟨rfl, hfault⟩ := h
      split_ifs at hfault with hthere
      cases hfault
      exact refuses_of_isFolder (hfolder middle hmiddle) (husable.keeps hchanges.keeps) hlies
        hagain (by simpa using hthere)
  · rw [hmiddle] at h hchanges
    cases h
    refine (hrefuses _ _ hmiddle).inner (houter.keeps hchanges.keeps)
      (husable.keeps hchanges.keeps) hlies ?_
    -- a file was there before, and then the path would lead into it
    intro location bytes hfollow hfile
    rw [eq_placeOf_of_follow houter.level hfollow, placeOf_of_here hchanges.here] at hfile
    exact htree.outer_ne_file hlies husable.level hlead bytes (hchanges.file_of_no_file hfile)

/-- Where a folder could not be made, it refuses to be made from then on. -/
theorem IsTree.refuses_of_createEach {disk made : Disk} {fault : Fault} (htree : disk.IsTree)
    (bound : Nat) {path : Path} (htidy : path.IsTidy) (hup : ".." ∉ path.names)
    (hbound : path.text.length < bound)
    (h : disk.createEach (path.ancestorsWithin bound) = (made, some fault)) :
    made.Refuses path fault := by
  induction bound generalizing path made fault with
  | zero => omega
  | succ bound ih =>
    unfold Path.ancestorsWithin at h
    by_cases hempty : path.text = ""
    · rw [if_pos hempty] at h
      cases h
    rw [if_neg hempty] at h
    cases hfirst : disk.createFolder path with
    | ok first =>
      unfold Disk.createEach at h
      rw [hfirst] at h
      cases h
    | error own =>
      by_cases hstops : own = .notFound
      · subst hstops
        obtain ⟨husable, hlead⟩ := htree.of_createFolder_notFound htidy hup hempty hfirst
        have hnames : path.names ≠ [] := by
          intro hnil
          unfold follow at hlead
          rw [hnil] at hlead
          cases hlead
        obtain ⟨parent, last, hparent, hlies⟩ := Path.exists_liesIn_of_names_ne_nil hnames
        have hsome := text_ne_empty_of_follow hlies husable.origin hlead
        have houter := husable.parent? hparent hsome
        have hlength : parent.text.length < bound := by
          obtain ⟨rest, hrest, hmore⟩ := Path.text_of_parent? hparent
          have hpositive : rest.length ≠ 0 := by simpa using hmore
          rw [hrest, String.length_append] at hbound
          omega
        rw [hparent] at h
        refine htree.refuses_of_outer husable houter hlies hlead hfirst
          (fun middle own hmiddle => ih houter.tidy houter.level hlength hmiddle) ?_ h
        intro middle hmiddle
        obtain ⟨other, rfl⟩ : ∃ other, bound = other + 1 := ⟨bound - 1, by omega⟩
        unfold Path.ancestorsWithin at hmiddle
        rw [if_neg hsome] at hmiddle
        exact isFolder_of_createEach hmiddle
      · rw [createEach_of_stops _ hfirst hstops, Prod.mk.injEq] at h
        obtain ⟨rfl, hfault⟩ := h
        split_ifs at hfault with hfolder
        cases hfault
        exact ⟨hfirst, hstops, by simpa using hfolder⟩

/-! ## Over again -/

theorem exists_ancestors_eq {path : Path} (h : path.text ≠ "") :
    ∃ outer, path.ancestors = path :: outer := by
  unfold Path.ancestors Path.ancestorsWithin
  rw [if_neg h]
  exact ⟨_, rfl⟩

/-- A folder that could not be made cannot be made later, for the same reason,
and nothing more is made on the way. -/
theorem IsTree.createFolders_again {disk made : Disk} {path : Path} {fault : Fault}
    (htree : disk.IsTree) (htidy : path.IsTidy) (hup : ".." ∉ path.names)
    (h : disk.createFolders path = (made, some fault)) :
    made.createFolders path = (made, some fault) := by
  have hrefuses := htree.refuses_of_createEach _ htidy hup (Nat.lt_succ_self _) h
  have hsome : path.text ≠ "" := by
    intro hempty
    rw [createFolders_empty disk hempty] at h
    cases h
  obtain ⟨outer, houter⟩ := exists_ancestors_eq hsome
  unfold createFolders
  rw [houter]
  exact hrefuses.createEach outer

/-- A folder that is there is not made. -/
theorem Usable.createFolders {disk : Disk} {path : Path} (h : disk.Usable path)
    (hfolder : disk.isFolder path = true) : disk.createFolders path = (disk, none) := by
  obtain ⟨location, hfind⟩ := isFolder_iff.1 hfolder
  obtain ⟨-, hfollow, hthere⟩ := find_folder_iff.1 hfind
  have hexists : disk.createFolder path = .error .exists := by
    rw [h.createFolder, hfollow]
    simp only [bind, Except.bind, hthere]
    rfl
  obtain ⟨outer, houter⟩ := exists_ancestors_eq (Path.textFault?_eq_none_iff.1 h.text).1
  unfold Disk.createFolders
  rw [houter, createEach_of_stops outer hexists (by simp), hfolder]
  rfl

/-- A folder that could be made is there. -/
theorem isFolder_of_createFolders {disk made : Disk} {path : Path} (hsome : path.text ≠ "")
    (h : disk.createFolders path = (made, none)) : made.isFolder path = true := by
  obtain ⟨outer, houter⟩ := exists_ancestors_eq hsome
  unfold Disk.createFolders at h
  rw [houter] at h
  exact isFolder_of_createEach h

end Disk

end OperationModels.Files
