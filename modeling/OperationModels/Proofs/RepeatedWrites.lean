-- Documents whose files lie apart do not get in each other's way. The folders
-- of a file are made once or not at all, whatever else is written in between,
-- so a document is written late in a run as it would be at its start.
import OperationModels.Proofs.ChangedPlaces
import OperationModels.Proofs.MadeFolders
import OperationModels.Proofs.OutputPaths

namespace OperationModels.Command

open Files

/-! ## The folders of a file -/

/-- The folders of a file that were made once are there from then on, so its
path leads where it led. -/
theorem makeFoldersOf_of_made {disk made left : Disk} {target : Path} {written : List Location}
    (htree : disk.IsTree) (htarget : IsTarget target)
    (h : makeFoldersOf disk target = (made, none)) (hkeeps : made.Keeps left written) :
    makeFoldersOf left target = (left, none) ∧
      left.reach target target.segments = made.reach target target.segments := by
  obtain ⟨folder, last, hfolder, hlies⟩ := Path.exists_liesIn_of_names_ne_nil htarget.named
  have hchanges := changes_makeFoldersOf disk target
  rw [h] at hchanges
  have horigin : made.get? (made.origin folder) = some .folder := by
    rw [Disk.origin_of_here hchanges.here]
    exact hchanges.keeps.folder _ (htree.origin folder)
  rw [makeFoldersOf_of_parent? disk hfolder, Prod.mk.injEq, Option.map_eq_none_iff] at h
  rw [makeFoldersOf_of_parent? left hfolder]
  by_cases hempty : folder.text = ""
  · -- the file lies where its path starts
    have hlead : made.follow folder = .ok (made.origin folder) := by
      unfold Disk.follow
      rw [Path.names_of_text_empty hempty]
      rfl
    rw [Disk.createFolders_empty left hempty]
    exact ⟨rfl, hkeeps.reach_of_liesIn htarget.tidy hlies hlead horigin⟩
  · have hmade : disk.createFolders folder = (made, none) := Prod.ext h.1 h.2
    have hthere := Disk.isFolder_of_createFolders hempty hmade
    obtain ⟨location, hfind⟩ := Disk.isFolder_iff.1 hthere
    obtain ⟨htext, hlead, hplace⟩ := Disk.find_folder_iff.1 hfind
    have husable : made.Usable folder :=
      ⟨htext, Path.isTidy_of_parent? hfolder, hlies.level htarget.level, horigin⟩
    rw [(husable.keeps hkeeps).createFolders (hkeeps.isFolder hthere)]
    exact ⟨rfl, hkeeps.reach_of_liesIn htarget.tidy hlies hlead hplace⟩

/-- The folders of a file that could not be made cannot be made later, for the
same reason, and nothing more is made on the way. -/
theorem makeFoldersOf_of_refused {disk made : Disk} {target : Path} {message : String}
    (htree : disk.IsTree) (htarget : IsTarget target)
    (h : makeFoldersOf disk target = (made, some message)) :
    makeFoldersOf made target = (made, some message) := by
  obtain ⟨folder, last, hfolder, hlies⟩ := Path.exists_liesIn_of_names_ne_nil htarget.named
  rw [makeFoldersOf_of_parent? disk hfolder, Prod.mk.injEq, Option.map_eq_some_iff] at h
  obtain ⟨hleft, fault, hfault, hmessage⟩ := h
  have hagain := htree.createFolders_again (Path.isTidy_of_parent? hfolder)
    (hlies.level htarget.level) (Prod.ext hleft hfault)
  rw [makeFoldersOf_of_parent? made hfolder, hagain, ← hmessage]
  rfl

/-- Nothing is made where the file itself goes. -/
theorem get?_makeFoldersOf (disk : Disk) {target : Path} (htarget : IsTarget target) :
    (makeFoldersOf disk target).1.get? (disk.placeOf target) = disk.get? (disk.placeOf target) := by
  have hchanges := changes_makeFoldersOf disk target
  rcases hchanges.place (disk.placeOf target) with hsame | ⟨hmem, -⟩ | ⟨-, folder, hmem, hfind⟩
  · exact hsame
  · cases hmem
  · obtain ⟨habsolute, hnames⟩ := of_mem_foldersAbove hmem
    have hlevel : ".." ∉ folder.names :=
      fun hup => htarget.level (List.dropLast_subset _ (hnames.subset hup))
    have hplace := Disk.eq_placeOf_of_reach hlevel (Disk.find_eq_ok.1 hfind).1
    rw [Disk.placeOf_of_here hchanges.here] at hplace
    unfold Disk.placeOf at hplace
    rw [disk.origin_of_isAbsolute habsolute, List.append_cancel_left_eq] at hplace
    have hshorter := hnames.length_le
    have hsome := List.length_pos_iff.2 htarget.named
    rw [← hplace, List.length_dropLast] at hshorter
    omega

/-! ## Between documents -/

/-- The disk between two documents of a run, if all their files ask for the
same folders, which come to be made or are told to fail: nothing is written yet,
or the folders failed, or they are there and files came into them. -/
inductive Between (disk made : Disk) (told : Option String) : Disk → List Location → Prop
  | fresh (places : List Location) : Between disk made told disk places
  | refused (places : List Location) : told ≠ none → Between disk made told made places
  | written (left : Disk) (places : List Location) :
    told = none → made.Changes left places [] → Between disk made told left places

theorem Between.mono {disk made left : Disk} {told : Option String} {places more : List Location}
    (h : Between disk made told left places) (hmore : places ⊆ more) :
    Between disk made told left more := by
  cases h with
  | fresh => exact .fresh more
  | refused _ htold => exact .refused more htold
  | written _ _ htold hchanges =>
    exact .written left more htold (hchanges.mono hmore (List.Subset.refl _))

/-- Where nothing was made and nothing written, all is as it was. -/
theorem Between.get?_eq {disk made left : Disk} {told : Option String} {places : List Location}
    (h : Between disk made told left places) {location : Location} (hnot : location ∉ places)
    (hclear : made.get? location = disk.get? location) :
    left.get? location = disk.get? location := by
  cases h with
  | fresh => rfl
  | refused => exact hclear
  | written _ _ _ hchanges => exact (hchanges.get?_of_not_mem hnot).trans hclear

theorem Between.placeOf {disk made left : Disk} {told : Option String} {places : List Location}
    (h : Between disk made told left places) (hhere : made.here = disk.here) (path : Path) :
    left.placeOf path = disk.placeOf path := by
  refine Disk.placeOf_of_here ?_ path
  cases h with
  | fresh => rfl
  | refused => exact hhere
  | written _ _ _ hchanges => exact hchanges.here.trans hhere

/-- The folders of a file are made, or fail, between documents as they do at
the start. -/
theorem Between.makeFoldersOf {disk made left : Disk} {told : Option String}
    {places : List Location} {target : Path} (h : Between disk made told left places)
    (htree : disk.IsTree) (htarget : IsTarget target)
    (hfolders : makeFoldersOf disk target = (made, told)) :
    ∃ middle, Command.makeFoldersOf left target = (middle, told) ∧
      (told ≠ none → middle = made) ∧
      (told = none → made.Changes middle places [] ∧
        middle.reach target target.segments = made.reach target target.segments) ∧
      ∀ location, made.get? location = disk.get? location →
        middle.get? location = left.get? location := by
  cases h with
  | fresh =>
    have hnone : made.Changes made places [] :=
      (Disk.Changes.refl made).mono (List.nil_subset _) (List.Subset.refl _)
    exact ⟨made, hfolders, fun _ => rfl, fun _ => ⟨hnone, rfl⟩, fun _ hclear => hclear⟩
  | refused _ htold =>
    obtain ⟨message, rfl⟩ := Option.ne_none_iff_exists'.1 htold
    have hagain := makeFoldersOf_of_refused htree htarget hfolders
    exact ⟨made, hagain, fun _ => rfl, fun hnone => absurd hnone htold, fun _ _ => rfl⟩
  | written _ _ htold hchanges =>
    subst htold
    obtain ⟨hagain, hreach⟩ := makeFoldersOf_of_made htree htarget hfolders hchanges.keeps
    exact ⟨left, hagain, fun hsome => absurd rfl hsome, fun _ => ⟨hchanges, hreach⟩,
      fun _ _ => rfl⟩

/-- To write a text where two disks agree. -/
theorem writeText_alike {disk left : Disk} {path : Path} {location : Location}
    (hreach : left.reach path path.segments = disk.reach path path.segments)
    (hplace : ∀ there, disk.reach path path.segments = .ok there → there = location)
    (hsame : left.get? location = disk.get? location) (text : String) :
    (∃ fault, left.writeText path text = .error fault ∧ disk.writeText path text = .error fault) ∨
      location ≠ [] ∧ left.get? location ≠ some .folder ∧
        left.writeText path text = .ok (left.put location (.file text.toUTF8)) ∧
        disk.writeText path text = .ok (disk.put location (.file text.toUTF8)) := by
  unfold Disk.writeText Disk.writeBytes
  rw [hreach]
  cases hthere : disk.reach path path.segments with
  | error fault => exact .inl ⟨fault, rfl, rfl⟩
  | ok there =>
    obtain rfl := hplace there hthere
    simp only [bind, Except.bind]
    rw [hsame]
    by_cases hfolder : disk.get? there = some .folder
    · rw [hfolder]
      exact .inl ⟨.isFolder, rfl, rfl⟩
    · refine .inr ⟨?_, hfolder, ?_, ?_⟩
      · rintro rfl
        exact hfolder disk.get?_root
      · split
        · contradiction
        · rfl
      · split
        · contradiction
        · rfl

/-- Between documents a file is written as it would be at the start: it fails
alike or is the same, and no other place changes but where folders come. -/
theorem Between.writeOutput {disk made left : Disk} {told : Option String}
    {places : List Location} {target : Path} (h : Between disk made told left places)
    (htree : disk.IsTree) (htarget : IsTarget target)
    (hfolders : Command.makeFoldersOf disk target = (made, told))
    (hfree : disk.placeOf target ∉ places) (source : String) :
    (Command.writeOutput left target source).2 = (Command.writeOutput disk target source).2 ∧
      Between disk made told (Command.writeOutput left target source).1
        (disk.placeOf target :: places) ∧
      (Command.writeOutput left target source).1.get? (disk.placeOf target) =
        (Command.writeOutput disk target source).1.get? (disk.placeOf target) ∧
      ∀ location, location ≠ disk.placeOf target → made.get? location = disk.get? location →
        (Command.writeOutput left target source).1.get? location = left.get? location := by
  obtain ⟨middle, hmiddle, hrefused, hmade, hclear⟩ := h.makeFoldersOf htree htarget hfolders
  unfold Command.writeOutput
  rw [hmiddle, hfolders]
  cases told with
  | some message =>
    obtain rfl := hrefused (by simp)
    exact ⟨rfl, .refused _ (by simp), rfl, fun location _ => hclear location⟩
  | none =>
    obtain ⟨hchanges, hreach⟩ := hmade rfl
    have hmore : places ⊆ disk.placeOf target :: places := List.subset_cons_self _ _
    have hplace : ∀ there, made.reach target target.segments = .ok there →
        there = disk.placeOf target := by
      intro there hthere
      have hfrom := changes_makeFoldersOf disk target
      rw [hfolders] at hfrom
      rw [← Disk.placeOf_of_here hfrom.here]
      exact Disk.eq_placeOf_of_reach htarget.level hthere
    dsimp only
    rcases writeText_alike hreach hplace (hchanges.get?_of_not_mem hfree) source with
      ⟨fault, hleft, hdisk⟩ | ⟨hroot, hfile, hleft, hdisk⟩
    · rw [hleft, hdisk]
      refine ⟨rfl, ?_, hchanges.get?_of_not_mem hfree, fun location _ => hclear location⟩
      exact .written middle _ rfl (hchanges.mono hmore (List.Subset.refl _))
    · rw [hleft, hdisk]
      have hput := hchanges.trans (Disk.changes_put_file source.toUTF8 hfile)
      refine ⟨rfl, .written _ _ rfl (hput.mono ?_ (List.Subset.refl _)), ?_, ?_⟩
      · intro location hmem
        rw [List.mem_append, List.mem_singleton] at hmem
        rw [List.mem_cons]
        exact hmem.symm
      · rw [Disk.get?_put _ _ _ hroot, Disk.get?_put _ _ _ hroot, if_pos rfl, if_pos rfl]
      · intro location hother hsame
        rw [Disk.get?_put _ _ _ hroot, if_neg hother]
        exact hclear location hsame

/-! ## Documents in a run -/

/-- The place of the models of a document. -/
def Outcome.place (disk : Disk) (outDir : Option Path) (outcome : Outcome) : Location :=
  disk.placeOf (outputPath outcome.document outDir)

/-- The files of some documents never lead up, and ask for the same folders. -/
structure SharesFolders (disk made : Disk) (told : Option String) (outDir : Option Path)
    (outcome : Outcome) : Prop where
  target : IsTarget (outputPath outcome.document outDir)
  here : made.here = disk.here
  clear : made.get? (outcome.place disk outDir) = disk.get? (outcome.place disk outDir)
  folders : outcome.isFailure = false →
    makeFoldersOf disk (outputPath outcome.document outDir) = (made, told)

/-- Between documents a document is written as it would be at the start. -/
theorem Between.writeOutcome {disk made left : Disk} {told : Option String}
    {places : List Location} {outDir : Option Path} {outcome : Outcome}
    (h : Between disk made told left places) (htree : disk.IsTree)
    (hshares : SharesFolders disk made told outDir outcome)
    (hfree : outcome.place disk outDir ∉ places) :
    (Command.writeOutcome left outDir outcome).2 = (Command.writeOutcome disk outDir outcome).2 ∧
      Between disk made told (Command.writeOutcome left outDir outcome).1
        (outcome.place disk outDir :: places) ∧
      (Command.writeOutcome left outDir outcome).1.get? (outcome.place disk outDir) =
        (Command.writeOutcome disk outDir outcome).1.get? (outcome.place disk outDir) ∧
      ∀ location, location ≠ outcome.place disk outDir →
        made.get? location = disk.get? location →
        (Command.writeOutcome left outDir outcome).1.get? location = left.get? location := by
  unfold Command.writeOutcome
  cases hresult : outcome.result with
  | error failure =>
    exact ⟨rfl, h.mono (List.subset_cons_self _ _), h.get?_eq hfree hshares.clear,
      fun _ _ _ => rfl⟩
  | ok generated =>
    have hok : outcome.isFailure = false := by
      unfold Outcome.isFailure
      rw [hresult]
    exact h.writeOutput htree hshares.target (hshares.folders hok) hfree generated.source

theorem keeps_writeOutcome (disk : Disk) (outDir : Option Path) (outcome : Outcome) :
    ∃ written, disk.Keeps (writeOutcome disk outDir outcome).1 written := by
  unfold writeOutcome
  cases outcome.result with
  | error failure => exact ⟨[], .refl disk⟩
  | ok generated =>
    dsimp only
    rcases hwrite : writeOutput disk (outputPath outcome.document outDir) generated.source with
      ⟨left, _ | message⟩
    · obtain ⟨location, hchanges, -⟩ := holds_of_writeOutput hwrite
      exact ⟨_, hchanges.keeps⟩
    · exact ⟨_, (changes_of_writeOutput hwrite).keeps⟩

theorem keeps_diskAfter (disk : Disk) (outDir : Option Path) (outcomes : List Outcome) :
    ∃ written, disk.Keeps (diskAfter disk outDir outcomes) written := by
  induction outcomes generalizing disk with
  | nil => exact ⟨[], .refl disk⟩
  | cons outcome rest ih =>
    obtain ⟨first, hfirst⟩ := keeps_writeOutcome disk outDir outcome
    obtain ⟨others, hothers⟩ := ih (writeOutcome disk outDir outcome).1
    exact ⟨first ++ others, hfirst.trans hothers⟩

/-- A path whose models are written leads to them. -/
theorem find_writeOutcome {disk : Disk} {outDir : Option Path} {outcome : Outcome}
    (htarget : IsTarget (outputPath outcome.document outDir))
    (h : (writeOutcome disk outDir outcome).2 = none) :
    ∃ bytes, (writeOutcome disk outDir outcome).1.find (outputPath outcome.document outDir) =
      .ok (outcome.place disk outDir, .file bytes) := by
  unfold writeOutcome at *
  cases hresult : outcome.result with
  | error failure =>
    rw [hresult] at h
    cases h
  | ok generated =>
    rw [hresult] at h
    dsimp only at h ⊢
    obtain ⟨location, hchanges, hholds⟩ := holds_of_writeOutput (Prod.ext rfl h)
    have hplace := Disk.eq_placeOf_of_reach htarget.level hholds.reached
    rw [Disk.placeOf_of_here hchanges.here] at hplace
    subst hplace
    exact ⟨_, hholds.find⟩

/-- Of documents whose files lie apart, a run tells what it would tell of each
at its start, and leaves in the place of each what it would leave there. -/
theorem Between.writeAll {disk made left : Disk} {told : Option String}
    {places : List Location} {outDir : Option Path} {outcomes : List Outcome}
    (h : Between disk made told left places) (htree : disk.IsTree)
    (hshares : ∀ outcome ∈ outcomes, SharesFolders disk made told outDir outcome)
    (hapart : (outcomes.map (Outcome.place disk outDir)).Nodup)
    (hfree : ∀ outcome ∈ outcomes, outcome.place disk outDir ∉ places) :
    toldAll left outDir outcomes = outcomes.map (toldOn disk outDir) ∧
      (∀ outcome ∈ outcomes,
        (diskAfter left outDir outcomes).get? (outcome.place disk outDir) =
            (Command.writeOutcome disk outDir outcome).1.get? (outcome.place disk outDir) ∧
          ((Command.writeOutcome disk outDir outcome).2 = none →
            (diskAfter left outDir outcomes).canonical? (outputPath outcome.document outDir) =
              some (outcome.place disk outDir))) ∧
      ∀ location, location ∉ outcomes.map (Outcome.place disk outDir) →
        made.get? location = disk.get? location →
        (diskAfter left outDir outcomes).get? location = left.get? location := by
  induction outcomes generalizing left places with
  | nil => exact ⟨rfl, fun _ hmem => (nomatch hmem), fun _ _ _ => rfl⟩
  | cons outcome rest ih =>
    rw [List.map_cons, List.nodup_cons] at hapart
    rw [List.forall_mem_cons] at hshares hfree
    obtain ⟨hfault, hnext, hsame, hothers⟩ := h.writeOutcome htree hshares.1 hfree.1
    have hlater : ∀ later ∈ rest,
        later.place disk outDir ∉ outcome.place disk outDir :: places := by
      intro later hmem hplaces
      rcases List.mem_cons.1 hplaces with hequal | hknown
      · exact hapart.1 (hequal ▸ List.mem_map_of_mem hmem)
      · exact hfree.2 later hmem hknown
    obtain ⟨htold, heach, hrest⟩ := ih hnext hshares.2 hapart.2 hlater
    refine ⟨?_, ?_, ?_⟩
    · rw [toldAll, htold, List.map_cons]
      unfold toldOn
      rw [hfault]
    · rw [List.forall_mem_cons]
      refine ⟨?_, heach⟩
      have hstays := (hrest _ hapart.1 hshares.1.clear).trans hsame
      refine ⟨hstays, fun hnone => ?_⟩
      -- the path led to the file when it was written, and the file is there still
      rw [← hfault] at hnone
      obtain ⟨bytes, hfind⟩ := find_writeOutcome hshares.1.target hnone
      have hplace : outcome.place left outDir = outcome.place disk outDir :=
        h.placeOf hshares.1.here _
      rw [hplace, Disk.find_eq_ok] at hfind
      obtain ⟨written, hkeeps⟩ :=
        keeps_diskAfter (Command.writeOutcome left outDir outcome).1 outDir rest
      refine Disk.canonical?_eq_some.2 ⟨.file bytes, Disk.find_eq_ok.2 ⟨?_, ?_⟩⟩
      · exact hkeeps.reach hfind.1
      · rw [← hfind.2, hsame]
        exact hstays
    · intro location hnot hclear
      rw [List.map_cons, List.mem_cons, not_or] at hnot
      exact (hrest location hnot.2 hclear).trans (hothers location hnot.1 hclear)

end OperationModels.Command
