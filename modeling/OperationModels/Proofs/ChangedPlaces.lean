-- What a run of `generate` changes on the disk, and what it leaves alone. Only
-- the files of documents that gave models are written, and only folders that
-- these files lie in are made. A run that makes nothing leaves the disk as it
-- was.
import OperationModels.Proofs.DryRuns
import OperationModels.Proofs.PathPlaces

namespace OperationModels.Command

open Files

/-! ## Folders -/

/-- The folders above a file start where its path does, with fewer names. -/
theorem of_mem_foldersAbove {target folder : Path} (h : folder ∈ foldersAbove target) :
    folder.isAbsolute = target.isAbsolute ∧ folder.names <+: target.names.dropLast := by
  unfold foldersAbove at h
  cases hparent : target.parent? with
  | none =>
    rw [hparent] at h
    cases h
  | some parent =>
    rw [hparent] at h
    obtain ⟨habsolute, hnames⟩ := Path.parent?_eq_some hparent
    obtain ⟨hstart, hbegins⟩ := Path.of_mem_ancestors h
    exact ⟨hstart.trans habsolute, hnames ▸ hbegins⟩

/-- A folder at a location is one of those that a file lies in. Where the path
of the file never leads up, the place of the file lies below the location. -/
def LiesAbove (disk : Disk) (location : Location) (target : Path) : Prop :=
  (∃ folder ∈ foldersAbove target, disk.canonical? folder = some location) ∧
    (".." ∉ target.names → location <+: disk.placeOf target)

theorem liesAbove_of_find {disk : Disk} {location : Location} {target folder : Path}
    (hfolder : folder ∈ foldersAbove target) (h : disk.find folder = .ok (location, .folder)) :
    LiesAbove disk location target := by
  refine ⟨⟨folder, hfolder, Disk.canonical?_eq_some.2 ⟨_, h⟩⟩, fun hup => ?_⟩
  obtain ⟨habsolute, hnames⟩ := of_mem_foldersAbove hfolder
  exact Disk.prefix_placeOf hup habsolute (hnames.trans (List.dropLast_prefix _)) h

theorem mem_folders_iff {outDir : Option Path} {outcome : Outcome} {folder : Path} :
    folder ∈ outcome.folders outDir ↔ outcome.isFailure = false ∧
      folder ∈ foldersAbove (outputPath outcome.document outDir) := by
  unfold Outcome.folders Outcome.isFailure
  cases outcome.result <;> simp

/-! ## Failures -/

theorem writeOutcome_of_isFailure {outcome : Outcome} (h : outcome.isFailure = true)
    (disk : Disk) (outDir : Option Path) : (writeOutcome disk outDir outcome).1 = disk := by
  unfold Outcome.isFailure at h
  unfold writeOutcome
  cases hresult : outcome.result with
  | error failure => rfl
  | ok generated =>
    rw [hresult] at h
    cases h

/-- Documents that all fail change nothing. -/
theorem diskAfter_of_failures (disk : Disk) (outDir : Option Path) {outcomes : List Outcome}
    (h : ∀ outcome ∈ outcomes, outcome.isFailure = true) :
    diskAfter disk outDir outcomes = disk := by
  unfold diskAfter
  induction outcomes with
  | nil => rfl
  | cons outcome rest ih =>
    rw [List.forall_mem_cons] at h
    rw [List.foldl_cons, writeOutcome_of_isFailure h.1]
    exact ih h.2

/-! ## The law -/

/-- A run of `generate` changes nothing but the files that it shows as
generated, each of a document that gave models, and folders, made in empty
places, that the files of such documents lie in. Where it finds no documents,
or none that gives models, the disk stays as it was. What a path leads to stays
as it was unless a file is generated there, whatever became of the document that
the path belongs to. No entry of a disk is a link, so to write to a path changes
the one place that its names lead to. -/
theorem only_generated_files_and_folders_above_change (disk : Disk) (arguments : List String)
    (flags : InputFlags) (outDir : Option Path)
    (h : Request.parse? arguments = some (.generate flags outDir)) :
    ∃ (left : Disk) (report : Report), run disk arguments = (left, .report report) ∧
      (∀ message, settled disk flags outDir = .error message → left = disk) ∧
      ∀ (settings : Settings) (outcomes : List Outcome),
        settled disk flags outDir = .ok (settings, outcomes) →
        ((∀ outcome ∈ outcomes, outcome.isFailure = true) → left = disk) ∧
        ∃ writings : List Writing, report.out = writings.map Writing.line ∧
          (∀ writing ∈ writings, left.canonical? writing.target = some writing.location ∧
            ∃ outcome ∈ outcomes, writing.ComesFrom settings.outDir outcome) ∧
          (∀ location, left.get? location ≠ disk.get? location →
            (disk.get? location ≠ some .folder ∧
                (∃ bytes, left.get? location = some (.file bytes)) ∧
                ∃ writing ∈ writings, writing.location = location) ∨
              (disk.get? location = none ∧ left.get? location = some .folder ∧
                ∃ outcome ∈ outcomes, outcome.isFailure = false ∧
                  LiesAbove left location (outputPath outcome.document settings.outDir))) ∧
          ∀ path location entry, disk.find path = .ok (location, entry) →
            (∀ writing ∈ writings, writing.location ≠ location) →
            left.find path = .ok (location, entry) := by
  refine ⟨_, _, run_of_parse? disk h, ?_, ?_⟩
  · intro message hsettled
    rw [runGenerate_of_error hsettled]
  intro settings outcomes hsettled
  obtain ⟨progress, writings, hends, haccounts, hchanges⟩ := accounts_of_settled hsettled
  refine ⟨?_, writings, ?_, ?_, ?_, ?_⟩
  · intro hfailures
    rw [runGenerate_eq_telling hsettled]
    exact diskAfter_of_failures disk settings.outDir hfailures
  · rw [hends, progress.out_report]
    exact haccounts.shown
  · intro writing hwriting
    rw [hends]
    obtain ⟨last, -, -, -, hholds⟩ := haccounts.holds_last hwriting
    exact ⟨hholds.canonical?, haccounts.origin writing hwriting⟩
  · intro location hdiffers
    rw [hends] at hdiffers ⊢
    rcases hchanges.place location with hsame | ⟨hmem, hnot, hfile⟩ | ⟨hnone, folder, hmem, hfind⟩
    · exact absurd hsame hdiffers
    · obtain ⟨writing, hwriting, hat⟩ := List.mem_map.1 hmem
      exact .inl ⟨hnot, hfile, writing, hwriting, hat⟩
    · obtain ⟨outcome, houtcome, hfolder⟩ := List.mem_flatMap.1 hmem
      obtain ⟨hok, habove⟩ := mem_folders_iff.1 hfolder
      exact .inr ⟨hnone, (Disk.find_eq_ok.1 hfind).2, outcome, houtcome, hok,
        liesAbove_of_find habove hfind⟩
  · intro path location entry hfind hother
    rw [hends]
    have hunwritten : location ∉ writings.map Writing.location := by
      rw [List.mem_map]
      rintro ⟨writing, hwriting, hat⟩
      exact hother writing hwriting hat
    rw [Disk.find_eq_ok] at hfind ⊢
    exact ⟨hchanges.keeps.reach hfind.1, hchanges.keeps.entry _ _ hunwritten hfind.2⟩

/-- The output paths of the two documents of the mix that give models. -/
def mixedTargets : List Path := [⟨"out/clean.rs"⟩, ⟨"out/warned.rs"⟩]

/-- Where these paths lead in the end. -/
def mixedFiles : List Location := [["out", "clean.rs"], ["out", "warned.rs"]]

/-- The document in the middle fails, and the models of the others go to the output
folder. -/
theorem settled_mixed :
    ∃ settings outcomes, settled mixedDisk mixedFlags (some ⟨"out"⟩) = .ok (settings, outcomes) ∧
      outcomes.map Outcome.isFailure = [false, true, false] ∧
      ∀ outcome ∈ outcomes, outcome.isFailure = false →
        outputPath outcome.document settings.outDir ∈ mixedTargets := by
  have hany : (settled mixedDisk mixedFlags (some ⟨"out"⟩)).toOption.any (fun found =>
      found.2.map Outcome.isFailure = [false, true, false] ∧
        ∀ outcome ∈ found.2, outcome.isFailure = false →
          outputPath outcome.document found.1.outDir ∈ mixedTargets) = true := by
    decide +kernel
  obtain ⟨⟨settings, outcomes⟩, hsettled, htest⟩ := exists_of_any_toOption hany
  exact ⟨settings, outcomes, hsettled, of_decide_eq_true htest⟩

/-- Where the paths of the run lead when it is over, and what it shows. -/
theorem runGenerate_mixed :
    (runGenerate mixedDisk mixedFlags (some ⟨"out"⟩)).2.out =
        ["generated clean.graphql -> out/clean.rs", "generated warned.graphql -> out/warned.rs"] ∧
      (∀ location ∈ ["out"] :: mixedFiles, (mixedDisk.get? location).isNone ∧
        ((runGenerate mixedDisk mixedFlags (some ⟨"out"⟩)).1.get? location).isSome) ∧
      ∀ target ∈ mixedTargets,
        (∀ location ∈ (runGenerate mixedDisk mixedFlags (some ⟨"out"⟩)).1.canonical? target,
          location ∈ mixedFiles) ∧
        ∀ folder ∈ foldersAbove target,
          ∀ location ∈ (runGenerate mixedDisk mixedFlags (some ⟨"out"⟩)).1.canonical? folder,
            location = ["out"] := by
  decide +kernel

/-- A run over three documents, one of which fails, changes three places: it makes
the output folder and writes a file for each of the other two. All that could be
found before is found as it was. -/
theorem three_documents_change_two_files_and_a_folder :
    Request.parse? ("generate" :: mixedArguments ++ ["-o", "out"]) =
        some (.generate mixedFlags (some ⟨"out"⟩)) ∧
      ∃ settings outcomes left report,
        settled mixedDisk mixedFlags (some ⟨"out"⟩) = .ok (settings, outcomes) ∧
        outcomes.map Outcome.isFailure = [false, true, false] ∧
        run mixedDisk ("generate" :: mixedArguments ++ ["-o", "out"]) = (left, .report report) ∧
        report.out = ["generated clean.graphql -> out/clean.rs",
          "generated warned.graphql -> out/warned.rs"] ∧
        (∀ location ∈ ["out"] :: mixedFiles, left.get? location ≠ mixedDisk.get? location) ∧
        (∀ location, left.get? location ≠ mixedDisk.get? location →
          (location = ["out"] ∧ left.get? location = some .folder) ∨
            (location ∈ mixedFiles ∧ ∃ bytes, left.get? location = some (.file bytes))) ∧
        ∀ path location entry, mixedDisk.find path = .ok (location, entry) →
          left.find path = .ok (location, entry) := by
  have h : Request.parse? ("generate" :: mixedArguments ++ ["-o", "out"]) =
      some (.generate mixedFlags (some ⟨"out"⟩)) := rfl
  obtain ⟨settings, outcomes, hsettled, hfailures, htargets⟩ := settled_mixed
  obtain ⟨hout, hcome, hlead⟩ := runGenerate_mixed
  obtain ⟨left, report, hrun, -, hlaw⟩ :=
    only_generated_files_and_folders_above_change mixedDisk _ _ _ h
  obtain ⟨-, writings, -, horigin, hchanged, hfound⟩ := hlaw settings outcomes hsettled
  have hends := run_of_parse? mixedDisk h
  rw [hrun, Prod.mk.injEq, Answer.report.injEq] at hends
  obtain ⟨hleft, hreport⟩ := hends
  rw [← hreport] at hout
  rw [← hleft] at hcome hlead
  have hfiles : ∀ writing ∈ writings, writing.location ∈ mixedFiles := by
    intro writing hwriting
    obtain ⟨hthere, outcome, houtcome, generated, hresult, -, -, htarget⟩ :=
      horigin writing hwriting
    have hok : outcome.isFailure = false := by rw [Outcome.isFailure, hresult]
    exact (hlead _ (htarget ▸ htargets outcome houtcome hok)).1 _ hthere
  refine ⟨h, settings, outcomes, left, report, hsettled, hfailures, hrun, hout, ?_, ?_, ?_⟩
  · intro location hlocation hsame
    obtain ⟨hnone, hsome⟩ := hcome location hlocation
    rw [hsame, Option.isNone_iff_eq_none.1 hnone] at hsome
    cases hsome
  · intro location hdiffers
    rcases hchanged location hdiffers with ⟨-, hfile, writing, hwriting, rfl⟩ |
      ⟨-, hfolder, outcome, houtcome, hok, ⟨folder, habove, hthere⟩, -⟩
    · exact .inr ⟨hfiles writing hwriting, hfile⟩
    · exact .inl ⟨(hlead _ (htargets outcome houtcome hok)).2 folder habove _ hthere, hfolder⟩
  · intro path location entry hfind
    refine hfound path location entry hfind (fun writing hwriting hat => ?_)
    obtain ⟨hnone, -⟩ := hcome _ (List.mem_cons_of_mem _ (hfiles writing hwriting))
    rw [hat, (Disk.find_eq_ok.1 hfind).2] at hnone
    cases hnone

end OperationModels.Command
