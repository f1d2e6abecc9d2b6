-- What a run of `generate` leaves on the disk. Each line that it shows tells
-- of a file that it wrote, and that file ends up with the models of the
-- document that was written there last. So every document keeps its models
-- exactly if the documents that share a file have the same ones.
import OperationModels.Command.Run
import OperationModels.Proofs.DiskGrowth

namespace OperationModels.Command

open Files

/-! ## Written files -/

/-- One file that a run wrote: the document, the path of the file as it is
shown, where that path leads, and the models. -/
structure Writing where
  document : Path
  target : Path
  location : Location
  source : String

namespace Writing

/-- What is shown of it. -/
def line (writing : Writing) : String :=
  s!"generated {writing.document.text} -> {writing.target.text}"

/-- The models came out of the document, and went to the file of the document. -/
def ComesFrom (writing : Writing) (outDir : Option Path) (outcome : Outcome) : Prop :=
  ∃ generated, outcome.result = .ok generated ∧ writing.document = outcome.document ∧
    writing.source = generated.source ∧ writing.target = outputPath outcome.document outDir

/-- What was written last at a location. -/
def lastAt? (writings : List Writing) (location : Location) : Option Writing :=
  (writings.filter (fun writing => writing.location = location)).getLast?

theorem lastAt?_snoc (writings : List Writing) (writing : Writing) (location : Location) :
    lastAt? (writings ++ [writing]) location =
      if writing.location = location then some writing else lastAt? writings location := by
  unfold lastAt?
  rw [List.filter_append]
  by_cases hsame : writing.location = location
  · rw [if_pos hsame, List.filter_singleton, decide_eq_true hsame, cond_true, List.getLast?_concat]
  · rw [if_neg hsame, List.filter_singleton, decide_eq_false hsame, cond_false, List.append_nil]

theorem of_lastAt?_eq_some {writings : List Writing} {location : Location} {last : Writing}
    (h : lastAt? writings location = some last) : last ∈ writings ∧ last.location = location := by
  have hmem := List.mem_of_getLast? h
  rw [List.mem_filter, decide_eq_true_eq] at hmem
  exact hmem

theorem exists_lastAt? {writings : List Writing} {writing : Writing} (h : writing ∈ writings) :
    ∃ last, lastAt? writings writing.location = some last := by
  cases hlast : lastAt? writings writing.location with
  | some last => exact ⟨last, rfl⟩
  | none =>
    unfold lastAt? at hlast
    rw [List.getLast?_eq_none_iff, List.filter_eq_nil_iff] at hlast
    exact absurd (decide_eq_true rfl) (hlast writing h)

end Writing

/-! ## One document -/

/-- To make the folders of a file is to make the folder that it lies in. -/
theorem makeFoldersOf_of_parent? (disk : Disk) {target folder : Path}
    (h : target.parent? = some folder) :
    makeFoldersOf disk target =
      ((disk.createFolders folder).1, (disk.createFolders folder).2.map
        (fun fault => s!"Failed to create {folder.text}: {fault.message}")) := by
  unfold makeFoldersOf
  rw [h, Option.filter_some]
  by_cases hempty : folder.text = ""
  · rw [if_neg (by simp [hempty]), Disk.createFolders_empty disk hempty]
    rfl
  · rw [if_pos (by simp [hempty])]
    dsimp only
    rcases disk.createFolders folder with ⟨made, none | fault⟩ <;> rfl

/-- The folders that a file lies in, as they are made for it. -/
def foldersAbove (target : Path) : List Path := (target.parent?.map Path.ancestors).getD []

/-- To make the folders of a file changes nothing else. -/
theorem changes_makeFoldersOf (disk : Disk) (target : Path) :
    disk.Changes (makeFoldersOf disk target).1 [] (foldersAbove target) := by
  unfold foldersAbove
  cases hparent : target.parent? with
  | none =>
    unfold makeFoldersOf
    rw [hparent]
    exact .refl disk
  | some folder =>
    rw [makeFoldersOf_of_parent? disk hparent]
    exact disk.changes_createFolders folder

/-- A file that was written holds the source, and only that file and the
folders above it changed. -/
theorem holds_of_writeOutput {disk left : Disk} {target : Path} {source : String}
    (h : writeOutput disk target source = (left, none)) :
    ∃ location, disk.Changes left [location] (foldersAbove target) ∧
      left.Holds target location source := by
  have hmade := changes_makeFoldersOf disk target
  unfold writeOutput at h
  split at h
  · cases h
  · rename_i made hfolders
    rw [hfolders] at hmade
    split at h
    · rename_i written hwritten
      cases h
      obtain ⟨location, hchanges, hholds⟩ := Disk.writeText_eq_ok hwritten
      have hboth := hmade.trans hchanges
      rw [List.append_nil] at hboth
      exact ⟨location, hboth, hholds⟩
    · cases h

/-- Where a file could not be written, at most folders above it came. -/
theorem changes_of_writeOutput {disk left : Disk} {target : Path} {source message : String}
    (h : writeOutput disk target source = (left, some message)) :
    disk.Changes left [] (foldersAbove target) := by
  have hmade := changes_makeFoldersOf disk target
  unfold writeOutput at h
  split at h
  · rename_i made known hfolders
    rw [hfolders] at hmade
    cases h
    exact hmade
  · rename_i made hfolders
    rw [hfolders] at hmade
    split at h
    · cases h
    · cases h
      exact hmade

/-- The folders that may be made for a document: those above its file, if it
gave models. -/
def Outcome.folders (outDir : Option Path) (outcome : Outcome) : List Path :=
  match outcome.result with
  | .error _ => []
  | .ok _ => foldersAbove (outputPath outcome.document outDir)

/-- One document is written and shown, and only its file changes, or it counts
as a failure and no file changes. -/
theorem Progress.write_cases (progress : Progress) (outDir : Option Path) (outcome : Outcome) :
    (∃ writing : Writing, writing.ComesFrom outDir outcome ∧
      (progress.write outDir outcome).out = progress.out ++ [writing.line] ∧
      (progress.write outDir outcome).failures = progress.failures ∧
      progress.disk.Changes (progress.write outDir outcome).disk [writing.location]
        (outcome.folders outDir) ∧
      (progress.write outDir outcome).disk.Holds writing.target writing.location
        writing.source) ∨
    (progress.write outDir outcome).out = progress.out ∧
      (progress.write outDir outcome).failures = progress.failures + 1 ∧
      progress.disk.Changes (progress.write outDir outcome).disk [] (outcome.folders outDir) := by
  unfold Progress.write Outcome.folders
  cases hresult : outcome.result with
  | error failure => exact .inr ⟨rfl, rfl, .refl _⟩
  | ok generated =>
    dsimp only
    cases hwrite : writeOutput progress.disk (outputPath outcome.document outDir)
        generated.source with
    | mk left told =>
      cases told with
      | some message => exact .inr ⟨rfl, rfl, changes_of_writeOutput hwrite⟩
      | none =>
        obtain ⟨location, hchanges, hholds⟩ := holds_of_writeOutput hwrite
        let writing : Writing :=
          ⟨outcome.document, outputPath outcome.document outDir, location, generated.source⟩
        have hcomes : writing.ComesFrom outDir outcome := ⟨generated, hresult, rfl, rfl, rfl⟩
        exact .inl ⟨writing, hcomes, rfl, rfl, hchanges, hholds⟩

/-! ## A run -/

/-- A run accounts for what it shows: each line is of a writing that came out
of a document, a target still leads where it led, and there stands what was
written last. -/
structure Progress.Accounts (progress : Progress) (outDir : Option Path)
    (outcomes : List Outcome) (writings : List Writing) : Prop where
  shown : progress.out = writings.map Writing.line
  origin : ∀ writing ∈ writings, ∃ outcome ∈ outcomes, writing.ComesFrom outDir outcome
  reached : ∀ writing ∈ writings,
    progress.disk.reach writing.target writing.target.segments = .ok writing.location
  stands : ∀ location last, Writing.lastAt? writings location = some last →
    progress.disk.get? location = some (.file last.source.toUTF8)

/-- What a run accounts for stays when its disk keeps what is there. -/
theorem Progress.Accounts.of_keeps {progress next : Progress} {outDir : Option Path}
    {outcomes : List Outcome} {writings : List Writing}
    (h : progress.Accounts outDir outcomes writings) (hout : next.out = progress.out)
    (hkeeps : progress.disk.Keeps next.disk []) : next.Accounts outDir outcomes writings where
  shown := hout.trans h.shown
  origin := h.origin
  reached writing hwriting := hkeeps.reach (h.reached writing hwriting)
  stands location last hlast := hkeeps.entry _ _ (by simp) (h.stands location last hlast)

/-- One more written file is one more writing. -/
theorem Progress.Accounts.snoc {progress next : Progress} {outDir : Option Path}
    {outcomes : List Outcome} {writings : List Writing} {writing : Writing}
    (h : progress.Accounts outDir outcomes writings)
    (hout : next.out = progress.out ++ [writing.line])
    (horigin : ∃ outcome ∈ outcomes, writing.ComesFrom outDir outcome)
    (hkeeps : progress.disk.Keeps next.disk [writing.location])
    (hholds : next.disk.Holds writing.target writing.location writing.source) :
    next.Accounts outDir outcomes (writings ++ [writing]) := by
  refine ⟨?_, ?_, ?_, ?_⟩
  · rw [hout, h.shown, List.map_append, List.map_singleton]
  · rw [List.forall_mem_append, List.forall_mem_singleton]
    exact ⟨h.origin, horigin⟩
  · rw [List.forall_mem_append, List.forall_mem_singleton]
    exact ⟨fun known hknown => hkeeps.reach (h.reached known hknown), hholds.reached⟩
  · intro location last hlast
    rw [Writing.lastAt?_snoc] at hlast
    by_cases hsame : writing.location = location
    · rw [if_pos hsame] at hlast
      cases hlast
      rw [← hsame]
      exact hholds.stands
    · rw [if_neg hsame] at hlast
      have hother : location ∉ [writing.location] := by
        rw [List.mem_singleton]
        exact fun h => hsame h.symm
      exact hkeeps.entry _ _ hother (h.stands location last hlast)

/-- A run accounts for what it shows after one more document. What changed is
the file of one more writing, if there is one, and the folders above it. -/
theorem Progress.Accounts.write {progress : Progress} {outDir : Option Path}
    {outcomes : List Outcome} {writings : List Writing} {outcome : Outcome}
    (h : progress.Accounts outDir outcomes writings) (houtcome : outcome ∈ outcomes) :
    ∃ more, (progress.write outDir outcome).Accounts outDir outcomes (writings ++ more) ∧
      progress.disk.Changes (progress.write outDir outcome).disk (more.map Writing.location)
        (outcome.folders outDir) := by
  rcases progress.write_cases outDir outcome with
    ⟨writing, hcomes, hout, -, hchanges, hholds⟩ | ⟨hout, -, hchanges⟩
  · have horigin : ∃ outcome ∈ outcomes, writing.ComesFrom outDir outcome :=
      ⟨outcome, houtcome, hcomes⟩
    exact ⟨[writing], h.snoc hout horigin hchanges.keeps hholds, hchanges⟩
  · refine ⟨[], ?_, hchanges⟩
    rw [List.append_nil]
    exact h.of_keeps hout hchanges.keeps

/-- A run accounts for what it shows after any number of documents. -/
theorem Progress.Accounts.writeAll {outDir : Option Path} {outcomes : List Outcome}
    (rest : List Outcome) (hrest : ∀ outcome ∈ rest, outcome ∈ outcomes) {progress : Progress}
    {writings : List Writing} (h : progress.Accounts outDir outcomes writings) :
    ∃ more, (progress.writeAll outDir rest).Accounts outDir outcomes (writings ++ more) ∧
      progress.disk.Changes (progress.writeAll outDir rest).disk (more.map Writing.location)
        (rest.flatMap (Outcome.folders outDir)) := by
  induction rest generalizing progress writings with
  | nil =>
    refine ⟨[], ?_, .refl _⟩
    rw [List.append_nil]
    exact h
  | cons outcome rest ih =>
    rw [List.forall_mem_cons] at hrest
    obtain ⟨first, hfirst, hone⟩ := h.write hrest.1
    obtain ⟨later, hlater, hothers⟩ := ih hrest.2 hfirst
    refine ⟨first ++ later, ?_, ?_⟩
    · rw [← List.append_assoc]
      exact hlater
    · rw [List.map_append, List.flatMap_cons]
      exact hone.trans hothers

/-- What is shown at the end is what was shown on the way. -/
theorem Progress.out_report (progress : Progress) (total : Nat) :
    (progress.report total).out = progress.out := by
  unfold Progress.report failed
  split <;> rfl

/-- A document whose models are written without a failure has them in its file. -/
theorem Progress.holds_of_write {progress : Progress} {outDir : Option Path}
    {outcome : Outcome} {generated : Generated} (hresult : outcome.result = .ok generated)
    (h : (progress.write outDir outcome).failures = 0) :
    ∃ location, (progress.write outDir outcome).disk.Holds
      (outputPath outcome.document outDir) location generated.source := by
  rcases progress.write_cases outDir outcome with
    ⟨writing, hcomes, -, -, -, hholds⟩ | ⟨-, hfailures, -⟩
  · obtain ⟨known, hknown, -, hsource, htarget⟩ := hcomes
    rw [hresult, Except.ok.injEq] at hknown
    subst hknown
    rw [hsource, htarget] at hholds
    exact ⟨writing.location, hholds⟩
  · omega

/-- The last of several documents has its models in its file, if all of them
are written without a failure. -/
theorem Progress.holds_of_writeAll (progress : Progress) (outDir : Option Path)
    (before : List Outcome) {outcome : Outcome} {generated : Generated}
    (hresult : outcome.result = .ok generated)
    (h : (progress.writeAll outDir (before ++ [outcome])).failures = 0) :
    ∃ location, (progress.writeAll outDir (before ++ [outcome])).disk.Holds
      (outputPath outcome.document outDir) location generated.source := by
  unfold Progress.writeAll at *
  rw [List.foldl_append] at *
  exact Progress.holds_of_write hresult h

theorem Progress.failures_eq_zero {progress : Progress} {total : Nat}
    (h : (progress.report total).exit = 0) : progress.failures = 0 := by
  by_contra hfailures
  unfold Progress.report at h
  rw [if_neg hfailures] at h
  cases h

/-- A run that wrote nothing yet has nothing to account for. -/
theorem accounts_nil (disk : Disk) (notes : List Note) (outDir : Option Path)
    (outcomes : List Outcome) : Progress.Accounts ⟨disk, [], notes, 0⟩ outDir outcomes [] where
  shown := rfl
  origin _ h := nomatch h
  reached _ h := nomatch h
  stands _ _ h := nomatch h

/-- What stands at the target of a writing is what was written there last. -/
theorem Progress.Accounts.holds_last {progress : Progress} {outDir : Option Path}
    {outcomes : List Outcome} {writings : List Writing} {writing : Writing}
    (h : progress.Accounts outDir outcomes writings) (hwriting : writing ∈ writings) :
    ∃ last ∈ writings, Writing.lastAt? writings writing.location = some last ∧
      last.location = writing.location ∧
      progress.disk.Holds writing.target writing.location last.source := by
  obtain ⟨last, hlast⟩ := Writing.exists_lastAt? hwriting
  obtain ⟨hmem, hlocation⟩ := Writing.of_lastAt?_eq_some hlast
  exact ⟨last, hmem, hlast, hlocation, h.reached writing hwriting, h.stands _ last hlast⟩

/-- All that is shown is true at the end exactly if writings in one place have
one source. -/
theorem Progress.Accounts.all_read_iff {progress : Progress} {outDir : Option Path}
    {outcomes : List Outcome} {writings : List Writing}
    (h : progress.Accounts outDir outcomes writings) :
    (∀ writing ∈ writings, progress.disk.readText writing.target = .ok writing.source) ↔
      ∀ writing ∈ writings, ∀ other ∈ writings, writing.location = other.location →
        writing.source = other.source := by
  constructor
  · intro hread writing hwriting other hother hsame
    obtain ⟨last, -, hlast, -, hholds⟩ := h.holds_last hwriting
    obtain ⟨known, -, hknown, -, hstands⟩ := h.holds_last hother
    rw [hsame, hknown, Option.some.injEq] at hlast
    subst hlast
    have hfirst := hholds.readText.symm.trans (hread writing hwriting)
    have hsecond := hstands.readText.symm.trans (hread other hother)
    rw [Except.ok.injEq] at hfirst hsecond
    exact hfirst.symm.trans hsecond
  · intro hsources writing hwriting
    obtain ⟨last, hmem, -, hlocation, hholds⟩ := h.holds_last hwriting
    rw [hholds.readText, hsources last hmem writing hwriting hlocation]

theorem run_of_parse? (disk : Disk) {arguments : List String} {flags : InputFlags}
    {outDir : Option Path} (h : Request.parse? arguments = some (.generate flags outDir)) :
    run disk arguments =
      ((runGenerate disk flags outDir).1, .report (runGenerate disk flags outDir).2) := by
  unfold run
  rw [h]

theorem runGenerate_of_settled {disk : Disk} {flags : InputFlags} {outDir : Option Path}
    {settings : Settings} {outcomes : List Outcome}
    (h : settled disk flags outDir = .ok (settings, outcomes)) :
    runGenerate disk flags outDir =
      let progress := Progress.writeAll ⟨disk, [], settledEvents disk flags outDir, 0⟩
        settings.outDir outcomes
      (progress.disk, progress.report outcomes.length) := by
  unfold runGenerate
  rw [h]

theorem runGenerate_of_error {disk : Disk} {flags : InputFlags} {outDir : Option Path}
    {message : String} (h : settled disk flags outDir = .error message) :
    runGenerate disk flags outDir =
      (disk, failed (settledEvents disk flags outDir) [] message) := by
  unfold runGenerate
  rw [h]

/-- The last document of a run without failures has its models in its file. -/
theorem holds_of_runGenerate {disk left : Disk} {flags : InputFlags} {outDir : Option Path}
    {settings : Settings} {report : Report} (before : List Outcome) {outcome : Outcome}
    {generated : Generated}
    (hsettled : settled disk flags outDir = .ok (settings, before ++ [outcome]))
    (hresult : outcome.result = .ok generated)
    (hends : runGenerate disk flags outDir = (left, report)) (hexit : report.exit = 0) :
    ∃ location,
      left.Holds (outputPath outcome.document settings.outDir) location generated.source := by
  rw [runGenerate_of_settled hsettled, Prod.mk.injEq] at hends
  obtain ⟨rfl, rfl⟩ := hends
  exact Progress.holds_of_writeAll _ _ before hresult (Progress.failures_eq_zero hexit)

/-- A run that finds its documents accounts for its report. -/
theorem accounts_of_settled {disk : Disk} {flags : InputFlags} {outDir : Option Path}
    {settings : Settings} {outcomes : List Outcome}
    (h : settled disk flags outDir = .ok (settings, outcomes)) :
    ∃ (progress : Progress) (writings : List Writing),
      runGenerate disk flags outDir = (progress.disk, progress.report outcomes.length) ∧
      progress.Accounts settings.outDir outcomes writings ∧
      disk.Changes progress.disk (writings.map Writing.location)
        (outcomes.flatMap (Outcome.folders settings.outDir)) := by
  have hnone := accounts_nil disk (settledEvents disk flags outDir) settings.outDir outcomes
  obtain ⟨writings, hall, hchanges⟩ := hnone.writeAll outcomes (fun _ houtcome => houtcome)
  exact ⟨_, writings, runGenerate_of_settled h, hall, hchanges⟩

/-! ## The laws -/

/-- Each line of a run of `generate` tells of a file that came out of a
document, and in the end the file holds what was written there last. All of
the lines are true in the end exactly if documents that share a file have the
same models. As no entry of a disk is a link, a file is shared by paths that lead
to one place, and in no other way. -/
theorem lines_hold_iff_shared_files_have_one_source (disk : Disk) (arguments : List String)
    (flags : InputFlags) (outDir : Option Path)
    (h : Request.parse? arguments = some (.generate flags outDir)) :
    ∃ left report writings, run disk arguments = (left, .report report) ∧
      report.out = writings.map Writing.line ∧
      (∀ writing ∈ writings, ∃ settings outcomes,
        settled disk flags outDir = .ok (settings, outcomes) ∧
        ∃ outcome ∈ outcomes, writing.ComesFrom settings.outDir outcome) ∧
      (∀ writing ∈ writings, left.canonical? writing.target = some writing.location ∧
        ∃ last, Writing.lastAt? writings writing.location = some last ∧
          left.readText writing.target = .ok last.source) ∧
      ((∀ writing ∈ writings, left.readText writing.target = .ok writing.source) ↔
        ∀ writing ∈ writings, ∀ other ∈ writings, writing.location = other.location →
          writing.source = other.source) := by
  rw [run_of_parse? disk h]
  cases hsettled : settled disk flags outDir with
  | error message =>
    have hnothing : runGenerate disk flags outDir =
        (disk, failed (settledEvents disk flags outDir) [] message) := by
      unfold runGenerate
      rw [hsettled]
    rw [hnothing]
    exact ⟨_, _, [], rfl, rfl, by simp, by simp, by simp⟩
  | ok found =>
    obtain ⟨settings, outcomes⟩ := found
    obtain ⟨progress, writings, hends, haccounts, -⟩ := accounts_of_settled hsettled
    rw [hends]
    refine ⟨_, _, writings, rfl, ?_, ?_, ?_, haccounts.all_read_iff⟩
    · rw [progress.out_report]
      exact haccounts.shown
    · intro writing hwriting
      exact ⟨settings, outcomes, rfl, haccounts.origin writing hwriting⟩
    · intro writing hwriting
      obtain ⟨last, -, hlast, -, hholds⟩ := haccounts.holds_last hwriting
      exact ⟨hholds.canonical?, last, hlast, hholds.readText⟩


/-- A schema beside two folders, each with a document of the same name. -/
def twinDisk : Disk where
  entries := .ofList
    [(["api.graphql"], .file "type Query \x7b a: Int b: Int \x7d".toUTF8),
      (["p"], .folder), (["p", "x.graphql"], .file "{ a }".toUTF8),
      (["q"], .folder), (["q", "x.graphql"], .file "{ b }".toUTF8)]
  here := []

/-- The flags that name the two folders and the schema. -/
def twinFlags : InputFlags where
  schema := some "api"
  schemaDirs := []
  config := none
  variableSource := none
  operationName := none
  operations := [⟨"p"⟩, ⟨"q"⟩]

/-- The command line that writes what comes out of both into one folder. -/
def twinArguments : List String := ["generate", "p", "q", "--schema", "api", "-o", "out"]

theorem lines_of_two_folders_hold_iff_shared_files_have_one_source :
    Request.parse? twinArguments = some (.generate twinFlags (some ⟨"out"⟩)) ∧
      ∃ left report writings, run twinDisk twinArguments = (left, .report report) ∧
        report.out = writings.map Writing.line ∧
        (∀ writing ∈ writings, ∃ settings outcomes,
          settled twinDisk twinFlags (some ⟨"out"⟩) = .ok (settings, outcomes) ∧
          ∃ outcome ∈ outcomes, writing.ComesFrom settings.outDir outcome) ∧
        (∀ writing ∈ writings, left.canonical? writing.target = some writing.location ∧
          ∃ last, Writing.lastAt? writings writing.location = some last ∧
            left.readText writing.target = .ok last.source) ∧
        ((∀ writing ∈ writings, left.readText writing.target = .ok writing.source) ↔
          ∀ writing ∈ writings, ∀ other ∈ writings, writing.location = other.location →
            writing.source = other.source) := by
  have h : Request.parse? twinArguments = some (.generate twinFlags (some ⟨"out"⟩)) := rfl
  exact ⟨h, lines_hold_iff_shared_files_have_one_source _ _ _ _ h⟩

/-- Are these two documents that both give models, and not the same? -/
def areTwins : List Outcome → Bool
  | [⟨first, .ok generated⟩, ⟨second, .ok other⟩] =>
    first.text = "p/x.graphql" && second.text = "q/x.graphql" && generated.source ≠ other.source
  | _ => false

theorem exists_of_areTwins {outcomes : List Outcome} (h : areTwins outcomes = true) :
    ∃ first second, outcomes =
      [⟨⟨"p/x.graphql"⟩, .ok first⟩, ⟨⟨"q/x.graphql"⟩, .ok second⟩] ∧
        first.source ≠ second.source := by
  unfold areTwins at h
  split at h
  · rename_i one first other second
    simp only [Bool.and_eq_true, decide_eq_true_eq] at h
    obtain ⟨⟨hone, hother⟩, hdiffer⟩ := h
    cases one
    cases other
    cases hone
    cases hother
    exact ⟨first, second, rfl, hdiffer⟩
  · cases h

/-- Both documents give models, and not the same. -/
theorem settled_twins :
    ∃ settings first second, settled twinDisk twinFlags (some ⟨"out"⟩) =
        .ok (settings, [⟨⟨"p/x.graphql"⟩, .ok first⟩, ⟨⟨"q/x.graphql"⟩, .ok second⟩]) ∧
      settings.outDir = some ⟨"out"⟩ ∧ first.source ≠ second.source := by
  have hany : (settled twinDisk twinFlags (some ⟨"out"⟩)).toOption.any (fun found =>
      found.1.outDir = some ⟨"out"⟩ && areTwins found.2) = true := by
    decide +kernel
  generalize settled twinDisk twinFlags (some ⟨"out"⟩) = result at *
  obtain ⟨⟨settings, outcomes⟩, hfound, htest⟩ := exists_of_any_toOption hany
  rw [Bool.and_eq_true, decide_eq_true_eq] at htest
  obtain ⟨hout, htwins⟩ := htest
  obtain ⟨first, second, rfl, hdiffer⟩ := exists_of_areTwins htwins
  exact ⟨settings, first, second, hfound, hout, hdiffer⟩

/-- Two documents of one name go to one file of the output folder. The run
tells of both, and the models of the first are gone. -/
theorem two_documents_of_one_name_share_a_file :
    ∃ settings first second, settled twinDisk twinFlags (some ⟨"out"⟩) =
        .ok (settings, [⟨⟨"p/x.graphql"⟩, .ok first⟩, ⟨⟨"q/x.graphql"⟩, .ok second⟩]) ∧
      ∃ left report, run twinDisk twinArguments = (left, .report report) ∧
        report.exit = 0 ∧
        report.out =
          ["generated p/x.graphql -> out/x.rs", "generated q/x.graphql -> out/x.rs"] ∧
        first.source ≠ second.source ∧ left.readText ⟨"out/x.rs"⟩ = .ok second.source := by
  obtain ⟨settings, first, second, hsettled, hout, hdiffer⟩ := settled_twins
  have hparse : Request.parse? twinArguments = some (.generate twinFlags (some ⟨"out"⟩)) := rfl
  have hreport : (runGenerate twinDisk twinFlags (some ⟨"out"⟩)).2.exit = 0 ∧
      (runGenerate twinDisk twinFlags (some ⟨"out"⟩)).2.out =
        ["generated p/x.graphql -> out/x.rs", "generated q/x.graphql -> out/x.rs"] := by
    decide +kernel
  have htarget : outputPath ⟨"q/x.graphql"⟩ (some ⟨"out"⟩) = ⟨"out/x.rs"⟩ := by decide +kernel
  have hrun := run_of_parse? twinDisk hparse
  generalize hends : runGenerate twinDisk twinFlags (some ⟨"out"⟩) = result at *
  obtain ⟨left, report⟩ := result
  refine ⟨settings, first, second, hsettled, left, report, hrun, hreport.1, hreport.2,
    hdiffer, ?_⟩
  obtain ⟨location, hholds⟩ := holds_of_runGenerate [⟨⟨"p/x.graphql"⟩, .ok first⟩] hsettled rfl
    hends hreport.1
  rw [hout, htarget] at hholds
  exact hholds.readText

end OperationModels.Command
