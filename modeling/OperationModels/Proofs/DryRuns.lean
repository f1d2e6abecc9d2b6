-- `check` as a dry run of `generate`. Both find the same schema and the same
-- documents, so they tell the same of them as long as `generate` can write what
-- it makes; and `check` leaves the disk alone.
import OperationModels.Proofs.DocumentReports

namespace OperationModels

open Files

/-! ## The same documents -/

/-- The output folder decides nothing but where the models go. -/
theorem Settings.resolve_outDir (flags : InputFlags) (outDir : Option Path)
    (config : Option Config) (folder : Path) :
    Settings.resolve flags outDir config folder =
      (Settings.resolve flags none config folder).map
        (fun settings => { settings with outDir := outDir <|> (config.getD .none).outDir }) := by
  unfold Settings.resolve
  dsimp only
  cases flags.schema <|> (config.getD .none).schema with
  | none => rfl
  | some name =>
    cases (Settings.firstNonEmpty flags.operations (config.getD .none).operations).isEmpty with
    | true => rfl
    | false =>
      cases Settings.chooseSource flags.variableSource (config.getD .none).variableSource with
      | error fault => rfl
      | ok source => rfl

namespace Command

/-- The outcomes of a command do not depend on its output folder. -/
theorem map_snd_settled (disk : Disk) (flags : InputFlags) (outDir : Option Path) :
    (settled disk flags outDir).map Prod.snd = (settled disk flags none).map Prod.snd := by
  unfold settled settingsOf
  cases (Config.discover disk flags.config disk.herePath).mapError Config.Fault.message with
  | error message => rfl
  | ok config =>
    simp only [bind, Except.bind]
    rw [Settings.resolve_outDir]
    cases Settings.resolve flags none config disk.herePath with
    | error fault => rfl
    | ok settings =>
      simp only [Except.map, Except.mapError]
      have hsame : outcomes disk
          { settings with outDir := outDir <|> (config.getD .none).outDir } =
            outcomes disk settings := rfl
      rw [hsame]
      cases outcomes disk settings with
      | error message => rfl
      | ok found => rfl

/-! ## The same report -/

/-- Are the models of every document that has some written, when its turn
comes? -/
def everyWriteSucceeds (disk : Disk) (outDir : Option Path) : List Outcome → Bool
  | [] => true
  | outcome :: rest =>
    let (left, fault) := writeOutcome disk outDir outcome
    (outcome.isFailure || fault.isNone) && everyWriteSucceeds left outDir rest

/-- Of a document whose models are written, or that has none, `generate` tells
what `check` tells. -/
theorem toldOn_of_written {disk : Disk} {outDir : Option Path} {outcome : Outcome}
    (h : (outcome.isFailure || (writeOutcome disk outDir outcome).2.isNone) = true) :
    (toldOn disk outDir outcome).notes = (checkOutcome outcome).notes ∧
      (toldOn disk outDir outcome).isError = outcome.isFailure := by
  unfold toldOn
  cases hresult : outcome.result with
  | error failure =>
    simp [writeOutcome, Outcome.told, Outcome.warningNotes, checkOutcome, Told.isError,
      Outcome.isFailure, hresult]
  | ok generated =>
    have hnone : (writeOutcome disk outDir outcome).2 = none := by
      simpa [Outcome.isFailure, hresult] using h
    rw [hnone]
    cases hwarnings : generated.warnings <;>
      simp [Outcome.told, Outcome.warningNotes, checkOutcome, warningNotes, Told.isError,
        Outcome.isFailure, hresult, hwarnings]

/-- The same of several documents. -/
theorem toldAll_of_everyWriteSucceeds {disk : Disk} {outDir : Option Path}
    {outcomes : List Outcome} (h : everyWriteSucceeds disk outDir outcomes = true) :
    (toldAll disk outDir outcomes).flatMap Told.notes =
        (outcomes.map checkOutcome).flatMap Told.notes ∧
      (toldAll disk outDir outcomes).countP Told.isError =
        outcomes.countP Outcome.isFailure := by
  induction outcomes generalizing disk with
  | nil => exact ⟨rfl, rfl⟩
  | cons outcome rest ih =>
    unfold everyWriteSucceeds at h
    dsimp only at h
    rw [Bool.and_eq_true] at h
    obtain ⟨hnotes, herror⟩ := toldOn_of_written h.1
    obtain ⟨hrest, hcount⟩ := ih h.2
    rw [toldAll, List.map_cons, List.flatMap_cons, List.flatMap_cons, List.countP_cons,
      List.countP_cons, hnotes, herror, hrest, hcount]
    exact ⟨rfl, rfl⟩

/-- What `check` shows on the error channel, and how it ends. -/
theorem runCheck_eq {disk : Disk} {flags : InputFlags} {settings : Settings}
    {outcomes : List Outcome} (h : settled disk flags none = .ok (settings, outcomes)) :
    (runCheck disk flags false).exit =
        (if outcomes.countP Outcome.isFailure = 0 then 0 else 1) ∧
      (runCheck disk flags false).lines =
        linesOf ((outcomes.map checkOutcome).flatMap Told.notes) ++
          if outcomes.countP Outcome.isFailure = 0 then []
          else [failedMessage (outcomes.countP Outcome.isFailure) outcomes.length] := by
  unfold runCheck
  rw [h]
  by_cases hnone : outcomes.countP Outcome.isFailure = 0
  · simp only [hnone, ne_eq, not_true_eq_false, if_false, Bool.false_and, Bool.false_eq_true,
      if_true, List.append_nil, true_and]
    exact (linesOf_append _ _).trans (by rw [linesOf_settledEvents, List.nil_append])
  · simp only [hnone, ne_eq, not_false_eq_true, if_true, if_false]
    refine ⟨rfl, ?_⟩
    rw [lines_failed, linesOf_append, linesOf_settledEvents, List.nil_append]

/-- Both commands end alike when the settings, the schema or the documents
cannot be had. -/
theorem runCheck_of_error {disk : Disk} {flags : InputFlags} {message : String}
    (h : settled disk flags none = .error message) :
    (runCheck disk flags false).exit = 1 ∧ (runCheck disk flags false).lines = [message] := by
  unfold runCheck
  rw [h]
  refine ⟨rfl, ?_⟩
  rw [lines_failed, linesOf_settledEvents, List.nil_append]

theorem run_of_parse?_check (disk : Disk) {arguments : List String} {flags : InputFlags}
    {denyWarnings : Bool} (h : Request.parse? arguments = some (.check flags denyWarnings)) :
    run disk arguments = (disk, .report (runCheck disk flags denyWarnings)) := by
  unfold run
  rw [h]

/-- With every write of `generate` done, both end alike and show the same
lines. -/
theorem runCheck_alike_runGenerate {disk : Disk} {flags : InputFlags} {outDir : Option Path}
    (h : ∀ settings outcomes, settled disk flags outDir = .ok (settings, outcomes) →
      everyWriteSucceeds disk settings.outDir outcomes = true) :
    (runCheck disk flags false).exit = (runGenerate disk flags outDir).2.exit ∧
      (runCheck disk flags false).lines = (runGenerate disk flags outDir).2.lines := by
  have hsame := map_snd_settled disk flags outDir
  cases hgenerate : settled disk flags outDir with
  | error message =>
    rw [hgenerate] at hsame
    cases hcheck : settled disk flags none with
    | ok found =>
      rw [hcheck] at hsame
      cases hsame
    | error other =>
      rw [hcheck] at hsame
      cases hsame
      obtain ⟨hexit, hlines⟩ := runCheck_of_error hcheck
      rw [runGenerate_of_error hgenerate, hexit, hlines, lines_failed, linesOf_settledEvents]
      exact ⟨rfl, rfl⟩
  | ok found =>
    obtain ⟨settings, outcomes⟩ := found
    rw [hgenerate] at hsame
    obtain ⟨⟨own, _⟩, hcheck, rfl⟩ := map_eq_ok.1 hsame.symm
    obtain ⟨hexit, hlines⟩ := runCheck_eq hcheck
    obtain ⟨hnotes, hcount⟩ := toldAll_of_everyWriteSucceeds (h settings _ hgenerate)
    rw [runGenerate_eq_telling hgenerate, hexit, hlines, Progress.exit_report,
      Progress.lines_report, Progress.linesOf_telling _ (linesOf_settledEvents _ _ _), hnotes]
    unfold Progress.telling
    rw [hcount]
    exact ⟨rfl, rfl⟩

/-! ## The law -/

/-- `check` is a dry run of `generate`: on the same disk and with the same
flags it leaves the disk as it is and, unless warnings are denied, ends as
`generate` does and shows the same lines on the error channel, if `generate`
can write all that it makes. The disk is one without links on which every entry
can be opened, so both commands read the same of it. -/
theorem check_tells_what_generate_tells (disk : Disk) (generating checking : List String)
    (flags : InputFlags) (outDir : Option Path) (denyWarnings : Bool)
    (hgenerating : Request.parse? generating = some (.generate flags outDir))
    (hchecking : Request.parse? checking = some (.check flags denyWarnings)) :
    ∃ left made checked, run disk generating = (left, .report made) ∧
      run disk checking = (disk, .report checked) ∧
      ((∀ settings outcomes, settled disk flags outDir = .ok (settings, outcomes) →
          everyWriteSucceeds disk settings.outDir outcomes = true) →
        denyWarnings = false → checked.exit = made.exit ∧ checked.lines = made.lines) := by
  refine ⟨_, _, _, run_of_parse? disk hgenerating, run_of_parse?_check disk hchecking, ?_⟩
  rintro hwritten rfl
  exact runCheck_alike_runGenerate hwritten

/-- A schema and three documents: one that gives models, one that asks for a
field that is not there, and one with a directive. -/
def mixedDisk : Disk where
  entries := .ofList
    [(["api.graphql"], .file "type Query \x7b a: Int \x7d".toUTF8),
      (["clean.graphql"], .file "{ a }".toUTF8),
      (["failing.graphql"], .file "{ b }".toUTF8),
      (["warned.graphql"], .file "\x7b a @live \x7d".toUTF8)]
  here := []

/-- The flags that name the documents and the schema. -/
def mixedFlags : InputFlags where
  schema := some "api"
  schemaDirs := []
  config := none
  variableSource := none
  operationName := none
  operations := [⟨"clean.graphql"⟩, ⟨"failing.graphql"⟩, ⟨"warned.graphql"⟩]

theorem settled_mixed_writes :
    ∀ settings outcomes, settled mixedDisk mixedFlags (some ⟨"out"⟩) = .ok (settings, outcomes) →
      everyWriteSucceeds mixedDisk settings.outDir outcomes = true := by
  have hany : (settled mixedDisk mixedFlags (some ⟨"out"⟩)).toOption.any (fun found =>
      everyWriteSucceeds mixedDisk found.1.outDir found.2) = true := by
    decide +kernel
  intro settings outcomes hsettled
  rw [hsettled] at hany
  exact hany

/-- The arguments that give the documents and the schema. -/
def mixedArguments : List String :=
  ["clean.graphql", "failing.graphql", "warned.graphql", "-s", "api"]

theorem check_of_three_documents_tells_what_generate_tells :
    ∃ left made checked,
      run mixedDisk ("generate" :: mixedArguments ++ ["-o", "out"]) = (left, .report made) ∧
        run mixedDisk ("check" :: mixedArguments) = (mixedDisk, .report checked) ∧
        checked.exit = made.exit ∧ checked.lines = made.lines := by
  have hgenerating : Request.parse? ("generate" :: mixedArguments ++ ["-o", "out"]) =
      some (.generate mixedFlags (some ⟨"out"⟩)) := rfl
  have hchecking : Request.parse? ("check" :: mixedArguments) =
      some (.check mixedFlags false) := rfl
  obtain ⟨left, made, checked, hmade, hchecked, halike⟩ :=
    check_tells_what_generate_tells mixedDisk _ _ _ _ _ hgenerating hchecking
  exact ⟨left, made, checked, hmade, hchecked, halike settled_mixed_writes rfl⟩

end Command

end OperationModels
