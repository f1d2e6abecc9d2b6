-- What a run of `generate` tells, document by document. Of each document it
-- tells one thing: that its models were written, or why there are none on the
-- disk. The report of a run is what it tells of its documents, in their order,
-- and at the end how many failed.
import OperationModels.Proofs.GeneratedFiles

namespace OperationModels.Command

open Files

/-! ## Lines -/

/-- The text of a note that is no event of the log. -/
def Note.line? : Note → Option String
  | .line text => some text
  | .event _ => none

/-- The lines on the error channel, without the log. -/
def linesOf (notes : List Note) : List String := notes.filterMap Note.line?

def Report.lines (report : Report) : List String := linesOf report.notes

theorem linesOf_append (first second : List Note) :
    linesOf (first ++ second) = linesOf first ++ linesOf second := List.filterMap_append

theorem linesOf_events (events : List Log.Event) : linesOf (events.map .event) = [] := by
  unfold linesOf
  rw [List.filterMap_map, List.filterMap_eq_nil_iff]
  intro event _
  rfl

theorem linesOf_settledEvents (disk : Disk) (flags : InputFlags) (outDir : Option Path) :
    linesOf (settledEvents disk flags outDir) = [] := linesOf_events _

theorem lines_failed (notes : List Note) (out : List String) (message : String) :
    (failed notes out message).lines = linesOf notes ++ [message] := linesOf_append _ _

/-! ## One document -/

/-- Write what came out of a document. Gives the disk as it is left, and what
is told if the document failed. -/
def writeOutcome (disk : Disk) (outDir : Option Path) (outcome : Outcome) :
    Disk × Option String :=
  match outcome.result with
  | .error failure => (disk, some failure.message)
  | .ok generated => writeOutput disk (outputPath outcome.document outDir) generated.source

/-- The warnings of a document that gave models. -/
def Outcome.warningNotes (outcome : Outcome) : List Note :=
  match outcome.result with
  | .error _ => []
  | .ok generated => Command.warningNotes outcome.document generated

/-- What `generate` tells of a document that failed with a message, or did not
fail. -/
def Outcome.told (outcome : Outcome) (outDir : Option Path) : Option String → Told
  | some message => ⟨[], outcome.warningNotes ++ [errorNote outcome.document message]⟩
  | none =>
    ⟨[s!"generated {outcome.document.text} -> {(outputPath outcome.document outDir).text}"],
      outcome.warningNotes⟩

/-- Is a document told to have failed? Then nothing was written for it. -/
def Told.isError (told : Told) : Bool := told.out.isEmpty

theorem Outcome.isError_told (outcome : Outcome) (outDir : Option Path)
    (fault : Option String) : (outcome.told outDir fault).isError = fault.isSome := by
  cases fault <;> rfl

/-- What is told of a document when its turn comes. -/
def toldOn (disk : Disk) (outDir : Option Path) (outcome : Outcome) : Told :=
  outcome.told outDir (writeOutcome disk outDir outcome).2

theorem Progress.write_eq (progress : Progress) (outDir : Option Path) (outcome : Outcome) :
    progress.write outDir outcome =
      { disk := (writeOutcome progress.disk outDir outcome).1
        out := progress.out ++ (toldOn progress.disk outDir outcome).out
        notes := progress.notes ++ (toldOn progress.disk outDir outcome).notes
        failures := progress.failures +
          (toldOn progress.disk outDir outcome).isError.toNat } := by
  unfold Progress.write toldOn writeOutcome
  cases hresult : outcome.result with
  | error failure => simp [Outcome.told, Outcome.warningNotes, hresult, Told.isError]
  | ok generated =>
    dsimp only
    rcases writeOutput progress.disk (outputPath outcome.document outDir) generated.source with
      ⟨left, none | message⟩
    · simp [Outcome.told, Outcome.warningNotes, hresult, Told.isError]
    · simp [Outcome.told, Outcome.warningNotes, hresult, Told.isError]

/-! ## A run -/

/-- The disk behind some documents, written one after the other. -/
def diskAfter (disk : Disk) (outDir : Option Path) (outcomes : List Outcome) : Disk :=
  outcomes.foldl (fun known outcome => (writeOutcome known outDir outcome).1) disk

/-- What is told of some documents, written one after the other. -/
def toldAll (disk : Disk) (outDir : Option Path) : List Outcome → List Told
  | [] => []
  | outcome :: rest =>
    toldOn disk outDir outcome :: toldAll (writeOutcome disk outDir outcome).1 outDir rest

/-- A run on its way behind some documents of which the given things are told. -/
def Progress.telling (disk : Disk) (notes : List Note) (told : List Told) : Progress :=
  ⟨disk, told.flatMap Told.out, notes ++ told.flatMap Told.notes, told.countP Told.isError⟩

theorem Progress.writeAll_telling (disk : Disk) (notes : List Note) (known : List Told)
    (outDir : Option Path) (outcomes : List Outcome) :
    (Progress.telling disk notes known).writeAll outDir outcomes =
      .telling (diskAfter disk outDir outcomes) notes (known ++ toldAll disk outDir outcomes) := by
  induction outcomes generalizing disk known with
  | nil => simp [Progress.writeAll, diskAfter, toldAll]
  | cons outcome rest ih =>
    have hone : (Progress.telling disk notes known).write outDir outcome =
        .telling (writeOutcome disk outDir outcome).1 notes
          (known ++ [toldOn disk outDir outcome]) := by
      rw [Progress.write_eq]
      cases hfailed : (toldOn disk outDir outcome).isError <;>
        simp [Progress.telling, hfailed]
    unfold Progress.writeAll at *
    rw [List.foldl_cons, hone, ih, toldAll, List.append_assoc]
    rfl

/-- What a run of `generate` leaves, and its report from what is told of each
document. -/
theorem runGenerate_eq_telling {disk : Disk} {flags : InputFlags} {outDir : Option Path}
    {settings : Settings} {outcomes : List Outcome}
    (h : settled disk flags outDir = .ok (settings, outcomes)) :
    runGenerate disk flags outDir =
      (diskAfter disk settings.outDir outcomes,
        (Progress.telling (diskAfter disk settings.outDir outcomes)
          (settledEvents disk flags outDir)
          (toldAll disk settings.outDir outcomes)).report outcomes.length) := by
  have hstart : (⟨disk, [], settledEvents disk flags outDir, 0⟩ : Progress) =
      .telling disk (settledEvents disk flags outDir) [] := by
    simp [Progress.telling]
  rw [runGenerate_of_settled h]
  dsimp only
  rw [hstart, Progress.writeAll_telling, List.nil_append]
  rfl

/-! ## The end of a run -/

theorem Progress.exit_report (progress : Progress) (total : Nat) :
    (progress.report total).exit = if progress.failures = 0 then 0 else 1 := by
  unfold Progress.report failed
  split <;> rfl

/-- The last line of a run with failures tells how many documents failed. -/
theorem Progress.lines_report (progress : Progress) (total : Nat) :
    (progress.report total).lines = linesOf progress.notes ++
      if progress.failures = 0 then [] else [failedMessage progress.failures total] := by
  unfold Progress.report
  split
  · exact linesOf_append _ _
  · exact lines_failed _ _ _

theorem Progress.linesOf_telling (disk : Disk) {notes : List Note} (hnotes : linesOf notes = [])
    (told : List Told) :
    linesOf (Progress.telling disk notes told).notes = linesOf (told.flatMap Told.notes) := by
  show linesOf (notes ++ told.flatMap Told.notes) = _
  rw [linesOf_append, hnotes, List.nil_append]

end OperationModels.Command
