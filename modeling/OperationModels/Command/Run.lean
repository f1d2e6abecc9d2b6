-- The two commands. `generate` writes the models of every document and
-- `check` only tells what would come of it. A report holds all that a run
-- shows, in order.
import OperationModels.Command.Arguments
import OperationModels.Command.Documents
import OperationModels.Log.Filter

namespace OperationModels.Command

open Files

/-! ## Reports -/

/-- One thing on the error channel: a line, or an event of the log. -/
inductive Note
  | line (text : String)
  | event (event : Log.Event)
deriving DecidableEq, Repr

/-- What a run shows and how it ends. -/
structure Report where
  exit : Nat
  out : List String
  notes : List Note
deriving DecidableEq, Repr

/-- What is told of one document. -/
structure Told where
  out : List String
  notes : List Note
deriving DecidableEq, Repr

def warningNotes (document : Path) (generated : Generated) : List Note :=
  generated.warnings.map (fun warning => .line s!"warning {document.text}: {warning.text}")

def errorNote (document : Path) (message : String) : Note :=
  .line s!"error {document.text}: {message}"

/-- A run that fails with a message. -/
def failed (notes : List Note) (out : List String) (message : String) : Report :=
  ⟨1, out, notes ++ [.line message]⟩

/-- How many documents of a run failed. -/
def failedMessage (count total : Nat) : String :=
  s!"{count} of {total} operation documents failed"

/-- How many documents of a run have warnings. -/
def warnedMessage (count total : Nat) : String :=
  s!"{count} of {total} operation documents have warnings"

/-! ## Settings -/

/-- The settings of a command, or what is told of why there are none. -/
def settingsOf (disk : Disk) (flags : InputFlags) (outDir : Option Path) :
    Except String Settings := do
  let config ← (Config.discover disk flags.config disk.herePath).mapError Config.Fault.message
  (Settings.resolve flags outDir config disk.herePath).mapError Settings.Fault.message

/-- The settings and the outcomes of a command. -/
def settled (disk : Disk) (flags : InputFlags) (outDir : Option Path) :
    Except String (Settings × List Outcome) := do
  let settings ← settingsOf disk flags outDir
  pure (settings, ← outcomes disk settings)

/-- The events of a command up to its outcomes. -/
def settledEvents (disk : Disk) (flags : InputFlags) (outDir : Option Path) : List Note :=
  (Config.discoverEvents disk flags.config disk.herePath ++
    match settingsOf disk flags outDir with
    | .error _ => []
    | .ok settings => outcomesEvents disk settings).map .event

/-! ## Generate -/

/-- A run of `generate` on its way: the disk, what is told, and how many
documents failed. -/
structure Progress where
  disk : Disk
  out : List String
  notes : List Note
  failures : Nat

def Progress.write (progress : Progress) (outDir : Option Path) (outcome : Outcome) : Progress :=
  match outcome.result with
  | .error failure =>
    { progress with
      notes := progress.notes ++ [errorNote outcome.document failure.message]
      failures := progress.failures + 1 }
  | .ok generated =>
    let target := outputPath outcome.document outDir
    let warnings := warningNotes outcome.document generated
    match writeOutput progress.disk target generated.source with
    | (disk, some message) =>
      { disk := disk
        out := progress.out
        notes := progress.notes ++ warnings ++ [errorNote outcome.document message]
        failures := progress.failures + 1 }
    | (disk, none) =>
      { disk := disk
        out := progress.out ++ [s!"generated {outcome.document.text} -> {target.text}"]
        notes := progress.notes ++ warnings
        failures := progress.failures }

def Progress.writeAll (progress : Progress) (outDir : Option Path)
    (outcomes : List Outcome) : Progress :=
  outcomes.foldl (fun (known : Progress) outcome => known.write outDir outcome) progress

/-- The end of a run of `generate`. -/
def Progress.report (progress : Progress) (total : Nat) : Report :=
  if progress.failures = 0 then
    let message := s!"Generated {total} operation documents"
    ⟨0, progress.out,
      progress.notes ++ [.event ⟨.info, "gqlmodel_cli::generate", message, []⟩]⟩
  else failed progress.notes progress.out (failedMessage progress.failures total)

/-- Run `generate`: the disk as it is left, and the report. -/
def runGenerate (disk : Disk) (flags : InputFlags) (outDir : Option Path) : Disk × Report :=
  let events := settledEvents disk flags outDir
  match settled disk flags outDir with
  | .error message => (disk, failed events [] message)
  | .ok (settings, results) =>
    let progress := Progress.writeAll ⟨disk, [], events, 0⟩ settings.outDir results
    (progress.disk, progress.report results.length)

/-! ## Check -/

/-- What `check` tells of one document. -/
def checkOutcome (outcome : Outcome) : Told :=
  match outcome.result with
  | .error failure => ⟨[], [errorNote outcome.document failure.message]⟩
  | .ok generated =>
    if generated.warnings.isEmpty then ⟨[s!"ok {outcome.document.text}"], []⟩
    else ⟨[], warningNotes outcome.document generated⟩

def Outcome.isFailure (outcome : Outcome) : Bool :=
  match outcome.result with
  | .error _ => true
  | .ok _ => false

/-- Did the document give models with warnings? -/
def Outcome.isWarned (outcome : Outcome) : Bool :=
  match outcome.result with
  | .error _ => false
  | .ok generated => !generated.warnings.isEmpty

/-- Run `check`, which leaves the disk as it is. -/
def runCheck (disk : Disk) (flags : InputFlags) (denyWarnings : Bool) : Report :=
  let events := settledEvents disk flags none
  match settled disk flags none with
  | .error message => failed events [] message
  | .ok (_, results) =>
    let told := results.map checkOutcome
    let out := told.flatMap Told.out
    let notes := events ++ told.flatMap Told.notes
    let failures := results.countP Outcome.isFailure
    let warned := results.countP Outcome.isWarned
    if failures ≠ 0 then failed notes out (failedMessage failures results.length)
    else if denyWarnings && warned ≠ 0 then
      failed notes out (warnedMessage warned results.length)
    else ⟨0, out, notes⟩

/-! ## The program -/

/-- What the program answers to a command line. An overview is the help that
is shown unasked; by then the log is set up, as it is for a report. -/
inductive Answer
  | overview
  | help
  | usage
  | version
  | report (report : Report)
deriving DecidableEq, Repr

def versionLine : String := "gqlmodel 0.1.0"

/-- Run a command line: the disk as it is left, and the answer. -/
def run (disk : Disk) (arguments : List String) : Disk × Answer :=
  match Request.parse? arguments with
  | none => (disk, .usage)
  | some .nothing => (disk, .overview)
  | some .help => (disk, .help)
  | some .version => (disk, .version)
  | some (.generate flags outDir) =>
    let (left, report) := runGenerate disk flags outDir
    (left, .report report)
  | some (.check flags denyWarnings) => (disk, .report (runCheck disk flags denyWarnings))

/-- The lines on the error channel under a filter of the log. -/
def shownNotes (filter : Log.Filter) (notes : List Note) : List String :=
  filter.complaints ++ notes.filterMap (fun note => match note with
    | .line text => some text
    | .event event => if filter.shows event then some event.line else none)

end OperationModels.Command
