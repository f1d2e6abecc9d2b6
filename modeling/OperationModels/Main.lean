-- The program. It looks at the files that a command line leads to, runs the
-- command on what it saw, stores what was made, and shows the answer. What is
-- looked at grows in steps, as what is seen first tells where to look next.
import OperationModels.Command.Help
import OperationModels.Command.Run

namespace OperationModels

open Files Command

/-! ## Looking -/

/-- What really stands at a location, if it can be read. -/
def entryAt (location : Location) : IO (Option Entry) := do
  let path := (← IO.currentDir) / (Files.Path.ofSegments true location).text
  try
    if ← path.isDir then pure (some .folder)
    else pure (some (.file (← IO.FS.readBinFile path)))
  catch _ => pure none

def lookAt (disk : Disk) (location : Location) : IO Disk := do
  match disk.get? location, ← entryAt location with
  | none, some entry => pure (disk.put location entry)
  | _, _ => pure disk

/-- Look at all that segments lead over from a location. -/
def lookAlong (disk : Disk) (location : Location) : List String → IO Disk
  | [] => pure disk
  | segment :: rest =>
    match disk.step location segment with
    | .error _ => pure disk
    | .ok next => do lookAlong (← lookAt disk next) next rest

/-- Look at what a path leads to. -/
def look (disk : Disk) (path : Files.Path) : IO Disk :=
  lookAlong disk (if path.isAbsolute then [] else disk.here) path.segments

/-- The names of the folders and of the documents in a folder, without links. -/
def namesIn (location : Location) : IO (List String) := do
  let path := (← IO.currentDir) / (Files.Path.ofSegments true location).text
  let found ← (← path.readDir).toList.filterM (fun entry => do
    match (← entry.path.symlinkMetadata).type with
    | .dir => pure true
    | .file => pure ((Files.Path.mk entry.fileName).extension? = some documentExtension)
    | _ => pure false)
  pure (found.map (fun entry => entry.fileName))

/-- Look at the documents below a location. -/
partial def lookBelow (disk : Disk) (location : Location) : IO Disk := do
  match disk.get? location with
  | some .folder =>
    (← namesIn location).foldlM (fun disk name => do
      lookBelow (← lookAt disk (location ++ [name])) (location ++ [name])) disk
  | _ => pure disk

/-- Look at an operation document, or at those below a folder. -/
def lookForDocuments (disk : Disk) (path : Files.Path) : IO Disk := do
  let disk ← look disk path
  match disk.canonical? path with
  | some location => lookBelow disk location
  | none => pure disk

/-- The working folder and what it lies in. -/
def lookAround : IO Disk := do
  let here := (Files.Path.mk (← IO.currentDir).toString).segments
  lookAlong ⟨.empty, here⟩ [] here

/-- Look at what a command reads, and at what it may write over. -/
def lookFor (disk : Disk) (flags : InputFlags) (outDir : Option Files.Path) : IO Disk := do
  let disk ← look disk (flags.config.getD (Config.standardPath disk.herePath))
  match settingsOf disk flags outDir with
  | .error _ => pure disk
  | .ok settings =>
    let disk ← (settings.schemaDirs.flatMap (schemaFiles settings.schema)).foldlM look disk
    let disk ← settings.operations.foldlM lookForDocuments disk
    match prepare disk settings with
    | .error _ => pure disk
    | .ok job => (job.documents.map (outputPath · settings.outDir)).foldlM look disk
where
  schemaFiles (name : String) (folder : Files.Path) : List Files.Path :=
    let schema := SchemaLibrary.schemaPath folder name
    [schema, SchemaLibrary.metadataPath schema name]

/-- Look at what a command line needs. -/
def lookForRequest (arguments : List String) : IO Disk := do
  let disk ← lookAround
  match Request.parse? arguments with
  | some (.generate flags outDir) => lookFor disk flags outDir
  | some (.check flags _) => lookFor disk flags none
  | _ => pure disk

/-! ## Storing and showing -/

def store (location : Location) (entry : Entry) : IO Unit := do
  let path := (← IO.currentDir) / (Files.Path.ofSegments true location).text
  match entry with
  | .folder => IO.FS.createDir path
  | .file bytes => IO.FS.writeBinFile path bytes

/-- Show an answer and give the exit code. -/
def answerWith (filter : Log.Filter) : Answer → IO UInt32
  | .overview => do
    (shownNotes filter []).forM (IO.eprintln ·)
    IO.println helpText
    pure 0
  | .help => do
    IO.print helpText
    pure 0
  | .usage => do
    IO.eprint usageText
    pure 2
  | .version => do
    IO.println versionLine
    pure 0
  | .report report => do
    report.out.forM (IO.println ·)
    (shownNotes filter report.notes).forM (IO.eprintln ·)
    pure report.exit.toUInt32

/-- The variable of the environment that sets the log. -/
def logVariable : String := "GQLMODEL_LOG"

end OperationModels

open OperationModels in
def main (arguments : List String) : IO UInt32 := do
  let seen ← lookForRequest arguments
  let (left, answer) := Command.run seen arguments
  for (location, entry) in Files.Disk.changesSince seen left do
    store location entry
  answerWith (.parse (Log.filterText (← IO.getEnv logVariable))) answer
