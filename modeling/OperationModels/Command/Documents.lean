-- The documents of a run: which files they are, what comes out of each, and
-- where its models are written.
import OperationModels.Config.Basic

namespace OperationModels.Command

open Files

/-! ## Which documents -/

def documentExtension : String := "graphql"

/-- An input that is neither a file nor a folder. -/
def missingInput (input : Path) : String := s!"{input.text} does not exist"

/-- The documents below a folder, in order, without the schema. -/
def documentsBelow (disk : Disk) (schema folder : Path) : List Path :=
  ((disk.filesBelow folder).filter (fun path =>
    path.extension? = some documentExtension && !disk.sameFile path schema)).mergeSort Path.le

/-- The documents of an input: a file itself, or those below a folder. -/
def documentsOf (disk : Disk) (schema input : Path) : Except String (List Path) :=
  if disk.isFile input then .ok [input]
  else if disk.isFolder input then .ok (documentsBelow disk schema input)
  else .error (missingInput input)

def collectDocuments (disk : Disk) (schema : Path) (inputs : List Path) :
    Except String (List Path) := do
  let found ← inputs.mapM (documentsOf disk schema)
  pure found.flatten

/-! ## What comes out -/

/-- A document and what came out of it. -/
structure Outcome where
  document : Path
  result : Except Failure Generated

/-- What a run asks of every document. -/
def optionsOf (settings : Settings) : GenerationOptions :=
  ⟨settings.operationName, settings.variableSource, .none⟩

/-- Make the models of one document. -/
def outcomeOf (disk : Disk) (loaded : LoadedSchema) (options : GenerationOptions)
    (document : Path) : Outcome where
  document := document
  result := do loaded.generate (← SchemaLibrary.read disk document) options

/-- The folders in which a run looks for its schema. -/
def libraryOf (settings : Settings) : SchemaLibrary := ⟨settings.schemaDirs⟩

/-- A run as far as it is the same for all documents: its schema and the
documents. -/
structure Job where
  loaded : LoadedSchema
  documents : List Path

/-- Load the schema of a run and find its documents. -/
def prepare (disk : Disk) (settings : Settings) : Except String Job := do
  let library := libraryOf settings
  let loaded ← (library.load disk settings.schema).mapError Failure.message
  let schema ← (library.locate disk settings.schema).mapError Failure.message
  let documents ← collectDocuments disk schema settings.operations
  if documents.isEmpty then throw "No operation documents found"
  pure ⟨loaded, documents⟩

/-- What comes out of every document of a run. -/
def outcomes (disk : Disk) (settings : Settings) : Except String (List Outcome) := do
  let job ← prepare disk settings
  pure (job.documents.map (outcomeOf disk job.loaded (optionsOf settings)))

def outcomeEvents (disk : Disk) (loaded : LoadedSchema) (options : GenerationOptions)
    (document : Path) : List Log.Event :=
  match SchemaLibrary.read disk document with
  | .error _ => []
  | .ok text => loaded.generationEvents text options

/-- The events of a run up to its outcomes. -/
def outcomesEvents (disk : Disk) (settings : Settings) : List Log.Event :=
  (libraryOf settings).loadEvents disk settings.schema ++
    match prepare disk settings with
    | .error _ => []
    | .ok job =>
      let count := job.documents.length
      ⟨.debug, "gqlmodel_cli::generate", s!"Generating {count} operation documents", []⟩ ::
        job.documents.flatMap (outcomeEvents disk job.loaded (optionsOf settings))

/-! ## Where it goes -/

/-- The file of the models of a document: beside the document, or under the
same name in an output folder. -/
def outputPath (document : Path) (outDir : Option Path) : Path :=
  let beside := document.withExtension "rs"
  match outDir, beside.fileName? with
  | some folder, some name => folder.join ⟨name⟩
  | _, _ => beside

/-- Make the folders that a file lies in. Gives the disk as it is left, and
what is told if it failed. -/
def makeFoldersOf (disk : Disk) (target : Path) : Disk × Option String :=
  match target.parent?.filter (fun folder => folder.text ≠ "") with
  | none => (disk, none)
  | some folder =>
    match disk.createFolders folder with
    | (made, none) => (made, none)
    | (made, some fault) => (made, some s!"Failed to create {folder.text}: {fault.message}")

/-- Write a file, with the folders it lies in. Gives the disk as it is left,
and what is told if it failed. -/
def writeOutput (disk : Disk) (target : Path) (source : String) : Disk × Option String :=
  match makeFoldersOf disk target with
  | (made, some message) => (made, some message)
  | (made, none) =>
    match made.writeText target source with
    | .ok written => (written, none)
    | .error fault => (made, some s!"Failed to write {target.text}: {fault.message}")

end OperationModels.Command
