-- The configuration file of a project, and the settings of a run made of it
-- and of the command line. What the command line gives counts before the
-- configuration, and a relative path in a configuration starts at its file.
import OperationModels.Config.Document
import OperationModels.Generation

namespace OperationModels

open Files

/-! ## Configurations -/

/-- What a configuration gives. -/
structure Config where
  schema : Option String
  schemaDirs : List Path
  outDir : Option Path
  operations : List Path
  variableSource : Option String
deriving DecidableEq, Repr

namespace Config

def none : Config := ⟨.none, [], .none, [], .none⟩

/-- The configuration file that is used unasked. -/
def fileName : String := "gqlmodel.toml"

/-- Take one key into a configuration that has the given keys already. -/
def add (config : Config) (key : String) (value : Value) : Option Config :=
  match key, value with
  | "schema", .text text => some { config with schema := some text }
  | "schema_dirs", .texts texts => some { config with schemaDirs := texts.map Files.Path.mk }
  | "out_dir", .text text => some { config with outDir := some ⟨text⟩ }
  | "operations", .texts texts => some { config with operations := texts.map Files.Path.mk }
  | "variables", .text text => some { config with variableSource := some text }
  | _, _ => .none

/-- The configuration of keys with values: known keys, each once. -/
def ofDocument? (document : Document) : Option Config :=
  if (document.map Prod.fst).Nodup then
    document.foldlM (fun (config : Config) entry => config.add entry.1 entry.2) none
  else .none

/-- The configuration with its paths behind a folder. -/
def relativeTo (config : Config) (folder : Path) : Config :=
  { config with
    schemaDirs := config.schemaDirs.map folder.join
    outDir := config.outDir.map folder.join
    operations := config.operations.map folder.join }

/-- Why a configuration was not used. -/
inductive Fault
  | unreadable (path : Path) (fault : Files.Fault)
  | refused (path : Path)
deriving DecidableEq, Repr

def Fault.message : Fault → String
  | .unreadable path fault => Sentence.unreadable path.text fault.message
  | .refused path => s!"Failed to parse {path.text}"

/-- The configuration of a file. -/
def load (disk : Disk) (path : Path) : Except Fault Config :=
  match disk.readText path with
  | .error fault => .error (.unreadable path fault)
  | .ok text =>
    match (Document.parse? text).bind ofDocument? with
    | some config => .ok (config.relativeTo (path.parent?.getD ⟨"."⟩))
    | .none => .error (.refused path)

def standardPath (folder : Path) : Path := folder.join ⟨fileName⟩

/-- The configuration asked for, or that of the folder if there is one. -/
def discover (disk : Disk) (asked : Option Path) (folder : Path) :
    Except Fault (Option Config) :=
  match asked with
  | some path => (load disk path).map some
  | .none =>
    if disk.isFile (standardPath folder) then (load disk (standardPath folder)).map some
    else .ok .none

/-- The events of finding a configuration. -/
def discoverEvents (disk : Disk) (asked : Option Path) (folder : Path) : List Log.Event :=
  if asked.isNone && disk.isFile (standardPath folder) then
    [⟨.debug, "gqlmodel_cli::config", "Using config " ++ (standardPath folder).text, []⟩]
  else []

end Config

/-! ## Settings -/

/-- What the command line gives of a run. -/
structure InputFlags where
  operations : List Path
  schema : Option String
  schemaDirs : List Path
  config : Option Path
  variableSource : Option VariableSource
  operationName : Option String
deriving DecidableEq, Repr

/-- All that a run needs. -/
structure Settings where
  schema : String
  schemaDirs : List Path
  operations : List Path
  outDir : Option Path
  variableSource : VariableSource
  operationName : Option String
deriving DecidableEq, Repr

namespace Settings

/-- Why the settings of a run are not complete. -/
inductive Fault
  | noSchema
  | noOperations
  | unknownSource (word : String)
deriving DecidableEq, Repr

def Fault.message : Fault → String
  | .noSchema => "No schema given. Pass --schema or set `schema` in gqlmodel.toml"
  | .noOperations => "No operation documents given"
  | .unknownSource word => VariableSource.unknownMessage word

/-- The first of two lists that is not empty. -/
def firstNonEmpty (first second : List Path) : List Path :=
  if first.isEmpty then second else first

/-- The source of variables: a flag, a word of the configuration, or the
default. -/
def chooseSource (flag : Option VariableSource) (word : Option String) :
    Except Fault VariableSource :=
  match flag, word with
  | some source, _ => .ok source
  | none, some word =>
    match VariableSource.parse? word with
    | some source => .ok source
    | none => .error (.unknownSource word)
  | none, none => .ok .auto

/-- The settings of flags over a configuration; without any folder schemas
are looked for in the given one. -/
def resolve (flags : InputFlags) (outDir : Option Path) (config : Option Config)
    (folder : Path) : Except Fault Settings := do
  let config := config.getD .none
  let schema ← match flags.schema <|> config.schema with
    | some name => .ok name
    | none => .error .noSchema
  let dirs := firstNonEmpty flags.schemaDirs config.schemaDirs
  let operations := firstNonEmpty flags.operations config.operations
  if operations.isEmpty then throw .noOperations
  let source ← chooseSource flags.variableSource config.variableSource
  pure
    { schema := schema
      schemaDirs := if dirs.isEmpty then [folder] else dirs
      operations := operations
      outDir := outDir <|> config.outDir
      variableSource := source
      operationName := flags.operationName }

end Settings

end OperationModels
