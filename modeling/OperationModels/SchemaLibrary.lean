-- Schemas on the disk. A schema is looked for by its name in one folder after
-- the other, and a file of metadata next to it shapes what is made of it. A
-- cache keeps what was loaded and shares it; a failure is not kept.
import OperationModels.Files.Disk
import OperationModels.Log
import OperationModels.Metadata
import OperationModels.Model.Records
import OperationModels.Schema.OfDocument
import OperationModels.Source.OfModel

namespace OperationModels

open Files

/-! ## Loaded schemas -/

/-- A schema with all that is needed to make models against it. -/
structure LoadedSchema where
  name : String
  schema : Schema
  mapping : NameMapping
  extras : Source.Extras
  warnings : List Warning

namespace LoadedSchema

/-- What names are read against. -/
def naming (loaded : LoadedSchema) : Model.Naming := ⟨loaded.schema, loaded.mapping⟩

/-- The schema of a text under its metadata. -/
def ofText (name text : String) (metadata : Metadata) : Except Failure LoadedSchema :=
  (Schema.parse name text).map (fun (schema, warnings) =>
    { name := name
      schema := schema
      mapping := .withOverrides metadata.mappings.entries
      extras := ⟨metadata.imports, metadata.derives⟩
      warnings := warnings })

/-- The events of making a schema of a text. -/
def eventsOfText (name text : String) : List Log.Event :=
  match Schema.parse name text with
  | .error _ => []
  | .ok (schema, warnings) =>
    ⟨.debug, "gqlmodel_core::schema::sdl", "Converted SDL document.",
      [("schema", Text.shown name), ("types", toString schema.types.length),
        ("warnings", toString warnings.length)]⟩ ::
      warnings.map (fun warning => ⟨.warn, "gqlmodel_core::loader", warning.text, []⟩)

end LoadedSchema

/-! ## Folders of schemas -/

/-- The folders in which schemas are looked for, in order. -/
structure SchemaLibrary where
  folders : List Path

namespace SchemaLibrary

def schemaPath (folder : Path) (name : String) : Path := folder.join ⟨name ++ ".graphql"⟩

/-- The file of the metadata of a schema, beside the file of the schema. -/
def metadataPath (schema : Path) (name : String) : Path :=
  schema.withFileName (name ++ ".meta.json")

/-- The file of a schema: the first one that is there. -/
def locate (library : SchemaLibrary) (disk : Disk) (name : String) : Except Failure Path :=
  match (library.folders.map (fun folder => schemaPath folder name)).find? disk.isFile with
  | some path => .ok path
  | none => .error (.schemaNotFound name library.folders)

def read (disk : Disk) (path : Path) : Except Failure String :=
  (disk.readText path).mapError (.unreadable path)

/-- The metadata beside a schema; there may be none. -/
def loadMetadata (disk : Disk) (schema : Path) (name : String) : Except Failure Metadata :=
  let path := metadataPath schema name
  if disk.isFile path then do
    let text ← read disk path
    match Metadata.parse? text with
    | some metadata => .ok metadata
    | none => .error (.metadataParse path)
  else .ok .none

/-- Load a schema with its metadata. -/
def load (library : SchemaLibrary) (disk : Disk) (name : String) :
    Except Failure LoadedSchema := do
  let path ← library.locate disk name
  let text ← read disk path
  let metadata ← loadMetadata disk path name
  LoadedSchema.ofText name text metadata

def loadEvent (message : String) : Log.Event := ⟨.debug, "gqlmodel_core::loader", message, []⟩

/-- The events of loading the metadata beside a schema. -/
def metadataEvents (disk : Disk) (schema : Path) (name : String) : List Log.Event :=
  let path := metadataPath schema name
  if disk.isFile path then [loadEvent ("Loading metadata from " ++ path.text)] else []

/-- The events of loading a schema, up to where it fails. -/
def loadEvents (library : SchemaLibrary) (disk : Disk) (name : String) : List Log.Event :=
  match library.locate disk name with
  | .error _ => []
  | .ok path =>
    loadEvent s!"Loading schema '{name}' from {path.text}" ::
      match read disk path with
      | .error _ => []
      | .ok text =>
        metadataEvents disk path name ++
          match loadMetadata disk path name with
          | .error _ => []
          | .ok _ => LoadedSchema.eventsOfText name text

end SchemaLibrary

/-! ## The cache -/

/-- A loaded schema as a cache hands it out. Every load makes an instance of
its own, which all who ask for the schema later share; instances are told apart
by their numbers. -/
structure SharedSchema extends LoadedSchema where
  number : Nat

instance : Coe SharedSchema LoadedSchema := ⟨SharedSchema.toLoadedSchema⟩

/-- The schemas loaded so far, by name, and how many instances were made. -/
structure SchemaCache where
  library : SchemaLibrary
  loaded : OrderedMap String SharedSchema
  made : Nat

namespace SchemaCache

def start (library : SchemaLibrary) : SchemaCache := ⟨library, .empty, 0⟩

/-- A schema, loaded at its first use. A failure leaves the cache as it is. -/
def get (cache : SchemaCache) (disk : Disk) (name : String) :
    Except Failure SharedSchema × SchemaCache :=
  match cache.loaded.get? name with
  | some known => (.ok known, cache)
  | none =>
    match cache.library.load disk name with
    | .ok loaded =>
      let shared : SharedSchema := { loaded with number := cache.made }
      (.ok shared,
        { cache with loaded := cache.loaded.insert name shared, made := cache.made + 1 })
    | .error failure => (.error failure, cache)

def size (cache : SchemaCache) : Nat := cache.loaded.size

end SchemaCache

end OperationModels
