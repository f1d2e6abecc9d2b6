-- A disk without links: files and folders by location, and the folder in
-- which relative paths start. What a path reaches is found segment by
-- segment, and every segment but the last must be a folder.
import OperationModels.Files.Fault
import OperationModels.Files.Path
import OperationModels.OrderedMap

namespace OperationModels.Files

/-- The names from the root down to a file or folder. -/
abbrev Location := List String

inductive Entry
  | file (bytes : ByteArray)
  | folder
deriving BEq

/-- The files and folders below the root, and the working folder. No entry is a
link, so a path leads where its names do, and every entry can be opened: whether
something can be read, written or made is a matter of the path and of what stands
there. -/
structure Disk where
  entries : OrderedMap Location Entry
  here : Location

namespace Disk

/-! ## Reaching -/

/-- What stands at a location; the root is a folder. -/
def get? (disk : Disk) (location : Location) : Option Entry :=
  if location = [] then some .folder else disk.entries.get? location

def maxNameBytes : Nat := 255

def maxPathBytes : Nat := 4095

/-- Go one segment further. -/
def step (disk : Disk) (location : Location) (segment : String) : Except Fault Location :=
  match disk.get? location with
  | none => .error .notFound
  | some (.file _) => .error .notFolder
  | some .folder =>
    if segment = "" || segment = "." then .ok location
    else if segment = ".." then .ok location.dropLast
    else if maxNameBytes < segment.utf8ByteSize then .error .nameTooLong
    else .ok (location ++ [segment])

/-- The location that segments lead to; only its own folder must be there. -/
def reach (disk : Disk) (path : Path) (segments : List String) : Except Fault Location :=
  if path.text = "" then .error .notFound
  else if path.text.toList.contains '\x00' then .error .nulInName
  else if maxPathBytes < path.text.utf8ByteSize then .error .nameTooLong
  else segments.foldlM disk.step (if path.isAbsolute then [] else disk.here)

/-- What a path leads to, with its location. -/
def find (disk : Disk) (path : Path) : Except Fault (Location × Entry) := do
  let location ← disk.reach path path.segments
  match disk.get? location with
  | some entry => .ok (location, entry)
  | none => .error .notFound

/-- The location of what a path leads to. -/
def canonical? (disk : Disk) (path : Path) : Option Location :=
  match disk.find path with
  | .ok (location, _) => some location
  | .error _ => none

/-- The location of what a path leads to if it is followed segment by segment,
so that the path as a whole may be of any length. -/
def resolve? (disk : Disk) (path : Path) : Option Location :=
  if path.text = "" || path.text.toList.contains '\x00' then none
  else
    match path.segments.foldlM disk.step (if path.isAbsolute then [] else disk.here) with
    | .ok location => (disk.get? location).map (fun _ => location)
    | .error _ => none

def isFile (disk : Disk) (path : Path) : Bool :=
  match disk.find path with
  | .ok (_, .file _) => true
  | _ => false

def isFolder (disk : Disk) (path : Path) : Bool :=
  match disk.find path with
  | .ok (_, .folder) => true
  | _ => false

/-- Do two paths lead to the same thing? Paths that lead nowhere are compared
by their parts. -/
def sameFile (disk : Disk) (a b : Path) : Bool :=
  match disk.resolve? a, disk.resolve? b with
  | some there, some other => there = other
  | _, _ => a.parts = b.parts

def herePath (disk : Disk) : Path := .ofSegments true disk.here

/-! ## Reading -/

def readText (disk : Disk) (path : Path) : Except Fault String := do
  match ← disk.find path with
  | (_, .folder) => .error .isFolder
  | (_, .file bytes) =>
    match String.fromUTF8? bytes with
    | some text => .ok text
    | none => .error .notText

/-- The names from a folder down to a location below it. -/
def below? (folder location : Location) : Option Location :=
  if folder.isPrefixOf location then some (location.drop folder.length) else none

/-- The paths of the files below a folder, each through the path of the folder.
A folder that cannot be opened by its path is passed over with all that lies in
it. -/
def filesBelow (disk : Disk) (path : Path) : List Path :=
  match disk.canonical? path with
  | none => []
  | some folder =>
    disk.entries.entries.filterMap (fun (location, entry) =>
      match entry with
      | .folder => none
      | .file _ => (below? folder location).bind (fun names =>
          if disk.isFolder (path.joinAll names.dropLast) then some (path.joinAll names)
          else none))

/-! ## Writing -/

def put (disk : Disk) (location : Location) (entry : Entry) : Disk :=
  { disk with entries := disk.entries.insert location entry }

/-- Remove what stands at a location, with all below it. -/
def removeAt (disk : Disk) (location : Location) : Disk :=
  { disk with entries := disk.entries.removeKeys location.isPrefixOf }

/-- Write a file into a folder that is there. -/
def writeBytes (disk : Disk) (path : Path) (bytes : ByteArray) : Except Fault Disk := do
  let location ← disk.reach path path.segments
  match disk.get? location with
  | some .folder => .error .isFolder
  | _ => .ok (disk.put location (.file bytes))

/-- Write a text into a folder that is there. -/
def writeText (disk : Disk) (path : Path) (text : String) : Except Fault Disk :=
  disk.writeBytes path text.toUTF8

/-- Make a folder in a folder that is there. -/
def createFolder (disk : Disk) (path : Path) : Except Fault Disk := do
  let segments := (path.segments.reverse.dropWhile (· = "")).reverse
  let location ← disk.reach path segments
  match disk.get? location, segments.getLast? with
  | some _, _ => .error .exists
  | none, some last =>
    if last = "." || last = ".." then .error .notFound else .ok (disk.put location .folder)
  | none, none => .error .notFound

/-- Make the first of some folders, each of which lies in the next one, and
before it those it lies in that are missing. Gives the disk as it is left,
and why it failed. -/
def createEach (disk : Disk) : List Path → Disk × Option Fault
  | [] => (disk, none)
  | path :: outer =>
    match disk.createFolder path with
    | .ok made => (made, none)
    | .error .notFound =>
      match createEach disk outer with
      | (made, some fault) => (made, some fault)
      | (made, none) =>
        match made.createFolder path with
        | .ok done => (done, none)
        | .error fault => (made, if made.isFolder path then none else some fault)
    | .error fault => (disk, if disk.isFolder path then none else some fault)

/-- Make a folder and all that it lies in. -/
def createFolders (disk : Disk) (path : Path) : Disk × Option Fault :=
  disk.createEach path.ancestors

/-- The entries that a disk did not have before, or had otherwise. A folder
comes before what lies in it. -/
def changesSince (before disk : Disk) : List (Location × Entry) :=
  disk.entries.entries.filter (fun (location, entry) => before.get? location != some entry)

end Disk

end OperationModels.Files
