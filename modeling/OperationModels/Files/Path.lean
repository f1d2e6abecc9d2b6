-- Paths as written, and what is read off them. A path keeps its text, so
-- that a message shows what was given; two texts are the same path when
-- their parts agree.
import OperationModels.Text.Pieces

namespace OperationModels.Files

/-- A path, as its text. -/
structure Path where
  text : String
deriving DecidableEq, Repr

namespace Path

/-- One part of a path; a name is neither empty nor one or two dots. -/
inductive Part
  | root
  | here
  | up
  | named (name : String)
deriving DecidableEq, Repr

def isAbsolute (path : Path) : Bool := path.text.toList.head? = some '/'

/-- The segments behind the root, as written: what stands between slashes. -/
def segments (path : Path) : List String :=
  let chars := path.text.toList
  Text.cutAt '/' (if path.isAbsolute then chars.tail else chars)

/-- The path of segments behind the root or behind nothing. -/
def ofSegments (absolute : Bool) (segments : List String) : Path :=
  ⟨(if absolute then "/" else "") ++ "/".intercalate segments⟩

/-- The part that a segment is. An empty one is none, and a single dot only
at the front of a relative path. -/
def partOf? (atFront : Bool) (segment : String) : Option Part :=
  if segment = "" then none
  else if segment = "." then if atFront then some .here else none
  else if segment = ".." then some .up
  else some (.named segment)

def parts (path : Path) : List Part :=
  match path.isAbsolute, path.segments with
  | true, segments => .root :: segments.filterMap (partOf? false)
  | false, [] => []
  | false, first :: others =>
    (partOf? true first).toList ++ others.filterMap (partOf? false)

/-- A path behind another one. An absolute path stands alone. -/
def join (base path : Path) : Path :=
  if path.isAbsolute then path
  else if base.text = "" || base.text.toList.getLast? = some '/' then ⟨base.text ++ path.text⟩
  else ⟨base.text ++ "/" ++ path.text⟩

/-- The path of what names lead to from a path, each in the one before it. -/
def joinAll (base : Path) (names : List String) : Path :=
  names.foldl (fun known name => known.join ⟨name⟩) base

/-- Drop the segments at the end that are no part; the segments come last
one first. -/
def dropIdle (absolute : Bool) : List String → List String
  | [] => []
  | segment :: before =>
    if (partOf? (!absolute && before.isEmpty) segment).isNone then dropIdle absolute before
    else segment :: before

/-- The segments up to the last part, last one first. -/
def tail (path : Path) : List String := dropIdle path.isAbsolute path.segments.reverse

/-- The path without its last part; the root and the empty path have none. -/
def parent? (path : Path) : Option Path :=
  match path.tail with
  | [] => none
  | _ :: before => some (ofSegments path.isAbsolute (dropIdle path.isAbsolute before).reverse)

def fileName? (path : Path) : Option String :=
  match path.parts.getLast? with
  | some (.named name) => some name
  | _ => none

/-- A name cut at its last dot. A name without a dot, or with none but the
one at its front, has no extension. -/
def splitName (name : String) : String × Option String :=
  let chars := name.toList.reverse
  let after := chars.takeWhile (· ≠ '.')
  match chars.dropWhile (· ≠ '.') with
  | _ :: before :: rest =>
    (String.ofList (before :: rest).reverse, some (String.ofList after.reverse))
  | _ => (name, none)

/-- The extension of the name at the end. -/
def extension? (path : Path) : Option String :=
  path.fileName?.bind (fun name => (splitName name).2)

/-- The path with another extension; a path without a name stays as it is. A
name loses its extension first, and what is left of it with the dot behind
it may be the two dots that lead up, which take no extension. -/
def withExtension (extension : String) (path : Path) : Path :=
  match path.fileName?, path.tail with
  | some name, _ :: before =>
    let stem := (splitName name).1
    ofSegments path.isAbsolute
      ((if stem = "." then ".." else stem ++ "." ++ extension) :: before).reverse
  | _, _ => path

/-- The path with another name at its end, or behind it if it has none. -/
def withFileName (name : String) (path : Path) : Path :=
  match path.fileName? with
  | some _ => (path.parent?.getD path).join ⟨name⟩
  | none => path.join ⟨name⟩

/-- The path itself and the paths it lies in, at most `bound` of them. -/
def ancestorsWithin : Nat → Path → List Path
  | 0, _ => []
  | bound + 1, path =>
    if path.text = "" then []
    else
      path :: match path.parent? with
        | some parent => ancestorsWithin bound parent
        | none => []

/-- The path itself and the paths it lies in, innermost first, without the
empty path. A path is longer than the one it lies in, so the length of its
text bounds their number. -/
def ancestors (path : Path) : List Path := ancestorsWithin (path.text.length + 1) path

/-! ## Order -/

/-- Where the kind of a part comes: the root, the dot, the two dots, names. -/
def Part.rank : Part → Nat
  | .root => 0
  | .here => 1
  | .up => 2
  | .named _ => 3

/-- Parts in order: by their kind, and names by their code points. -/
def Part.before : Part → Part → Bool
  | .named a, .named b => a < b
  | a, b => a.rank < b.rank

/-- Part by part, the shorter first. -/
def partsLe : List Part → List Part → Bool
  | [], _ => true
  | _ :: _, [] => false
  | a :: as, b :: bs => a.before b || (a = b && partsLe as bs)

/-- Paths in order, part by part. -/
def le (a b : Path) : Bool := partsLe a.parts b.parts

end Path

end OperationModels.Files
