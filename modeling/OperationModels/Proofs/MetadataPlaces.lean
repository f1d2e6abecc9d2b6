-- Where the metadata of a schema is looked for. The path of a schema is its name
-- behind a folder, and the path of its metadata is the name once more, behind the
-- folder that the schema lies in. So the folders in the name are gone through
-- twice, and the file beside the schema is found only if that makes no
-- difference.
import OperationModels.Proofs.OutputPaths
import OperationModels.SchemaLibrary

namespace OperationModels

open Files

namespace Files

/-! ## Ends of paths -/

namespace Path

/-- What is written behind a path and has no slash belongs to its last segment. -/
theorem exists_segments_append (text : String) :
    ∃ front last, (⟨text⟩ : Path).segments = front ++ [last] ∧ ∀ more, '/' ∉ more.toList →
      (⟨text ++ more⟩ : Path).isAbsolute = (⟨text⟩ : Path).isAbsolute ∧
        (⟨text ++ more⟩ : Path).segments = front ++ [last ++ more] := by
  by_cases hempty : text = ""
  · subst hempty
    refine ⟨[], "", rfl, fun more hmore => ?_⟩
    rw [String.empty_append]
    have hrelative := isAbsolute_of_slash_not_mem hmore
    refine ⟨hrelative, ?_⟩
    rw [segments_of_relative hrelative, Text.cutAt_of_not_mem hmore, String.ofList_toList,
      List.nil_append]
  · have hsome : text.toList ≠ [] := by simpa using hempty
    obtain ⟨hstart, hown⟩ := of_text_eq_append ⟨text⟩ (List.append_nil _).symm hsome
    obtain ⟨front, last, hcut, hmore⟩ := Text.exists_cutAt_append '/'
      (if (⟨text⟩ : Path).isAbsolute then text.toList.tail else text.toList)
    rw [List.append_nil, hcut] at hown
    refine ⟨front, last, hown, fun more hslash => ?_⟩
    obtain ⟨hboth, hsegments⟩ :=
      of_text_eq_append ⟨text ++ more⟩ (String.toList_append) hsome
    rw [hboth, ← hstart] at hsegments ⊢
    rw [hsegments, hmore _ hslash, String.ofList_toList]
    exact ⟨rfl, rfl⟩

/-- What is written behind a path that is joined to a folder comes behind both. -/
theorem join_append (folder : Path) (text : String) {more : String} (h : '/' ∉ more.toList) :
    folder.join ⟨text ++ more⟩ = ⟨(folder.join ⟨text⟩).text ++ more⟩ := by
  obtain ⟨front, last, -, hmore⟩ := exists_segments_append text
  unfold join
  rw [(hmore more h).1]
  split_ifs
  · rfl
  · rw [String.append_assoc]
  · simp only [String.append_assoc]

/-- A segment that is long enough is a name. -/
theorem leadsFurther_of_length {segment : String} (h : 2 < segment.length) :
    leadsFurther segment = true ∧ segment ≠ ".." := by
  refine ⟨?_, ?_⟩
  · unfold leadsFurther
    rw [Bool.and_eq_true, decide_eq_true_eq, decide_eq_true_eq]
    refine ⟨?_, ?_⟩ <;> rintro rfl <;> exact absurd h (by decide)
  · rintro rfl
    exact absurd h (by decide)

end Path

/-! ## Files -/

namespace Disk

/-- The file that a path leads to, with its location. -/
def fileAt? (disk : Disk) (path : Path) : Option (Location × ByteArray) :=
  match disk.find path with
  | .ok (location, .file bytes) => some (location, bytes)
  | _ => none

def file? (disk : Disk) (location : Location) : Option (Location × ByteArray) :=
  match disk.get? location with
  | some (.file bytes) => some (location, bytes)
  | _ => none

/-- The file that a name leads to from a folder, with its location. -/
def fileIn? (disk : Disk) (folder : Location) (name : String) : Option (Location × ByteArray) :=
  (disk.step folder name).toOption.bind disk.file?

theorem fileAt?_eq_some {disk : Disk} {path : Path} {location : Location} {bytes : ByteArray} :
    disk.fileAt? path = some (location, bytes) ↔ disk.find path = .ok (location, .file bytes) := by
  unfold fileAt?
  rcases disk.find path with fault | ⟨place, _ | _⟩ <;> simp

theorem isFile_eq (disk : Disk) (path : Path) : disk.isFile path = (disk.fileAt? path).isSome := by
  unfold isFile fileAt?
  rcases disk.find path with fault | ⟨place, _ | _⟩ <;> rfl

theorem fileAt?_eq (disk : Disk) (path : Path) :
    disk.fileAt? path = (disk.reach path path.segments).toOption.bind disk.file? := by
  unfold fileAt? find
  cases disk.reach path path.segments with
  | error fault => rfl
  | ok location =>
    simp only [bind, Except.bind, Except.toOption, Option.bind_some, file?]
    rcases disk.get? location with _ | ⟨_ | _⟩ <;> rfl

/-- A path leads to the file of its last segment in the folder that the others
lead to. -/
theorem fileAt?_of_segments {disk : Disk} {path : Path} {front : List String} {last : String}
    (h : path.segments = front ++ [last]) :
    disk.fileAt? path = if path.textFault? = none then
      (front.foldlM disk.step (disk.origin path)).toOption.bind
        (fun folder => disk.fileIn? folder last) else none := by
  rw [fileAt?_eq, reach_eq, h]
  cases path.textFault? with
  | some fault => rfl
  | none =>
    rw [if_pos rfl]
    dsimp only
    rw [foldlM_step_concat, toOption_bind, Option.bind_assoc]
    rfl

/-- A name leads from a folder to its own place in it. -/
theorem location_of_fileIn? {disk : Disk} {folder location : Location} {name : String}
    {bytes : ByteArray} (hname : Path.leadsFurther name = true) (hup : name ≠ "..")
    (h : disk.fileIn? folder name = some (location, bytes)) :
    disk.get? folder = some .folder ∧ location = folder ++ [name] := by
  unfold fileIn? at h
  cases hstep : disk.step folder name with
  | error fault =>
    rw [hstep] at h
    cases h
  | ok place =>
    have hfolder := step_eq_ok hstep
    rw [step_of_folder hfolder, if_neg (by simp [hname]), if_neg hup] at hstep
    split at hstep
    · cases hstep
    · cases hstep
      rw [step_of_folder hfolder, if_neg (by simp [hname]), if_neg hup, if_neg ‹_›] at h
      unfold file? Except.toOption at h
      dsimp only [Option.bind_some] at h
      split at h
      · cases h
        exact ⟨hfolder, rfl⟩
      · cases h

end Disk

end Files

namespace SchemaLibrary

/-! ## Names with folders -/

/-- The folders in the name of a schema. -/
def foldersOf (name : String) : List String := (⟨name⟩ : Path).segments.dropLast

/-- The name of a schema without its folders. -/
def baseOf (name : String) : String := (⟨name⟩ : Path).segments.getLastD ""

/-- Where the folders in a name lead from a folder; those of an absolute name
lead from the root. -/
def followFolders (disk : Disk) (folder : Location) (name : String) : Except Fault Location :=
  (foldersOf name).foldlM disk.step (if (⟨name⟩ : Path).isAbsolute then [] else folder)

/-- The segments ahead of a name behind a folder; an absolute name has none. -/
def segmentsAhead (folder : Path) (name : String) : List String :=
  if (⟨name⟩ : Path).isAbsolute then [] else folder.innerSegments

theorem segments_append (name : String) {more : String} (h : '/' ∉ more.toList) :
    (⟨name ++ more⟩ : Path).isAbsolute = (⟨name⟩ : Path).isAbsolute ∧
      (⟨name ++ more⟩ : Path).segments = foldersOf name ++ [baseOf name ++ more] := by
  obtain ⟨front, last, hsegments, hmore⟩ := Path.exists_segments_append name
  have hfolders : foldersOf name = front := by
    unfold foldersOf
    rw [hsegments, List.dropLast_concat]
  have hbase : baseOf name = last := by
    unfold baseOf
    rw [hsegments, List.getLastD_concat]
  rw [hfolders, hbase]
  exact hmore more h

theorem segments_join (folder : Path) (name more : String) (h : '/' ∉ more.toList) :
    (folder.join ⟨name ++ more⟩).isAbsolute =
        ((⟨name⟩ : Path).isAbsolute || folder.isAbsolute) ∧
      (folder.join ⟨name ++ more⟩).segments =
        segmentsAhead folder name ++ foldersOf name ++ [baseOf name ++ more] := by
  obtain ⟨hstart, hsegments⟩ := segments_append name h
  unfold segmentsAhead
  cases habsolute : (⟨name⟩ : Path).isAbsolute with
  | true =>
    rw [habsolute] at hstart
    unfold Path.join
    rw [if_pos hstart, hstart, hsegments]
    exact ⟨rfl, rfl⟩
  | false =>
    rw [habsolute] at hstart
    obtain ⟨hboth, hjoined⟩ := folder.segments_join_of_relative hstart
    rw [hboth, hjoined, hsegments, List.append_assoc]
    exact ⟨rfl, rfl⟩

theorem segments_schemaPath (folder : Path) (name : String) :
    (schemaPath folder name).isAbsolute = ((⟨name⟩ : Path).isAbsolute || folder.isAbsolute) ∧
      (schemaPath folder name).segments =
        segmentsAhead folder name ++ foldersOf name ++ [baseOf name ++ ".graphql"] :=
  segments_join folder name ".graphql" (by decide)

/-- A name with an extension is a name. -/
theorem leadsFurther_baseOf_append (name more : String) (h : 2 < more.length) :
    Path.leadsFurther (baseOf name ++ more) = true ∧ baseOf name ++ more ≠ ".." :=
  Path.leadsFurther_of_length (by rw [String.length_append]; omega)

/-! ## The file beside a schema -/

/-- The place of the folder that the file of a schema lies in. -/
structure LiesAt (disk : Disk) (folder : Path) (name : String) (place : Location) : Prop where
  text : (schemaPath folder name).textFault? = none
  lead : (segmentsAhead folder name ++ foldersOf name).foldlM disk.step
    (disk.origin (schemaPath folder name)) = .ok place
  stands : disk.get? place = some .folder

theorem exists_liesAt {disk : Disk} {folder : Path} {name : String} {location : Location}
    {bytes : ByteArray} (h : disk.fileAt? (schemaPath folder name) = some (location, bytes)) :
    ∃ place, LiesAt disk folder name place ∧ location = place ++ [baseOf name ++ ".graphql"] := by
  rw [Disk.fileAt?_of_segments (segments_schemaPath folder name).2] at h
  split at h
  · rename_i htext
    rw [Option.bind_eq_some_iff] at h
    obtain ⟨place, hplace, hfile⟩ := h
    obtain ⟨hname, hup⟩ := leadsFurther_baseOf_append name ".graphql" (by decide)
    obtain ⟨hstands, hlocation⟩ := Disk.location_of_fileIn? hname hup hfile
    exact ⟨place, ⟨htext, toOption_eq_some.1 hplace, hstands⟩, hlocation⟩
  · cases h

variable {disk : Disk} {folder : Path} {name : String} {place : Location}

/-- Beside the file of a schema there is what its folder has under the other
name. -/
theorem LiesAt.fileAt?_beside (h : LiesAt disk folder name place) :
    disk.fileAt? ⟨(folder.join ⟨name⟩).text ++ ".meta.json"⟩ =
      if (⟨(folder.join ⟨name⟩).text ++ ".meta.json"⟩ : Path).textFault? = none then
        disk.fileIn? place (baseOf name ++ ".meta.json") else none := by
  have hslash : '/' ∉ ".meta.json".toList := by decide
  obtain ⟨hstart, hsegments⟩ := segments_join folder name ".meta.json" hslash
  have horigin : disk.origin (folder.join ⟨name ++ ".meta.json"⟩) =
      disk.origin (schemaPath folder name) :=
    disk.origin_of_isAbsolute (hstart.trans (segments_schemaPath folder name).1.symm)
  rw [← folder.join_append name hslash, Disk.fileAt?_of_segments hsegments, horigin, h.lead]
  rfl

/-- The path that the file of a schema lies in leads to its folder, and from
there the folders in the name are followed once more. -/
theorem LiesAt.foldlM_again (h : LiesAt disk folder name place) {parent path : Path}
    (hparent : (schemaPath folder name).parent? = some parent)
    (hstart : path.isAbsolute = ((⟨name⟩ : Path).isAbsolute || parent.isAbsolute)) :
    (segmentsAhead parent name ++ foldersOf name).foldlM disk.step (disk.origin path) =
      followFolders disk place name := by
  obtain ⟨habsolute, hnames⟩ := Path.parent?_eq_some hparent
  obtain ⟨hschema, hsegments⟩ := segments_schemaPath folder name
  obtain ⟨hname, -⟩ := leadsFurther_baseOf_append name ".graphql" (by decide)
  unfold followFolders segmentsAhead
  cases hroot : (⟨name⟩ : Path).isAbsolute with
  | true =>
    rw [hroot, Bool.true_or] at hstart
    unfold Disk.origin
    rw [hstart]
    rfl
  | false =>
    rw [hroot, Bool.false_or, habsolute] at hstart
    have hfront : parent.names =
        (segmentsAhead folder name ++ foldersOf name).filter Path.leadsFurther := by
      rw [hnames]
      unfold Path.names
      rw [hsegments, List.filter_append, List.filter_singleton, hname, cond_true,
        List.dropLast_concat]
    have hlead : parent.innerSegments.foldlM disk.step (disk.origin path) = .ok place := by
      refine (Disk.foldlM_step_folder_iff.2 ?_).1
      rw [parent.names_of_innerSegments, hfront, ← Disk.foldlM_step_folder_iff,
        disk.origin_of_isAbsolute hstart]
      exact ⟨h.lead, h.stands⟩
    rw [if_neg (by simp), if_neg (by simp), List.foldlM_append, hlead]
    rfl

/-- The metadata are looked for where the folders in the name lead from the
folder of the schema. -/
theorem LiesAt.fileAt?_metadataPath (h : LiesAt disk folder name place) :
    disk.fileAt? (metadataPath (schemaPath folder name) name) =
      if (metadataPath (schemaPath folder name) name).textFault? = none then
        (followFolders disk place name).toOption.bind
          (fun again => disk.fileIn? again (baseOf name ++ ".meta.json")) else none := by
  obtain ⟨-, hsegments⟩ := segments_schemaPath folder name
  obtain ⟨hname, hup⟩ := leadsFurther_baseOf_append name ".graphql" (by decide)
  have hfile := Path.fileName?_of_segments hsegments hname
  rw [if_neg hup] at hfile
  obtain ⟨parent, hparent⟩ : ∃ parent, (schemaPath folder name).parent? = some parent :=
    ⟨_, Path.parent?_of_segments hsegments hname⟩
  have hpath : metadataPath (schemaPath folder name) name = parent.join ⟨name ++ ".meta.json"⟩ := by
    unfold metadataPath Path.withFileName
    rw [hfile, hparent]
    rfl
  obtain ⟨hboth, hjoined⟩ := segments_join parent name ".meta.json" (by decide)
  rw [hpath, Disk.fileAt?_of_segments hjoined, h.foldlM_again hparent hboth]

/-- Both paths lead to one file if the folders in the name lead back and neither
path is too long, and else only if both lead to none. -/
theorem LiesAt.fileAt?_metadataPath_eq_iff (h : LiesAt disk folder name place) :
    disk.fileAt? (metadataPath (schemaPath folder name) name) =
        disk.fileAt? ⟨(folder.join ⟨name⟩).text ++ ".meta.json"⟩ ↔
      (followFolders disk place name = .ok place ∧
        (metadataPath (schemaPath folder name) name).textFault? = none ∧
        (⟨(folder.join ⟨name⟩).text ++ ".meta.json"⟩ : Path).textFault? = none) ∨
      (disk.fileAt? (metadataPath (schemaPath folder name) name) = none ∧
        disk.fileAt? ⟨(folder.join ⟨name⟩).text ++ ".meta.json"⟩ = none) := by
  obtain ⟨hmeta, hup⟩ := leadsFurther_baseOf_append name ".meta.json" (by decide)
  rw [h.fileAt?_metadataPath, h.fileAt?_beside]
  constructor
  · intro hsame
    rcases hbeside : (if (⟨(folder.join ⟨name⟩).text ++ ".meta.json"⟩ : Path).textFault? = none
      then disk.fileIn? place (baseOf name ++ ".meta.json") else none) with _ | found
    · exact .inr ⟨hsame.trans hbeside, rfl⟩
    · rw [hbeside] at hsame
      obtain ⟨hfits, hfound⟩ := Option.ite_none_right_eq_some.1 hbeside
      obtain ⟨hfitsAgain, hagain⟩ := Option.ite_none_right_eq_some.1 hsame
      obtain ⟨again, hlead, hsecond⟩ := Option.bind_eq_some_iff.1 hagain
      refine .inl ⟨?_, hfitsAgain, hfits⟩
      -- one file lies in one folder, so both are followed to the same place
      have hplaces : again ++ [baseOf name ++ ".meta.json"] =
          place ++ [baseOf name ++ ".meta.json"] :=
        (Disk.location_of_fileIn? hmeta hup hsecond).2.symm.trans
          (Disk.location_of_fileIn? hmeta hup hfound).2
      rw [toOption_eq_some, List.append_cancel_right hplaces] at hlead
      exact hlead
  · rintro (⟨hlead, hfitsAgain, hfits⟩ | ⟨hnone, hbeside⟩)
    · rw [if_pos hfitsAgain, if_pos hfits, hlead]
      rfl
    · rw [hnone, hbeside]

/-- The folders in a name are followed in vain if there are none, or if they start
at the root. -/
theorem LiesAt.followFolders_eq (h : LiesAt disk folder name place)
    (hname : (⟨name⟩ : Path).isAbsolute = true ∨ '/' ∉ name.toList) :
    followFolders disk place name = .ok place := by
  cases hroot : (⟨name⟩ : Path).isAbsolute with
  | true =>
    have hlead := h.lead
    have habsolute := (segments_schemaPath folder name).1
    rw [hroot, Bool.true_or] at habsolute
    unfold segmentsAhead Disk.origin at hlead
    rw [hroot, habsolute] at hlead
    unfold followFolders
    rw [hroot]
    exact hlead
  | false =>
    have hnone : foldersOf name = [] := by
      unfold foldersOf
      rw [Path.segments_of_relative hroot,
        Text.cutAt_of_not_mem (hname.resolve_left (by simp [hroot]))]
      rfl
    unfold followFolders
    rw [hnone, hroot]
    rfl

/-! ## Loading -/

/-- The metadata in the bytes of a file; without a file there are none. -/
def metadataOf (path : Path) : Option ByteArray → Except Failure Metadata
  | none => .ok .none
  | some bytes =>
    match String.fromUTF8? bytes with
    | none => .error (.unreadable path .notText)
    | some text =>
      match Metadata.parse? text with
      | some metadata => .ok metadata
      | none => .error (.metadataParse path)

theorem loadMetadata_eq (disk : Disk) (schema : Path) (name : String) :
    loadMetadata disk schema name = metadataOf (metadataPath schema name)
      ((disk.fileAt? (metadataPath schema name)).map Prod.snd) := by
  unfold loadMetadata
  dsimp only
  rw [disk.isFile_eq]
  cases hfile : disk.fileAt? (metadataPath schema name) with
  | none => rfl
  | some found =>
    obtain ⟨location, bytes⟩ := found
    rw [Disk.fileAt?_eq_some] at hfile
    unfold read Disk.readText metadataOf
    rw [Option.isSome_some, if_pos rfl, hfile, Option.map_some]
    simp only [bind, Except.bind]
    cases String.fromUTF8? bytes <;> rfl

/-- A schema that is found is the file of its name behind one of the folders. -/
theorem locate_eq_ok {library : SchemaLibrary} {schema : Path}
    (h : library.locate disk name = .ok schema) :
    ∃ folder ∈ library.folders, schema = schemaPath folder name ∧
      ∃ location bytes, disk.fileAt? schema = some (location, bytes) := by
  unfold locate at h
  split at h
  · rename_i path hfind
    cases h
    obtain ⟨folder, hfolder, rfl⟩ := List.mem_map.1 (List.mem_of_find?_eq_some hfind)
    have hfile := List.find?_some hfind
    rw [disk.isFile_eq] at hfile
    obtain ⟨⟨location, bytes⟩, hfile⟩ := Option.isSome_iff_exists.1 hfile
    exact ⟨folder, hfolder, rfl, location, bytes, hfile⟩
  · cases h

/-! ## The law -/

/-- A load reads the text of the schema and, if there is one, the file that the
path of the metadata leads to, and nothing else. This is the file beside the
schema exactly if both are missing, or if the folders in the name lead from the
folder of the schema back to it and neither path is too long to be followed. A name
without folders leads back, and so does an absolute one. The files are those of a
disk without links, on which all that a path leads to can be opened. -/
theorem metadata_beside_are_applied_iff_the_folders_of_the_name_lead_back
    (library : SchemaLibrary) (disk : Disk) (name : String) (schema : Path)
    (h : library.locate disk name = .ok schema) :
    ∃ front place bytes, schema.text = front ++ ".graphql" ∧
      disk.fileAt? schema = some (place ++ [baseOf name ++ ".graphql"], bytes) ∧
      (library.load disk name = do
        let text ← read disk schema
        let metadata ← metadataOf (metadataPath schema name)
          ((disk.fileAt? (metadataPath schema name)).map Prod.snd)
        LoadedSchema.ofText name text metadata) ∧
      (disk.fileAt? (metadataPath schema name) = disk.fileAt? ⟨front ++ ".meta.json"⟩ ↔
        (followFolders disk place name = .ok place ∧
          (metadataPath schema name).textFault? = none ∧
          (⟨front ++ ".meta.json"⟩ : Path).textFault? = none) ∨
        (disk.fileAt? (metadataPath schema name) = none ∧
          disk.fileAt? ⟨front ++ ".meta.json"⟩ = none)) ∧
      ((⟨name⟩ : Path).isAbsolute = true ∨ '/' ∉ name.toList →
        followFolders disk place name = .ok place) := by
  obtain ⟨folder, -, rfl, location, bytes, hfile⟩ := locate_eq_ok h
  obtain ⟨place, hlies, rfl⟩ := exists_liesAt hfile
  have htext : (schemaPath folder name).text = (folder.join ⟨name⟩).text ++ ".graphql" := by
    unfold schemaPath
    rw [folder.join_append name (by decide)]
  refine ⟨(folder.join ⟨name⟩).text, place, bytes, htext, hfile, ?_,
    hlies.fileAt?_metadataPath_eq_iff, hlies.followFolders_eq⟩
  unfold load
  rw [h, ← loadMetadata_eq]
  rfl

/-- A schema in a folder of the folder of schemas, with metadata beside it, and
metadata where the folder in its name is followed twice. -/
def nestedDisk : Disk where
  entries := .ofList
    [(["schemas"], .folder), (["schemas", "v1"], .folder),
      (["schemas", "v1", "api.graphql"], .file "type Query \x7b a: Int \x7d".toUTF8),
      (["schemas", "v1", "api.meta.json"], .file "\x7b\"derives\": [\"Eq\"]\x7d".toUTF8),
      (["schemas", "v1", "v1"], .folder),
      (["schemas", "v1", "v1", "api.meta.json"],
        .file "\x7b\"derives\": [\"Hash\"]\x7d".toUTF8)]
  here := []

theorem locate_nested :
    locate ⟨[⟨"schemas"⟩]⟩ nestedDisk "v1/api" = .ok ⟨"schemas/v1/api.graphql"⟩ := by
  rfl

theorem metadata_beside_a_nested_schema_are_applied_iff_its_folder_leads_back :
    ∃ front place bytes, "schemas/v1/api.graphql" = front ++ ".graphql" ∧
      nestedDisk.fileAt? ⟨"schemas/v1/api.graphql"⟩ = some (place ++ ["api.graphql"], bytes) ∧
      (nestedDisk.fileAt? ⟨"schemas/v1/v1/api.meta.json"⟩ =
          nestedDisk.fileAt? ⟨front ++ ".meta.json"⟩ ↔
        (followFolders nestedDisk place "v1/api" = .ok place ∧
          (⟨"schemas/v1/v1/api.meta.json"⟩ : Path).textFault? = none ∧
          (⟨front ++ ".meta.json"⟩ : Path).textFault? = none) ∨
        (nestedDisk.fileAt? ⟨"schemas/v1/v1/api.meta.json"⟩ = none ∧
          nestedDisk.fileAt? ⟨front ++ ".meta.json"⟩ = none)) := by
  obtain ⟨front, place, bytes, htext, hfile, -, hsame, -⟩ :=
    metadata_beside_are_applied_iff_the_folders_of_the_name_lead_back _ _ _ _ locate_nested
  exact ⟨front, place, bytes, htext, hfile, hsame⟩

/-- The metadata beside a schema in a folder are passed over for those where the
folder in its name is followed twice. -/
theorem metadata_beside_a_nested_schema_are_passed_over :
    locate ⟨[⟨"schemas"⟩]⟩ nestedDisk "v1/api" = .ok ⟨"schemas/v1/api.graphql"⟩ ∧
      (nestedDisk.readText ⟨"schemas/v1/api.meta.json"⟩).toOption.bind Metadata.parse? =
        some ⟨.empty, [], ["Eq"]⟩ ∧
      ∃ loaded, load ⟨[⟨"schemas"⟩]⟩ nestedDisk "v1/api" = .ok loaded ∧
        loaded.extras.derives = ["Hash"] := by
  refine ⟨locate_nested, by decide +kernel, ?_⟩
  obtain ⟨loaded, hloaded, hderives⟩ :=
    exists_of_any_toOption (x := load ⟨[⟨"schemas"⟩]⟩ nestedDisk "v1/api")
      (p := fun loaded => loaded.extras.derives = ["Hash"]) (by decide +kernel)
  exact ⟨loaded, hloaded, decide_eq_true_iff.1 hderives⟩

end SchemaLibrary

end OperationModels
