-- The documents of a run. A file among the inputs is taken as it is, and a
-- folder stands for the documents below it, in the order of their paths. Which
-- these are is said of the places on the disk, so neither the order of the
-- entries nor the way in which a folder and the schema are written counts.
import OperationModels.Proofs.MadeFolders
import OperationModels.Proofs.PathOrder

namespace OperationModels

open Files

namespace Files.Disk

/-! ## Trees of files -/

/-- A tree in which everything has a name, as in a file system. -/
structure IsFileTree (disk : Disk) : Prop extends disk.IsTree where
  rooted : disk.entries.get? [] = none
  named : ∀ location entry, disk.get? location = some entry →
    ∀ name ∈ location, Path.IsName name

theorem isFileTree_of_entries {disk : Disk} (htree : disk.IsTree)
    (h : ∀ item ∈ disk.entries.entries, item.1 ≠ [] ∧ ∀ name ∈ item.1, Path.IsName name) :
    disk.IsFileTree := by
  refine ⟨htree, ?_, fun location entry hentry => ?_⟩
  · cases hroot : disk.entries.get? [] with
    | none => rfl
    | some entry => exact absurd rfl (h _ (OrderedMap.mem_of_get?_eq_some hroot)).1
  · by_cases hlocation : location = []
    · subst hlocation
      exact fun _ hmem => nomatch hmem
    · rw [disk.get?_of_ne_root hlocation] at hentry
      exact (h _ (OrderedMap.mem_of_get?_eq_some hentry)).2

theorem IsFileTree.mem_entries_iff {disk : Disk} (h : disk.IsFileTree) {location : Location}
    {bytes : ByteArray} : (location, .file bytes) ∈ disk.entries.entries ↔
      disk.get? location = some (.file bytes) := by
  rw [OrderedMap.mem_entries_iff]
  by_cases hroot : location = []
  · rw [hroot, h.rooted, disk.get?_root]
    simp
  · rw [disk.get?_of_ne_root hroot]

/-- From a folder the names of what lies below it lead there. -/
theorem IsFileTree.foldlM_step {disk : Disk} (h : disk.IsFileTree) {folder : Location}
    {names : List String} {entry : Entry} (hentry : disk.get? (folder ++ names) = some entry) :
    names.foldlM disk.step folder = .ok (folder ++ names) := by
  induction names using List.reverseRecOn generalizing entry with
  | nil =>
    rw [List.append_nil]
    rfl
  | append_singleton names last ih =>
    obtain ⟨hfurther, hup, -, -, hshort⟩ :=
      h.named _ _ hentry last (List.mem_append_right _ (List.mem_append_right _ List.mem_cons_self))
    rw [← List.append_assoc] at hentry ⊢
    have hfolder := h.toIsTree.of_append hentry
    rw [foldlM_step_concat, ih hfolder]
    show disk.step (folder ++ names) last = _
    rw [step_of_folder hfolder, if_neg (by simp [hfurther]), if_neg hup,
      if_neg (Nat.not_lt.2 hshort)]

/-! ## Following -/

theorem resolve?_eq_some {disk : Disk} {path : Path} {location : Location} :
    disk.resolve? path = some location ↔ (path.text ≠ "" ∧ '\x00' ∉ path.text.toList) ∧
      path.segments.foldlM disk.step (disk.origin path) = .ok location ∧
        ∃ entry, disk.get? location = some entry := by
  unfold resolve? origin
  by_cases htext : path.text ≠ "" ∧ '\x00' ∉ path.text.toList
  · rw [if_neg (by simpa using htext)]
    cases path.segments.foldlM disk.step (if path.isAbsolute then [] else disk.here) with
    | error fault => simp
    | ok place =>
      simp only [htext, ne_eq, not_false_eq_true, and_self, true_and, Except.ok.injEq,
        Option.map_eq_some_iff]
      constructor
      · rintro ⟨entry, hentry, rfl⟩
        exact ⟨rfl, entry, hentry⟩
      · rintro ⟨rfl, entry, hentry⟩
        exact ⟨entry, hentry, rfl⟩
  · rw [if_pos (by simpa [Classical.or_iff_not_imp_left] using htext)]
    simp [htext]

/-- A path that is not too long is resolved as it is found. -/
theorem resolve?_of_find {disk : Disk} {path : Path} {location : Location} {entry : Entry}
    (h : disk.find path = .ok (location, entry)) : disk.resolve? path = some location := by
  obtain ⟨hreach, hentry⟩ := find_eq_ok.1 h
  rw [reach_eq] at hreach
  cases htext : path.textFault? with
  | some fault =>
    rw [htext] at hreach
    cases hreach
  | none =>
    rw [htext] at hreach
    obtain ⟨hsome, hnul, -⟩ := Path.textFault?_eq_none_iff.1 htext
    exact resolve?_eq_some.2 ⟨⟨hsome, hnul⟩, hreach, entry, hentry⟩

/-- Two paths that lead somewhere are the same if they lead to one place. -/
theorem sameFile_iff {disk : Disk} {a b : Path} {there other : Location}
    (ha : disk.resolve? a = some there) (hb : disk.resolve? b = some other) :
    disk.sameFile a b = true ↔ there = other := by
  unfold sameFile
  rw [ha, hb]
  exact decide_eq_true_iff

theorem below?_eq_some {folder location names : Location} :
    below? folder location = some names ↔ location = folder ++ names := by
  unfold below?
  by_cases hbelow : folder <+: location
  · rw [if_pos (List.isPrefixOf_iff_prefix.2 hbelow), Option.some.injEq]
    obtain ⟨rest, rfl⟩ := hbelow
    rw [List.drop_left, List.append_cancel_left_eq, eq_comm]
  · rw [if_neg (by rwa [List.isPrefixOf_iff_prefix])]
    refine iff_of_false (by simp) ?_
    rintro rfl
    exact hbelow (List.prefix_append _ _)

variable {disk : Disk} {input : Path} {folder : Location} {names : List String}

/-! ## Below a folder -/

theorem IsFileTree.isName_of_file (h : disk.IsFileTree) {entry : Entry}
    (hentry : disk.get? (folder ++ names) = some entry) : ∀ name ∈ names, Path.IsName name :=
  fun name hmem => h.named _ _ hentry name (List.mem_append_right _ hmem)

/-- From where a folder is, the names of what lies below it are followed behind
those of its path. -/
theorem IsFileTree.follow_joinAll (h : disk.IsFileTree)
    (hinput : disk.find input = .ok (folder, .folder)) {entry : Entry}
    (hentry : disk.get? (folder ++ names) = some entry) :
    disk.follow (input.joinAll names) = .ok (folder ++ names) := by
  obtain ⟨habsolute, hnames⟩ := input.names_joinAll (h.isName_of_file hentry)
  obtain ⟨-, hlead, -⟩ := find_folder_iff.1 hinput
  unfold follow at hlead ⊢
  rw [hnames, disk.origin_of_isAbsolute habsolute, List.foldlM_append, hlead]
  exact h.foldlM_step hentry

/-- A folder below an input can be opened by its path if this is not too long. -/
theorem IsFileTree.isFolder_joinAll_iff (h : disk.IsFileTree)
    (hinput : disk.find input = .ok (folder, .folder))
    (hfolder : disk.get? (folder ++ names) = some .folder) :
    disk.isFolder (input.joinAll names) = true ↔
      (input.joinAll names).text.utf8ByteSize ≤ maxPathBytes := by
  have htext := Path.textFault?_joinAll (find_folder_iff.1 hinput).1 (h.isName_of_file hfolder)
  rw [isFolder_iff, ← htext]
  constructor
  · rintro ⟨location, hfind⟩
    exact (find_folder_iff.1 hfind).1
  · intro hfits
    exact ⟨_, find_folder_iff.2 ⟨hfits, h.follow_joinAll hinput hfolder, hfolder⟩⟩

/-- However long its path is, it leads to the file. -/
theorem IsFileTree.resolve?_joinAll (h : disk.IsFileTree)
    (hinput : disk.find input = .ok (folder, .folder)) {last : String} {entry : Entry}
    (hentry : disk.get? (folder ++ (names ++ [last])) = some entry) :
    disk.resolve? (input.joinAll (names ++ [last])) = some (folder ++ (names ++ [last])) := by
  have hnames := h.isName_of_file hentry
  have hlead := h.follow_joinAll hinput hentry
  obtain ⟨hsome, hnul, -⟩ := Path.textFault?_eq_none_iff.1 (find_folder_iff.1 hinput).1
  refine resolve?_eq_some.2 ⟨Path.text_joinAll ⟨hsome, hnul⟩ hnames, ?_, entry, hentry⟩
  rw [List.forall_mem_append, List.forall_mem_singleton] at hnames
  obtain ⟨hfurther, -, hslash, -, -⟩ := hnames.2
  obtain ⟨-, hsegments⟩ := (input.joinAll names).segments_join hslash
  rw [← Path.joinAll_concat] at hsegments
  unfold follow Path.names at hlead
  rwa [hsegments, foldlM_step_of_last _ _ hfurther, ← hsegments]

theorem IsFileTree.mem_filesBelow_iff (h : disk.IsFileTree)
    (hinput : disk.find input = .ok (folder, .folder)) {path : Path} :
    path ∈ disk.filesBelow input ↔ ∃ folders last bytes,
      disk.get? (folder ++ (folders ++ [last])) = some (.file bytes) ∧
        (input.joinAll folders).text.utf8ByteSize ≤ maxPathBytes ∧
        path = input.joinAll (folders ++ [last]) := by
  have hcanonical : disk.canonical? input = some folder := canonical?_eq_some.2 ⟨_, hinput⟩
  unfold filesBelow
  rw [hcanonical]
  dsimp only
  rw [List.mem_filterMap]
  constructor
  · rintro ⟨⟨location, entry⟩, hmem, hpath⟩
    cases entry with
    | folder => cases hpath
    | file bytes =>
      obtain ⟨names, hbelow, hnames⟩ := Option.bind_eq_some_iff.1 hpath
      rw [below?_eq_some] at hbelow
      subst hbelow
      rw [h.mem_entries_iff] at hmem
      rcases List.eq_nil_or_concat' names with rfl | ⟨folders, last, rfl⟩
      · rw [List.append_nil, (find_eq_ok.1 hinput).2] at hmem
        cases hmem
      · rw [Option.ite_none_right_eq_some, List.dropLast_concat] at hnames
        obtain ⟨hopen, hsame⟩ := hnames
        have hfolder : disk.get? (folder ++ folders) = some .folder :=
          h.toIsTree.of_append (by rwa [List.append_assoc])
        exact ⟨folders, last, bytes, hmem, (h.isFolder_joinAll_iff hinput hfolder).1 hopen,
          (Option.some.inj hsame).symm⟩
  · rintro ⟨folders, last, bytes, hfile, hfits, rfl⟩
    have hfolder : disk.get? (folder ++ folders) = some .folder :=
      h.toIsTree.of_append (by rwa [List.append_assoc])
    refine ⟨_, h.mem_entries_iff.2 hfile, Option.bind_eq_some_iff.2 ⟨_, below?_eq_some.2 rfl, ?_⟩⟩
    rw [List.dropLast_concat, if_pos ((h.isFolder_joinAll_iff hinput hfolder).2 hfits)]

/-- No two files below a folder have one path. -/
theorem IsFileTree.pairwise_filesBelow (h : disk.IsFileTree) (input : Path) :
    (disk.filesBelow input).Pairwise (fun a b => a.parts ≠ b.parts) := by
  unfold filesBelow
  split
  · exact List.Pairwise.nil
  · rename_i folder _
    rw [List.pairwise_filterMap]
    refine (List.pairwise_map.1 disk.entries.distinct).imp_of_mem ?_
    rintro ⟨location, _ | _⟩ ⟨other, _ | _⟩ hmem hother hne a ha b hb <;> try contradiction
    obtain ⟨names, hnames, hpath⟩ := Option.bind_eq_some_iff.1 ha
    obtain ⟨others, hothers, hanother⟩ := Option.bind_eq_some_iff.1 hb
    obtain ⟨-, hpath⟩ := Option.ite_none_right_eq_some.1 hpath
    obtain ⟨-, hanother⟩ := Option.ite_none_right_eq_some.1 hanother
    rw [below?_eq_some] at hnames hothers
    subst hnames hothers
    rw [h.mem_entries_iff] at hmem hother
    rw [← Option.some.inj hpath, ← Option.some.inj hanother]
    intro hparts
    refine hne (congrArg (folder ++ ·) ?_)
    exact Path.joinAll_inj (h.isName_of_file hmem) (h.isName_of_file hother) hparts

end Files.Disk

namespace Command

/-! ## The documents of an input -/

/-- A path leads through a folder among the inputs to a document that is not the
schema, and the folder that the document lies in can be opened by its path. -/
def IsDocumentBelow (disk : Disk) (schema : Location) (input : Path) (folder : Location)
    (path : Path) : Prop :=
  ∃ folders stem bytes, stem ≠ "" ∧
    disk.get? (folder ++ (folders ++ [stem ++ ".graphql"])) = some (.file bytes) ∧
    folder ++ (folders ++ [stem ++ ".graphql"]) ≠ schema ∧
    (input.joinAll folders).text.utf8ByteSize ≤ Disk.maxPathBytes ∧
    path = input.joinAll (folders ++ [stem ++ ".graphql"])

/-- What an input stands for: a file for itself, and a folder for the documents
below it, each once and in the order of their paths. -/
inductive StandsFor (disk : Disk) (schema : Location) (input : Path) : List Path → Prop
  | file {location : Location} {bytes : ByteArray} :
      disk.find input = .ok (location, .file bytes) → StandsFor disk schema input [input]
  | folder {folder : Location} {documents : List Path} :
      disk.find input = .ok (folder, .folder) →
      documents.Pairwise (fun a b => b.le a = false) →
      (∀ path, path ∈ documents ↔ IsDocumentBelow disk schema input folder path) →
      StandsFor disk schema input documents

theorem StandsFor.unique {disk : Disk} {schema : Location} {input : Path}
    {documents others : List Path} (h : StandsFor disk schema input documents)
    (hothers : StandsFor disk schema input others) : documents = others := by
  cases h with
  | file hfind =>
    cases hothers with
    | file => rfl
    | folder hother =>
      rw [hfind] at hother
      cases hother
  | folder hfind hordered hmem =>
    cases hothers with
    | file hother =>
      rw [hfind] at hother
      cases hother
    | folder hother hothersOrdered hothersMem =>
      rw [hfind] at hother
      cases hother
      exact Path.eq_of_pairwise_of_mem_iff hordered hothersOrdered
        (fun path => (hmem path).trans (hothersMem path).symm)

variable {disk : Disk} {schema : Path} {location : Location}

theorem mem_documentsBelow_iff (htree : disk.IsFileTree)
    (hschema : disk.resolve? schema = some location) {input : Path} {folder : Location}
    (hinput : disk.find input = .ok (folder, .folder)) {path : Path} :
    path ∈ documentsBelow disk schema input ↔
      IsDocumentBelow disk location input folder path := by
  unfold documentsBelow IsDocumentBelow
  rw [List.mem_mergeSort, List.mem_filter, htree.mem_filesBelow_iff hinput, Bool.and_eq_true,
    Bool.not_eq_true', decide_eq_true_eq, Bool.eq_false_iff, ne_eq]
  constructor
  · rintro ⟨⟨folders, last, bytes, hfile, hfits, rfl⟩, hextension, hother⟩
    have hname := htree.isName_of_file hfile last (List.mem_append_right _ List.mem_cons_self)
    rw [Path.extension?_joinAll hname, Path.splitName_snd_eq_some] at hextension
    obtain ⟨stem, hstem, hlast, -⟩ := hextension
    rw [String.append_assoc] at hlast
    subst hlast
    rw [Disk.sameFile_iff (htree.resolve?_joinAll hinput hfile) hschema] at hother
    exact ⟨folders, stem, bytes, hstem, hfile, hother, hfits, rfl⟩
  · rintro ⟨folders, stem, bytes, hstem, hfile, hother, hfits, rfl⟩
    have hname := htree.isName_of_file hfile _ (List.mem_append_right _ List.mem_cons_self)
    refine ⟨⟨folders, _, bytes, hfile, hfits, rfl⟩, ?_, ?_⟩
    · rw [Path.extension?_joinAll hname, Path.splitName_snd_eq_some]
      exact ⟨stem, hstem, by rw [String.append_assoc]; rfl, by decide⟩
    · rwa [Disk.sameFile_iff (htree.resolve?_joinAll hinput hfile) hschema]

theorem documentsOf_eq_ok_iff (htree : disk.IsFileTree)
    (hschema : disk.resolve? schema = some location) {input : Path} {documents : List Path} :
    documentsOf disk schema input = .ok documents ↔
      StandsFor disk location input documents := by
  have hfound : ∀ documents, documentsOf disk schema input = .ok documents →
      StandsFor disk location input documents := by
    intro documents h
    unfold documentsOf at h
    split_ifs at h with hfile hfolder
    · cases h
      unfold Disk.isFile at hfile
      split at hfile
      · exact .file ‹_›
      · cases hfile
    · cases h
      obtain ⟨folder, hfind⟩ := Disk.isFolder_iff.1 hfolder
      refine .folder hfind ?_ (fun path => mem_documentsBelow_iff htree hschema hfind)
      exact Path.pairwise_mergeSort_le ((htree.pairwise_filesBelow input).filter _)
  refine ⟨hfound documents, fun h => ?_⟩
  cases hown : documentsOf disk schema input with
  | ok others => rw [(hfound others hown).unique h]
  | error message =>
    unfold documentsOf Disk.isFile Disk.isFolder at hown
    cases h <;> simp_all

/-! ## The documents of all inputs -/

/-- An input that leads neither to a file nor to a folder. -/
def isMissing (disk : Disk) (input : Path) : Bool := !disk.isFile input && !disk.isFolder input

theorem failure?_documentsOf (disk : Disk) (schema input : Path) :
    failure? (documentsOf disk schema input) =
      if isMissing disk input then some (missingInput input) else none := by
  unfold documentsOf isMissing
  cases disk.isFile input <;> cases disk.isFolder input <;> rfl

theorem failure?_collectDocuments (disk : Disk) (schema : Path) (inputs : List Path) :
    failure? (collectDocuments disk schema inputs) =
      (inputs.find? (isMissing disk)).map missingInput := by
  have hflat : failure? (collectDocuments disk schema inputs) =
      failure? (inputs.mapM (documentsOf disk schema)) := by
    unfold collectDocuments
    cases inputs.mapM (documentsOf disk schema) <;> rfl
  rw [hflat, failure?_mapM]
  clear hflat
  simp only [failure?_documentsOf]
  induction inputs with
  | nil => rfl
  | cons input rest ih =>
    rw [List.findSome?_cons, List.find?_cons]
    cases isMissing disk input with
    | true => rfl
    | false => exact ih

theorem collectDocuments_eq_ok_iff (htree : disk.IsFileTree)
    (hschema : disk.resolve? schema = some location) {inputs documents : List Path} :
    collectDocuments disk schema inputs = .ok documents ↔
      ∃ parts, List.Forall₂ (StandsFor disk location) inputs parts ∧ documents = parts.flatten := by
  unfold collectDocuments
  rw [bind_eq_ok]
  simp only [pure_eq_ok, mapM_eq_ok, documentsOf_eq_ok_iff htree hschema]
  exact exists_congr fun parts => and_congr_right fun _ => eq_comm

end Command

/-! ## The order of entries -/

namespace Files.Disk

/-- Two disks with the same entries, in whatever order. -/
structure Alike (disk other : Disk) : Prop where
  here : other.here = disk.here
  entries : other.entries.entries.Perm disk.entries.entries

variable {disk other : Disk}

theorem Alike.get? (h : disk.Alike other) : other.get? = disk.get? := by
  have hentries : ∀ location, other.entries.get? location = disk.entries.get? location := by
    intro location
    ext entry
    rw [← OrderedMap.mem_entries_iff, ← OrderedMap.mem_entries_iff, h.entries.mem_iff]
  funext location
  unfold Disk.get?
  rw [hentries]

theorem Alike.find (h : disk.Alike other) : other.find = disk.find := by
  have hstep : other.step = disk.step := by
    funext location segment
    unfold step
    rw [h.get?]
  funext path
  unfold Disk.find reach
  rw [hstep, h.here, h.get?]

theorem Alike.isFileTree (h : disk.Alike other) (htree : disk.IsFileTree) : other.IsFileTree := by
  have hget := h.get?
  refine isFileTree_of_entries ⟨?_, ?_⟩ ?_
  · rw [h.here, hget]
    exact htree.here
  · rw [hget]
    exact htree.above
  · rintro ⟨location, entry⟩ hmem
    rw [h.entries.mem_iff, OrderedMap.mem_entries_iff] at hmem
    have hlocation : location ≠ [] := by
      rintro rfl
      rw [htree.rooted] at hmem
      cases hmem
    refine ⟨hlocation, htree.named location entry ?_⟩
    rw [disk.get?_of_ne_root hlocation, hmem]

end Files.Disk

namespace Command

theorem StandsFor.of_alike {disk other : Disk} (halike : disk.Alike other) {schema : Location}
    {input : Path} {documents : List Path} (h : StandsFor disk schema input documents) :
    StandsFor other schema input documents := by
  cases h with
  | file hfind => exact .file (halike.find ▸ hfind)
  | folder hfind hordered hmem =>
    refine .folder (halike.find ▸ hfind) hordered ?_
    unfold IsDocumentBelow at hmem ⊢
    rwa [halike.get?]

/-- The order in which a disk lists its entries makes no difference. -/
theorem collectDocuments_of_alike {disk other : Disk} (halike : disk.Alike other)
    (htree : disk.IsFileTree) {schema : Path} {location : Location} {entry : Entry}
    (hschema : disk.find schema = .ok (location, entry)) (inputs : List Path) :
    collectDocuments other schema inputs = collectDocuments disk schema inputs := by
  cases hdocuments : collectDocuments disk schema inputs with
  | error message =>
    have hmissing : isMissing other = isMissing disk := by
      funext input
      unfold isMissing Disk.isFile Disk.isFolder
      rw [halike.find]
    rw [← failure?_eq_some, failure?_collectDocuments] at hdocuments ⊢
    rwa [hmissing]
  | ok documents =>
    rw [collectDocuments_eq_ok_iff htree (Disk.resolve?_of_find hschema)] at hdocuments
    obtain ⟨parts, hparts, hflat⟩ := hdocuments
    have hother : other.find schema = .ok (location, entry) := by rw [halike.find, hschema]
    rw [collectDocuments_eq_ok_iff (halike.isFileTree htree) (Disk.resolve?_of_find hother)]
    exact ⟨parts, hparts.imp (fun _ _ h => h.of_alike halike), hflat⟩

/-! ## The law -/

/-- On a tree of files that holds the schema, collecting the documents fails
exactly if an input is neither a file nor a folder, and then it tells of the
first such input. Otherwise it gives, input by input, each file as it is and for
each folder the files below it with the extension of documents, without the
schema, each once and in path order, as far as the folders that they lie in can
be opened by their paths. In which order the disk lists its entries makes no
difference. No entry is a link, so a file lies below a folder in one way, and only
the length of a path can keep a folder from being opened. -/
theorem documents_are_the_files_below_each_input_in_path_order (disk : Disk)
    (htree : disk.IsFileTree) (schema : Path) (location : Location) (bytes : ByteArray)
    (hschema : disk.find schema = .ok (location, .file bytes)) (inputs : List Path) :
    (∀ message, collectDocuments disk schema inputs = .error message ↔
      ∃ input, inputs.find? (fun input => !disk.isFile input && !disk.isFolder input) =
          some input ∧ message = input.text ++ " does not exist") ∧
      (∀ documents, collectDocuments disk schema inputs = .ok documents ↔
        ∃ parts, List.Forall₂ (StandsFor disk location) inputs parts ∧
          documents = parts.flatten) ∧
      ∀ other : Disk, other.here = disk.here →
        other.entries.entries.Perm disk.entries.entries →
          collectDocuments other schema inputs = collectDocuments disk schema inputs := by
  refine ⟨fun message => ?_, fun documents => ?_, fun other hhere hentries => ?_⟩
  · rw [← failure?_eq_some, failure?_collectDocuments, Option.map_eq_some_iff]
    exact exists_congr fun input => and_congr_right fun _ => eq_comm
  · exact collectDocuments_eq_ok_iff htree (Disk.resolve?_of_find hschema)
  · exact collectDocuments_of_alike ⟨hhere, hentries⟩ htree hschema inputs

/-- A schema in a folder with documents, of which one lies deeper. -/
def shelfDisk : Disk where
  entries := .ofList
    [(["q"], .folder), (["q", "b.graphql"], .file "{ a }".toUTF8), (["q", "c"], .folder),
      (["q", "api.graphql"], .file "type Query \x7b a: Int \x7d".toUTF8),
      (["q", "c", "a.graphql"], .file "{ a }".toUTF8), (["q", "notes.txt"], .file "".toUTF8)]
  here := ["q", "c"]

theorem isFileTree_shelfDisk : shelfDisk.IsFileTree :=
  Disk.isFileTree_of_entries (Disk.isTree_of_entries (by decide) (by decide)) (by decide +kernel)

/-- The folder is written in another way than the schema. -/
theorem documents_of_a_shelf_are_the_files_below_it_in_path_order :
    (∀ documents,
      collectDocuments shelfDisk ⟨"../api.graphql"⟩ [⟨"/q/."⟩] = .ok documents ↔
        ∃ parts, List.Forall₂ (StandsFor shelfDisk ["q", "api.graphql"]) [⟨"/q/."⟩] parts ∧
          documents = parts.flatten) ∧
      ∀ other : Disk, other.here = shelfDisk.here →
        other.entries.entries.Perm shelfDisk.entries.entries →
          collectDocuments other ⟨"../api.graphql"⟩ [⟨"/q/."⟩] =
            collectDocuments shelfDisk ⟨"../api.graphql"⟩ [⟨"/q/."⟩] := by
  have hschema : shelfDisk.find ⟨"../api.graphql"⟩ =
      .ok (["q", "api.graphql"], .file "type Query \x7b a: Int \x7d".toUTF8) := rfl
  exact (documents_are_the_files_below_each_input_in_path_order _ isFileTree_shelfDisk _ _ _
    hschema _).2

/-- A document in a folder of a folder, beside a schema. -/
def deepDisk : Disk where
  entries := .ofList
    [(["api.graphql"], .file "type Query \x7b a: Int \x7d".toUTF8), (["d"], .folder),
      (["d", "e"], .folder), (["d", "e", "q.graphql"], .file "{ a }".toUTF8)]
  here := []

theorem isFileTree_deepDisk : deepDisk.IsFileTree :=
  Disk.isFileTree_of_entries (Disk.isTree_of_entries (by decide) (by decide)) (by decide +kernel)

/-- The path of the outer folder, behind dots and slashes. -/
def dottedPath (dots : Nat) : Path := .ofSegments false (List.replicate dots "." ++ ["d"])

theorem text_dottedPath (dots : Nat) :
    (dottedPath dots).text.utf8ByteSize = 2 * dots + 1 ∧
      '\x00' ∉ (dottedPath dots).text.toList := by
  unfold dottedPath Path.ofSegments
  rw [if_neg (by simp), String.empty_append]
  induction dots with
  | zero => decide
  | succ dots ih =>
    rw [List.replicate_succ, List.cons_append, String.intercalate_cons_of_ne_nil (by simp)]
    refine ⟨?_, by simpa using ih.2⟩
    rw [String.utf8ByteSize_append, String.utf8ByteSize_append, ih.1]
    have hdot : ".".utf8ByteSize = 1 := rfl
    have hslash : "/".utf8ByteSize = 1 := rfl
    omega

theorem find_dottedPath {dots : Nat} (h : 2 * dots + 1 ≤ Disk.maxPathBytes) :
    deepDisk.find (dottedPath dots) = .ok (["d"], .folder) := by
  obtain ⟨hsize, hnul⟩ := text_dottedPath dots
  have hplain : ∀ segment ∈ List.replicate dots "." ++ ["d"], '/' ∉ segment.toList := by
    intro segment hmem
    rcases List.mem_append.1 hmem with hdot | hlast
    · rw [List.eq_of_mem_replicate hdot]
      decide
    · rw [List.mem_singleton.1 hlast]
      decide
  have hfront : (List.replicate dots "." ++ ["d"]).head? ≠ some "" := by
    cases dots <;> simp [List.replicate_succ]
  have hnames : (dottedPath dots).names = ["d"] := by
    unfold dottedPath
    rw [Path.names_ofSegments hplain (fun _ => hfront), List.filter_append,
      List.filter_replicate_of_neg (by decide)]
    rfl
  refine Disk.find_folder_iff.2 ⟨Path.textFault?_eq_none_iff.2 ⟨?_, hnul, hsize ▸ h⟩, ?_, rfl⟩
  · intro hempty
    rw [hempty] at hsize
    cases hsize
  · unfold Disk.follow Disk.origin
    rw [hnames]
    split <;> rfl

/-- Where the path of the outer folder is as long as a path may be, the inner one
is passed over, and its document with it. -/
theorem a_document_in_a_folder_with_a_long_path_is_passed_over :
    deepDisk.find ⟨"api.graphql"⟩ =
        .ok (["api.graphql"], .file "type Query \x7b a: Int \x7d".toUTF8) ∧
      deepDisk.find (dottedPath 2047) = .ok (["d"], .folder) ∧
      deepDisk.get? (["d"] ++ ["e", "q.graphql"]) = some (.file "{ a }".toUTF8) ∧
      collectDocuments deepDisk ⟨"api.graphql"⟩ [dottedPath 2047] = .ok [] := by
  have hschema : deepDisk.find ⟨"api.graphql"⟩ =
      .ok (["api.graphql"], .file "type Query \x7b a: Int \x7d".toUTF8) := rfl
  have hinput : deepDisk.find (dottedPath 2047) = .ok (["d"], .folder) :=
    find_dottedPath (by decide)
  refine ⟨hschema, hinput, rfl, ?_⟩
  rw [collectDocuments_eq_ok_iff isFileTree_deepDisk (Disk.resolve?_of_find hschema)]
  refine ⟨[[]], .cons (.folder hinput .nil fun path => ?_) .nil, rfl⟩
  refine iff_of_false (List.not_mem_nil) ?_
  rintro ⟨folders, stem, bytes, -, hfile, -, hfits, -⟩
  have hplaces : ∀ item ∈ deepDisk.entries.entries, item.1 = ["api.graphql"] ∨ item.1 = ["d"] ∨
      item.1 = ["d", "e"] ∨ item.1 = ["d"] ++ (["e"] ++ ["q.graphql"]) := by
    decide
  rcases hplaces _ (isFileTree_deepDisk.mem_entries_iff.2 hfile) with h | h | h | h
  · simp at h
  · simp at h
  · dsimp only at h
    rw [h] at hfile
    cases hfile
  · obtain ⟨rfl, -⟩ := List.append_inj' (List.append_cancel_left h) rfl
    -- with or without a slash between them, one more name is too much
    have hjoined : (dottedPath 2047).text.utf8ByteSize <
        ((dottedPath 2047).joinAll ["e"]).text.utf8ByteSize := by
      have hname : "e".utf8ByteSize = 1 := rfl
      unfold Path.joinAll Path.join
      rw [List.foldl_cons, List.foldl_nil, if_neg (by decide)]
      split_ifs <;> simp only [String.utf8ByteSize_append] <;> omega
    rw [(text_dottedPath 2047).1] at hjoined
    exact absurd (hjoined.trans_le hfits) (by decide)

end Command

end OperationModels
