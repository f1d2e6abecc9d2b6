-- The documents of a run on their own. Where the files of the documents lie
-- apart, each document is told of once, in order, and both what is told and
-- what is written is as in a run over that document alone.
import OperationModels.Proofs.RepeatedWrites

namespace OperationModels

open Files

/-! ## Other inputs -/

/-- Other inputs on the command line change nothing but the inputs. -/
theorem Settings.resolve_operations {flags : InputFlags} {outDir : Option Path}
    {config : Option Config} {folder : Path} {settings : Settings} {inputs : List Path}
    (hsome : inputs ≠ []) (h : Settings.resolve flags outDir config folder = .ok settings) :
    Settings.resolve { flags with operations := inputs } outDir config folder =
      .ok { settings with operations := inputs } := by
  have hinputs : ∀ others, Settings.firstNonEmpty inputs others = inputs := by
    intro others
    unfold Settings.firstNonEmpty
    rw [List.isEmpty_eq_false_iff.2 hsome]
    rfl
  unfold Settings.resolve at *
  dsimp only at *
  rw [hinputs, List.isEmpty_eq_false_iff.2 hsome]
  cases hschema : flags.schema <|> (config.getD .none).schema with
  | none =>
    rw [hschema] at h
    cases h
  | some name =>
    rw [hschema] at h
    cases hempty : (Settings.firstNonEmpty flags.operations (config.getD .none).operations).isEmpty
    · rw [hempty] at h
      cases hsource : Settings.chooseSource flags.variableSource
          (config.getD .none).variableSource with
      | error fault =>
        rw [hsource] at h
        cases h
      | ok source =>
        rw [hsource] at h
        cases h
        rfl
    · rw [hempty] at h
      cases h

namespace Command

/-- Other inputs on the command line change nothing else in the settings. -/
theorem settingsOf_operations {disk : Disk} {flags : InputFlags} {outDir : Option Path}
    {settings : Settings} {inputs : List Path} (hsome : inputs ≠ [])
    (h : settingsOf disk flags outDir = .ok settings) :
    settingsOf disk { flags with operations := inputs } outDir =
      .ok { settings with operations := inputs } := by
  unfold settingsOf at *
  rw [bind_eq_ok] at h ⊢
  obtain ⟨config, hconfig, hresolve⟩ := h
  refine ⟨config, hconfig, ?_⟩
  cases hknown : Settings.resolve flags outDir config disk.herePath with
  | error fault =>
    rw [hknown] at hresolve
    cases hresolve
  | ok known =>
    rw [hknown] at hresolve
    cases hresolve
    rw [Settings.resolve_operations hsome hknown]
    rfl

/-! ## The names of documents -/

/-- A path that leads to a file ends in a name. -/
theorem exists_fileName?_of_file {disk : Disk} (htree : disk.IsTree) {path : Path}
    {location : Location} {bytes : ByteArray} (h : disk.find path = .ok (location, .file bytes)) :
    ∃ front last, path.segments = front ++ [last] ∧ Path.leadsFurther last = true ∧
      path.fileName? = some last := by
  obtain ⟨hreach, hfile⟩ := Disk.find_eq_ok.1 h
  obtain ⟨front, last, hsegments⟩ : ∃ front last, path.segments = front ++ [last] :=
    ⟨_, _, (List.dropLast_concat_getLast path.segments_ne_nil).symm⟩
  rw [Disk.reach_eq, hsegments] at hreach
  split at hreach
  · cases hreach
  rw [Disk.foldlM_step_concat, bind_eq_ok] at hreach
  obtain ⟨folder, -, hlast⟩ := hreach
  have hfolder := Disk.step_eq_ok hlast
  rw [Disk.step_of_folder hfolder] at hlast
  cases hfurther : Path.leadsFurther last with
  | false =>
    rw [if_pos hfurther, Except.ok.injEq] at hlast
    rw [← hlast, hfolder] at hfile
    cases hfile
  | true =>
    by_cases hdots : last = ".."
    · rw [if_neg (by simp [hfurther]), if_pos hdots, Except.ok.injEq] at hlast
      rw [← hlast, htree.above _ _ hfolder] at hfile
      cases hfile
    · have hname := Path.fileName?_of_segments hsegments hfurther
      rw [if_neg hdots] at hname
      exact ⟨front, last, hsegments, hfurther, hname⟩

/-- A path that leads to a file lies in one whose names lead to a folder. -/
theorem exists_folder_of_file {disk : Disk} (htree : disk.IsTree) {path : Path}
    {location : Location} {bytes : ByteArray} (h : disk.find path = .ok (location, .file bytes)) :
    ∃ folder place, path.parent? = some folder ∧ path.textFault? = none ∧
      disk.follow folder = .ok place ∧ disk.get? place = some .folder := by
  obtain ⟨front, final, hsegments, hfinal, -⟩ := exists_fileName?_of_file htree h
  have hnamed : path.names ≠ [] := List.ne_nil_of_mem (Path.last_mem_names hsegments hfinal)
  obtain ⟨folder, last, hfolder, hlies⟩ := Path.exists_liesIn_of_names_ne_nil hnamed
  have hreach := (Disk.find_eq_ok.1 h).1
  rw [Disk.reach_eq, hsegments] at hreach
  split at hreach
  · cases hreach
  · rename_i htext
    rw [Disk.foldlM_step_of_last _ _ hfinal, ← hsegments] at hreach
    have hlead : disk.follow path = .ok location := hreach
    rw [Disk.follow_of_liesIn hlies, bind_eq_ok] at hlead
    obtain ⟨place, hplace, hstep⟩ := hlead
    exact ⟨folder, place, hfolder, htext, hplace, Disk.step_eq_ok hstep⟩

theorem fileName?_of_isFile {disk : Disk} (htree : disk.IsTree) {path : Path}
    (h : disk.isFile path = true) : ∃ name, path.fileName? = some name := by
  unfold Disk.isFile at h
  split at h
  · rename_i location bytes hfind
    obtain ⟨-, last, -, -, hname⟩ := exists_fileName?_of_file htree hfind
    exact ⟨last, hname⟩
  · cases h

/-- What a run is over: its schema, and the documents of its inputs, of which
there is one at least. -/
theorem prepare_eq_ok {disk : Disk} {settings : Settings} {job : Job} :
    prepare disk settings = .ok job ↔
      ((libraryOf settings).load disk settings.schema).mapError Failure.message =
          .ok job.loaded ∧
        ∃ schema, ((libraryOf settings).locate disk settings.schema).mapError Failure.message =
            .ok schema ∧
          collectDocuments disk schema settings.operations = .ok job.documents ∧
          job.documents ≠ [] := by
  unfold prepare
  simp only [bind_eq_ok]
  constructor
  · rintro ⟨loaded, hloaded, schema, hschema, documents, hdocuments, hend⟩
    cases documents with
    | nil => cases hend
    | cons first others =>
      cases hend
      exact ⟨hloaded, schema, hschema, hdocuments, List.cons_ne_nil _ _⟩
  · rintro ⟨hloaded, schema, hschema, hdocuments, hsome⟩
    refine ⟨job.loaded, hloaded, schema, hschema, job.documents, hdocuments, ?_⟩
    rw [← List.isEmpty_eq_false_iff] at hsome
    rw [hsome]
    rfl

theorem fileName?_of_documentsOf {disk : Disk} (htree : disk.IsTree) {schema input : Path}
    {documents : List Path} (h : documentsOf disk schema input = .ok documents) :
    ∀ document ∈ documents, ∃ name, document.fileName? = some name := by
  unfold documentsOf at h
  split_ifs at h with hfile hfolder
  · cases h
    rw [List.forall_mem_singleton]
    exact fileName?_of_isFile htree hfile
  · cases h
    intro document hmem
    unfold documentsBelow at hmem
    rw [List.mem_mergeSort, List.mem_filter, Bool.and_eq_true, decide_eq_true_eq] at hmem
    -- a document below a folder has its extension, so it has a name
    obtain ⟨name, hname, -⟩ := Option.bind_eq_some_iff.1 hmem.2.1
    exact ⟨name, hname⟩

/-- All documents of a run have names. -/
theorem fileName?_of_mem_documents {disk : Disk} (htree : disk.IsTree) {settings : Settings}
    {job : Job} (h : prepare disk settings = .ok job) :
    ∀ document ∈ job.documents, ∃ name, document.fileName? = some name := by
  obtain ⟨-, schema, -, hdocuments, -⟩ := prepare_eq_ok.1 h
  unfold collectDocuments at hdocuments
  rw [bind_eq_ok] at hdocuments
  obtain ⟨found, hfound, hflat⟩ := hdocuments
  rw [pure_eq_ok] at hflat
  rw [← hflat]
  intro document hmem
  obtain ⟨own, hown, hmem⟩ := List.mem_flatten.1 hmem
  obtain ⟨input, -, hinput⟩ := exists_of_mem_forall₂ (mapM_eq_ok.1 hfound).flip hown
  exact fileName?_of_documentsOf htree hinput document hmem

/-! ## Shared folders -/

theorem makeFoldersOf_congr (disk : Disk) {target other : Path}
    (h : target.parent? = other.parent?) :
    makeFoldersOf disk target = makeFoldersOf disk other := by
  unfold makeFoldersOf
  rw [h]

/-- The folder that a document was read from need not be made. -/
theorem makeFoldersOf_beside {disk : Disk} (htree : disk.IsTree) {document target : Path}
    {text : String} (hread : disk.readText document = .ok text) (htarget : IsTarget target)
    (hparent : target.parent? = document.parent?) : makeFoldersOf disk target = (disk, none) := by
  unfold Disk.readText at hread
  rw [bind_eq_ok] at hread
  obtain ⟨⟨location, entry⟩, hfind, hentry⟩ := hread
  cases entry with
  | folder => cases hentry
  | file bytes =>
    obtain ⟨folder, place, hfolder, htext, hplace, hthere⟩ :=
      exists_folder_of_file htree hfind
    rw [hfolder] at hparent
    rw [makeFoldersOf_of_parent? disk hparent]
    by_cases hempty : folder.text = ""
    · rw [Disk.createFolders_empty disk hempty]
      rfl
    · obtain ⟨last, hlies⟩ := Path.exists_liesIn_of_parent? htarget.named hparent
      have husable : disk.Usable folder :=
        ⟨Path.textFault?_of_parent? hfolder hempty htext, Path.isTidy_of_parent? hfolder,
          hlies.level htarget.level, htree.origin folder⟩
      rw [husable.createFolders (Disk.isFolder_of_follow husable.text hplace hthere)]
      rfl

/-- A document that gave models could be read. -/
theorem exists_readText_of_outcomeOf {disk : Disk} {loaded : LoadedSchema}
    {options : GenerationOptions} {document : Path}
    (h : (outcomeOf disk loaded options document).isFailure = false) :
    ∃ text, disk.readText document = .ok text := by
  unfold Outcome.isFailure outcomeOf SchemaLibrary.read at h
  cases hread : disk.readText document with
  | ok text => exact ⟨text, rfl⟩
  | error fault =>
    rw [hread] at h
    cases h

/-- All documents of a run ask for the same folders. -/
theorem exists_sharesFolders {disk : Disk} (htree : disk.IsTree) (loaded : LoadedSchema)
    (options : GenerationOptions) {outDir : Option Path} {documents : List Path}
    (hnames : ∀ document ∈ documents, ∃ name, document.fileName? = some name)
    (hup : ∀ document ∈ documents, ".." ∉ (outputPath document outDir).names) :
    ∃ made told, ∀ document ∈ documents,
      SharesFolders disk made told outDir (outcomeOf disk loaded options document) := by
  have htargets : ∀ document ∈ documents, IsTarget (outputPath document outDir) ∧
      (outputPath document outDir).parent? = outputFolder? document outDir := by
    intro document hmem
    obtain ⟨name, hname⟩ := hnames document hmem
    exact isTarget_outputPath hname (hup document hmem)
  cases outDir with
  | none =>
    refine ⟨disk, none, fun document hmem => ?_⟩
    obtain ⟨htarget, hparent⟩ := htargets document hmem
    refine ⟨htarget, rfl, rfl, fun hok => ?_⟩
    obtain ⟨text, hread⟩ := exists_readText_of_outcomeOf hok
    exact makeFoldersOf_beside htree hread htarget hparent
  | some folder =>
    cases documents with
    | nil => exact ⟨disk, none, fun _ hmem => nomatch hmem⟩
    | cons first others =>
      rcases hshared : makeFoldersOf disk (outputPath first (some folder)) with ⟨made, told⟩
      refine ⟨made, told, fun document hmem => ?_⟩
      obtain ⟨htarget, hparent⟩ := htargets document hmem
      have hfirst := (htargets first List.mem_cons_self).2
      have hsame := makeFoldersOf_congr disk (hparent.trans hfirst.symm)
      rw [hshared] at hsame
      have hchanges := changes_makeFoldersOf disk (outputPath document (some folder))
      have hclear := get?_makeFoldersOf disk htarget
      rw [hsame] at hchanges hclear
      exact ⟨htarget, hchanges.here, hclear, fun _ => hsame⟩

/-! ## What a run tells -/

/-- One report of a document: that its models were written, or that there are
none, behind its warnings. -/
inductive Told.Reports (document target : Path) : Told → Prop
  | generated (warnings : List Warning) :
    Reports document target
      ⟨[s!"generated {document.text} -> {target.text}"],
        warnings.map (fun warning => .line s!"warning {document.text}: {warning.text}")⟩
  | error (warnings : List Warning) (message : String) :
    Reports document target
      ⟨[], warnings.map (fun warning => .line s!"warning {document.text}: {warning.text}") ++
        [errorNote document message]⟩

theorem reports_toldOn (disk : Disk) (outDir : Option Path) (outcome : Outcome) :
    (toldOn disk outDir outcome).Reports outcome.document
      (outputPath outcome.document outDir) := by
  have hwarnings : ∃ warnings : List Warning, outcome.warningNotes =
      warnings.map (fun warning =>
        .line s!"warning {outcome.document.text}: {warning.text}") := by
    unfold Outcome.warningNotes
    cases outcome.result with
    | error failure => exact ⟨[], rfl⟩
    | ok generated => exact ⟨generated.warnings, rfl⟩
  obtain ⟨warnings, hwarnings⟩ := hwarnings
  unfold toldOn Outcome.told
  rw [hwarnings]
  cases (writeOutcome disk outDir outcome).2 with
  | none => exact .generated warnings
  | some message => exact .error warnings message

/-- A report of what is told of some documents. It ends with how many failed, if
any did, and only then the run fails. -/
structure Report.TellsOf (report : Report) (told : List Told) : Prop where
  out : report.out = told.flatMap Told.out
  lines : report.lines = linesOf (told.flatMap Told.notes) ++
    if told.countP Told.isError = 0 then []
    else [failedMessage (told.countP Told.isError) told.length]
  exit : report.exit = if told.countP Told.isError = 0 then 0 else 1

theorem length_toldAll (disk : Disk) (outDir : Option Path) (outcomes : List Outcome) :
    (toldAll disk outDir outcomes).length = outcomes.length := by
  induction outcomes generalizing disk with
  | nil => rfl
  | cons outcome rest ih => rw [toldAll, List.length_cons, List.length_cons, ih]

/-- What a run of `generate` leaves, and that its report tells of each document. -/
theorem runGenerate_tellsOf {disk : Disk} {flags : InputFlags} {outDir : Option Path}
    {settings : Settings} {outcomes : List Outcome}
    (h : settled disk flags outDir = .ok (settings, outcomes)) :
    (runGenerate disk flags outDir).1 = diskAfter disk settings.outDir outcomes ∧
      (runGenerate disk flags outDir).2.TellsOf (toldAll disk settings.outDir outcomes) := by
  rw [runGenerate_eq_telling h]
  refine ⟨rfl, ?_, ?_, ?_⟩
  · rw [Progress.out_report]
    rfl
  · rw [Progress.lines_report, Progress.linesOf_telling _ (linesOf_settledEvents _ _ _),
      length_toldAll]
    rfl
  · rw [Progress.exit_report]
    rfl

/-- Settings and a job settle a run. -/
theorem settled_of_prepare {disk : Disk} {flags : InputFlags} {outDir : Option Path}
    {settings : Settings} {job : Job} (hsettings : settingsOf disk flags outDir = .ok settings)
    (hjob : prepare disk settings = .ok job) :
    settled disk flags outDir = .ok (settings,
      job.documents.map (outcomeOf disk job.loaded (optionsOf settings))) := by
  unfold settled outcomes
  rw [hsettings]
  simp only [bind, Except.bind, hjob]
  rfl

/-! ## The law -/

/-- A run over one document alone that has the same schema, options and output
folder as a larger run tells of the document what the larger run told, and
leaves in the place of its models what the larger run left. Where models were
written their path leads to that place in both. -/
def ToldAlone (disk left : Disk) (settings : Settings) (loaded : LoadedSchema)
    (document : Path) (told : Told) : Prop :=
  ∀ (arguments : List String) (flags : InputFlags) (outDir : Option Path) (alone : Settings),
    Request.parse? arguments = some (.generate flags outDir) →
    settingsOf disk flags outDir = .ok alone →
    prepare disk alone = .ok ⟨loaded, [document]⟩ →
    alone.outDir = settings.outDir → optionsOf alone = optionsOf settings →
    ∃ (single : Disk) (report : Report), run disk arguments = (single, .report report) ∧
      report.TellsOf [told] ∧
      left.get? (disk.placeOf (outputPath document settings.outDir)) =
        single.get? (disk.placeOf (outputPath document settings.outDir)) ∧
      (told.isError = false →
        left.canonical? (outputPath document settings.outDir) =
            some (disk.placeOf (outputPath document settings.outDir)) ∧
          single.canonical? (outputPath document settings.outDir) =
            some (disk.placeOf (outputPath document settings.outDir)))

/-- A document whose models are left as a write at the start leaves them is told
of and left as alone. -/
theorem toldAlone_of_get? {disk left : Disk} {settings : Settings} {loaded : LoadedSchema}
    {document : Path} {outcome : Outcome}
    (houtcome : outcomeOf disk loaded (optionsOf settings) document = outcome)
    (hdocument : outcome.document = document)
    (htarget : IsTarget (outputPath outcome.document settings.outDir))
    (hsame : left.get? (outcome.place disk settings.outDir) =
      (writeOutcome disk settings.outDir outcome).1.get? (outcome.place disk settings.outDir))
    (hlead : (writeOutcome disk settings.outDir outcome).2 = none →
      left.canonical? (outputPath outcome.document settings.outDir) =
        some (outcome.place disk settings.outDir)) :
    ToldAlone disk left settings loaded document (toldOn disk settings.outDir outcome) := by
  intro arguments flags outDir alone hparse halone hlone hfolder hoptions
  have hsingle := settled_of_prepare halone hlone
  obtain ⟨hend, hreport⟩ := runGenerate_tellsOf hsingle
  rw [List.map_singleton, hoptions, houtcome, hfolder] at hend hreport
  rw [← hdocument]
  refine ⟨_, _, run_of_parse? disk hparse, hreport, ?_, ?_⟩
  · rw [hend]
    exact hsame
  · intro herror
    have hwritten : (writeOutcome disk settings.outDir outcome).2 = none := by
      have hsome := (outcome.isError_told settings.outDir _).symm.trans herror
      simpa using hsome
    obtain ⟨bytes, hfind⟩ := find_writeOutcome htarget hwritten
    rw [hend]
    exact ⟨hlead hwritten, Disk.canonical?_eq_some.2 ⟨_, hfind⟩⟩

/-- The documents of a run are independent if the paths of their files never
lead up and tell different places. Each is told of once, in order. The run fails
exactly if a document does, and then tells how many did. And of each document
it tells, and leaves in the place of its models, what a run over that document
alone does; for a document that is a file, there is such a run. Different places
hold different files, as no entry of a disk is a link, and every entry can be
opened whatever the run has written before. -/
theorem documents_of_a_run_are_independent (disk : Disk) (htree : disk.IsTree)
    (arguments : List String) (flags : InputFlags) (outDir : Option Path)
    (settings : Settings) (job : Job)
    (h : Request.parse? arguments = some (.generate flags outDir))
    (hsettings : settingsOf disk flags outDir = .ok settings)
    (hjob : prepare disk settings = .ok job)
    (hup : ∀ document ∈ job.documents, ".." ∉ (outputPath document settings.outDir).names)
    (hapart : (job.documents.map (fun document =>
      disk.placeOf (outputPath document settings.outDir))).Nodup) :
    ∃ (left : Disk) (report : Report) (told : List Told),
      run disk arguments = (left, .report report) ∧ report.TellsOf told ∧
      List.Forall₂ (fun document own =>
        own.Reports document (outputPath document settings.outDir) ∧
          ToldAlone disk left settings job.loaded document own) job.documents told ∧
      ∀ document ∈ job.documents, disk.isFile document = true →
        settingsOf disk { flags with operations := [document] } outDir =
            .ok { settings with operations := [document] } ∧
          prepare disk { settings with operations := [document] } =
            .ok ⟨job.loaded, [document]⟩ := by
  have hsettled := settled_of_prepare hsettings hjob
  obtain ⟨hleft, htells⟩ := runGenerate_tellsOf hsettled
  obtain ⟨made, told, hshares⟩ := exists_sharesFolders htree job.loaded
    (optionsOf settings) (fileName?_of_mem_documents htree hjob) hup
  have hplaces : ((job.documents.map (outcomeOf disk job.loaded (optionsOf settings))).map
      (Outcome.place disk settings.outDir)).Nodup := by
    rw [List.map_map]
    exact hapart
  have hfresh : Between disk made told disk [] := .fresh []
  obtain ⟨htold, heach, -⟩ := hfresh.writeAll htree (List.forall_mem_map.2 hshares) hplaces
    (fun _ _ hmem => nomatch hmem)
  rw [htold] at htells
  refine ⟨_, _, _, run_of_parse? disk h, htells, ?_, ?_⟩
  · rw [List.map_map, List.forall₂_map_right_iff, List.forall₂_same]
    intro document hmem
    obtain ⟨hsame, hlead⟩ := List.forall_mem_map.1 heach document hmem
    rw [← hleft] at hsame hlead
    exact ⟨reports_toldOn disk settings.outDir
        (outcomeOf disk job.loaded (optionsOf settings) document),
      toldAlone_of_get? rfl rfl (hshares document hmem).target hsame hlead⟩
  · intro document hmem hfile
    refine ⟨settingsOf_operations (List.cons_ne_nil _ _) hsettings, ?_⟩
    obtain ⟨hloaded, schema, hschema, -, -⟩ := prepare_eq_ok.1 hjob
    refine prepare_eq_ok.2 ⟨hloaded, schema, hschema, ?_, List.cons_ne_nil _ _⟩
    unfold collectDocuments documentsOf
    simp [hfile]

theorem isTree_mixedDisk : mixedDisk.IsTree :=
  Disk.isTree_of_entries (by decide) (by decide)

/-- The documents that the flags name. -/
def mixedDocuments : List Path := [⟨"clean.graphql"⟩, ⟨"failing.graphql"⟩, ⟨"warned.graphql"⟩]

theorem prepare_mixed :
    ∃ settings job, settingsOf mixedDisk mixedFlags (some ⟨"out"⟩) = .ok settings ∧
      prepare mixedDisk settings = .ok job ∧ settings.outDir = some ⟨"out"⟩ ∧
      job.documents = mixedDocuments := by
  have hany : (settingsOf mixedDisk mixedFlags (some ⟨"out"⟩)).toOption.any (fun settings =>
      settings.outDir = some ⟨"out"⟩ &&
        (prepare mixedDisk settings).toOption.any (fun job =>
          job.documents = mixedDocuments)) = true := by
    decide +kernel
  obtain ⟨settings, hsettings, htest⟩ := exists_of_any_toOption hany
  rw [Bool.and_eq_true, decide_eq_true_eq] at htest
  obtain ⟨job, hjob, hdocuments⟩ := exists_of_any_toOption htest.2
  rw [decide_eq_true_eq] at hdocuments
  exact ⟨settings, job, hsettings, hjob, htest.1, hdocuments⟩

/-- Three documents, of which one fails, in a folder that is made on the way. -/
theorem three_documents_are_independent :
    ∃ (settings : Settings) (job : Job) (left : Disk) (report : Report) (told : List Told),
      prepare mixedDisk settings = .ok job ∧ job.documents = mixedDocuments ∧
      run mixedDisk ("generate" :: mixedArguments ++ ["-o", "out"]) = (left, .report report) ∧
      report.TellsOf told ∧
      List.Forall₂ (fun document own =>
        own.Reports document (outputPath document (some ⟨"out"⟩)) ∧
          ToldAlone mixedDisk left settings job.loaded document own) mixedDocuments told := by
  obtain ⟨settings, job, hsettings, hjob, hfolder, hdocuments⟩ := prepare_mixed
  have h : Request.parse? ("generate" :: mixedArguments ++ ["-o", "out"]) =
      some (.generate mixedFlags (some ⟨"out"⟩)) := rfl
  have hup : ∀ document ∈ mixedDocuments,
      ".." ∉ (outputPath document (some ⟨"out"⟩)).names := by
    decide +kernel
  have hapart : (mixedDocuments.map (fun document =>
      mixedDisk.placeOf (outputPath document (some ⟨"out"⟩)))).Nodup := by
    decide +kernel
  obtain ⟨left, report, told, hrun, htells, heach, -⟩ :=
    documents_of_a_run_are_independent mixedDisk isTree_mixedDisk _ _ _ settings job h hsettings
      hjob (hdocuments ▸ hfolder ▸ hup) (hdocuments ▸ hfolder ▸ hapart)
  rw [hdocuments, hfolder] at heach
  exact ⟨settings, job, left, report, told, hjob, hdocuments, hrun, htells, heach⟩

end Command

end OperationModels
