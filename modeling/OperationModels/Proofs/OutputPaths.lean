-- The paths that models are written to. A document with a name has its models
-- beside it, in the folder that it lies in, or in the output folder; and all
-- that go to the output folder lie in one folder.
import OperationModels.Command.Documents
import OperationModels.Proofs.FollowedNames

namespace OperationModels.Files

namespace Path

/-! ## The last part -/

theorem partOf?_of_leadsFurther {segment : String} (h : leadsFurther segment = true)
    (atFront : Bool) :
    partOf? atFront segment = some (if segment = ".." then .up else .named segment) := by
  unfold leadsFurther at h
  rw [Bool.and_eq_true, decide_eq_true_eq, decide_eq_true_eq] at h
  unfold partOf?
  rw [if_neg h.1, if_neg h.2]
  split <;> rfl

theorem getLast?_parts {path : Path} {front : List String} {last : String}
    (hsegments : path.segments = front ++ [last]) (hlast : leadsFurther last = true) :
    path.parts.getLast? = some (if last = ".." then .up else .named last) := by
  have hpart := partOf?_of_leadsFurther hlast
  unfold parts
  rw [hsegments]
  cases path.isAbsolute with
  | true =>
    dsimp only
    rw [List.filterMap_append, ← List.cons_append]
    simp only [List.filterMap_cons, hpart, List.filterMap_nil, List.getLast?_concat]
  | false =>
    cases front with
    | nil =>
      rw [List.nil_append]
      dsimp only
      rw [hpart]
      rfl
    | cons first others =>
      rw [List.cons_append]
      dsimp only
      rw [List.filterMap_append, ← List.append_assoc]
      simp only [List.filterMap_cons, hpart, List.filterMap_nil, List.getLast?_concat]

theorem fileName?_of_segments {path : Path} {front : List String} {last : String}
    (hsegments : path.segments = front ++ [last]) (hlast : leadsFurther last = true) :
    path.fileName? = if last = ".." then none else some last := by
  unfold fileName?
  rw [getLast?_parts hsegments hlast]
  split_ifs <;> rfl

theorem mem_names_of_partOf? {path : Path} {segment name : String} {atFront : Bool}
    (hmem : segment ∈ path.segments) (h : partOf? atFront segment = some (.named name)) :
    name ∈ path.names := by
  unfold partOf? at h
  split_ifs at h with hempty hdot hfront hdots <;> cases h
  refine List.mem_filter.2 ⟨hmem, ?_⟩
  simp [leadsFurther, hempty, hdot]

/-- The name at the end of a path is one of its names. -/
theorem mem_names_of_fileName? {path : Path} {name : String} (h : path.fileName? = some name) :
    name ∈ path.names := by
  unfold fileName? at h
  split at h
  · rename_i known hlast
    cases h
    have hmem := List.mem_of_getLast? hlast
    unfold parts at hmem
    split at hmem
    · rw [List.mem_cons, List.mem_filterMap] at hmem
      rcases hmem with hroot | ⟨segment, hsegment, hpart⟩
      · cases hroot
      · exact mem_names_of_partOf? hsegment hpart
    · cases hmem
    · rename_i first others _ hsegments
      rw [List.mem_append, Option.mem_toList, List.mem_filterMap] at hmem
      rcases hmem with hpart | ⟨segment, hsegment, hpart⟩
      · exact mem_names_of_partOf? (hsegments ▸ List.mem_cons_self) hpart
      · exact mem_names_of_partOf? (hsegments ▸ List.mem_cons_of_mem _ hsegment) hpart
  · cases h

/-! ## Ends -/

theorem isTidy_of_segments {path : Path} {front : List String} {last : String}
    (hsegments : path.segments = front ++ [last]) (hlast : leadsFurther last = true) :
    path.IsTidy := .inr ⟨front, last, hsegments, hlast⟩

theorem last_mem_names {path : Path} {front : List String} {last : String}
    (hsegments : path.segments = front ++ [last]) (hlast : leadsFurther last = true) :
    last ∈ path.names := List.mem_filter.2 ⟨hsegments ▸ by simp, hlast⟩

/-- The path that a path lies in is told by what stands before its last
segment. -/
theorem parent?_of_segments {path : Path} {front : List String} {last : String}
    (hsegments : path.segments = front ++ [last]) (hlast : leadsFurther last = true) :
    path.parent? =
      some (ofSegments path.isAbsolute (dropIdle path.isAbsolute front.reverse).reverse) := by
  have htail : path.tail = last :: front.reverse := by
    unfold tail
    rw [hsegments, List.reverse_append, List.reverse_singleton, List.singleton_append]
    unfold dropIdle
    rw [partOf?_of_leadsFurther hlast]
    rfl
  unfold parent?
  rw [htail]

/-! ## Another extension -/

/-- The name behind the extension's change. -/
def renamed (extension name : String) : String :=
  if (splitName name).1 = "." then ".." else (splitName name).1 ++ "." ++ extension

theorem slash_not_mem_stem {name : String} (h : '/' ∉ name.toList) :
    '/' ∉ (splitName name).1.toList := by
  unfold splitName
  dsimp only
  split
  · rename_i mark before rest hrest
    rw [String.toList_ofList, List.mem_reverse]
    intro hmem
    have hsuffix : before :: rest <:+ name.toList.reverse :=
      (List.suffix_cons mark _).trans (hrest ▸ List.dropWhile_suffix _)
    exact h (List.mem_reverse.1 (hsuffix.subset hmem))
  · exact h

theorem leadsFurther_renamed (name : String) : leadsFurther (renamed "rs" name) = true := by
  unfold renamed
  split
  · rfl
  · have hlong : 2 ≤ ((splitName name).1 ++ "." ++ "rs").length := by
      rw [String.length_append]
      exact Nat.le_add_left 2 _
    unfold leadsFurther
    rw [Bool.and_eq_true, decide_eq_true_eq, decide_eq_true_eq]
    constructor
    · intro hempty
      rw [hempty] at hlong
      exact absurd hlong (by decide)
    · intro hdot
      rw [hdot] at hlong
      exact absurd hlong (by decide)

theorem slash_not_mem_renamed {name : String} (h : '/' ∉ name.toList) :
    '/' ∉ (renamed "rs" name).toList := by
  unfold renamed
  split
  · simp
  · rw [String.toList_append, String.toList_append, List.mem_append, List.mem_append, not_or,
      not_or]
    exact ⟨⟨slash_not_mem_stem h, by simp⟩, by simp⟩

/-- A path with a name keeps all but its last segment under another extension. -/
theorem segments_withExtension {path : Path} {name : String} (h : path.fileName? = some name) :
    ∃ last before, path.tail = last :: before ∧
      (path.withExtension "rs").isAbsolute = path.isAbsolute ∧
      (path.withExtension "rs").segments = before.reverse ++ [renamed "rs" name] := by
  have hname := mem_names_of_fileName? h
  have hslash : '/' ∉ name.toList :=
    path.slash_not_mem_segments name (List.mem_filter.1 hname).1
  unfold withExtension
  rw [h]
  cases htail : path.tail with
  | nil =>
    rw [names_eq_filter_tail, htail] at hname
    cases hname
  | cons last before =>
    have hbegins : before.reverse <+: path.segments :=
      (List.prefix_append _ _).trans (prefix_of_tail htail)
    obtain ⟨hplain, hfront⟩ := front_of_tail htail hbegins
    have hall : ∀ segment ∈ before.reverse ++ [renamed "rs" name], '/' ∉ segment.toList := by
      rw [List.forall_mem_append, List.forall_mem_singleton]
      exact ⟨hplain, slash_not_mem_renamed hslash⟩
    have hhead : path.isAbsolute = false →
        (before.reverse ++ [renamed "rs" name]).head? ≠ some "" := by
      intro habsolute
      cases hbefore : before.reverse with
      | nil =>
        intro hempty
        have hfurther := leadsFurther_renamed name
        rw [List.nil_append, List.head?_singleton, Option.some.injEq] at hempty
        rw [hempty] at hfurther
        cases hfurther
      | cons first others =>
        have hfirst := hfront habsolute
        rw [hbefore] at hfirst
        exact hfirst
    refine ⟨last, before, rfl, ?_⟩
    dsimp only
    rw [List.reverse_cons]
    exact ⟨isAbsolute_ofSegments hall hhead, segments_ofSegments hall hhead (by simp)⟩

/-- Under another extension a path lies where it lay. -/
theorem parent?_withExtension {path : Path} {name : String} (h : path.fileName? = some name) :
    (path.withExtension "rs").parent? = path.parent? := by
  obtain ⟨last, before, htail, habsolute, hsegments⟩ := segments_withExtension h
  rw [parent?_of_segments hsegments (leadsFurther_renamed name), habsolute, List.reverse_reverse]
  unfold parent?
  rw [htail]

/-! ## Behind a folder -/

/-- The segments of what lies in a folder, without its own. -/
def innerSegments (folder : Path) : List String :=
  if folder.text = "" || folder.text.toList.getLast? = some '/' then folder.segments.dropLast
  else folder.segments

/-- How a path starts is told by the front of its text. -/
theorem of_text_eq_append (path : Path) {front more : List Char}
    (htext : path.text.toList = front ++ more) (hfront : front ≠ []) :
    path.isAbsolute = decide (front.head? = some '/') ∧
      path.segments =
        Text.cutAt '/' ((if path.isAbsolute then front.tail else front) ++ more) := by
  unfold segments isAbsolute
  rw [htext]
  cases front with
  | nil => contradiction
  | cons c rest =>
    refine ⟨rfl, ?_⟩
    dsimp only
    rw [List.cons_append, List.head?_cons]
    split <;> rfl

/-- What stands behind a slash decides nothing but the last segments. -/
theorem exists_front_of_slash (front : List Char) :
    ∃ absolute inner, ∀ path : Path, ∀ rest, path.text.toList = front ++ '/' :: rest →
      path.isAbsolute = absolute ∧ path.segments = inner ++ Text.cutAt '/' rest := by
  cases front with
  | nil =>
    refine ⟨true, [], fun path rest htext => ?_⟩
    have habsolute : path.isAbsolute = true := by
      unfold isAbsolute
      rw [htext]
      rfl
    refine ⟨habsolute, ?_⟩
    unfold segments
    rw [habsolute, htext]
    rfl
  | cons c others =>
    refine ⟨decide (c = '/'), Text.cutAt '/' (if c = '/' then others else c :: others),
      fun path rest htext => ?_⟩
    obtain ⟨habsolute, hsegments⟩ := of_text_eq_append path htext (List.cons_ne_nil _ _)
    simp only [List.head?_cons, Option.some.injEq] at habsolute
    rw [hsegments, habsolute, Text.cutAt_append_cons]
    simp only [decide_eq_true_eq, List.tail_cons, and_self]

theorem innerSegments_of_text_empty {folder : Path} (h : folder.text = "") :
    folder.isAbsolute = false ∧ folder.innerSegments = [] := by
  unfold innerSegments segments isAbsolute
  rw [h]
  exact ⟨rfl, rfl⟩

/-- The segments of a folder without an empty one at the end. -/
theorem segments_eq_innerSegments (folder : Path) :
    folder.segments = folder.innerSegments ∨ folder.segments = folder.innerSegments ++ [""] := by
  by_cases hempty : folder.text = ""
  · right
    unfold innerSegments segments isAbsolute
    rw [hempty]
    rfl
  · by_cases hend : folder.text.toList.getLast? = some '/'
    · right
      obtain ⟨front, hfront⟩ := List.getLast?_eq_some_iff.1 hend
      obtain ⟨absolute, inner, hinner⟩ := exists_front_of_slash front
      have hsegments := (hinner folder [] hfront).2
      rw [Text.cutAt_of_not_mem (List.not_mem_nil)] at hsegments
      unfold innerSegments
      rw [hend, decide_eq_true rfl, Bool.or_true, if_pos rfl, hsegments, List.dropLast_concat]
    · left
      unfold innerSegments
      rw [decide_eq_false hempty, decide_eq_false hend]
      rfl

theorem names_of_innerSegments (folder : Path) :
    folder.innerSegments.filter leadsFurther = folder.names := by
  unfold names
  rcases folder.segments_eq_innerSegments with h | h
  · rw [h]
  · rw [h, List.filter_append]
    exact (List.append_nil _).symm

/-- A relative path behind a folder comes behind the segments of the folder. -/
theorem segments_join_of_relative (folder : Path) {path : Path}
    (hrelative : path.isAbsolute = false) :
    (folder.join path).isAbsolute = folder.isAbsolute ∧
      (folder.join path).segments = folder.innerSegments ++ path.segments := by
  have hown := segments_of_relative hrelative
  unfold join
  rw [hrelative, if_neg (by simp)]
  by_cases hempty : folder.text = ""
  · obtain ⟨habsolute, hinner⟩ := innerSegments_of_text_empty hempty
    rw [hempty, habsolute, hinner]
    simp only [decide_true, Bool.true_or, if_true, String.empty_append]
    exact ⟨hrelative, rfl⟩
  · have hsome : folder.text.toList ≠ [] := by simpa using hempty
    obtain ⟨hstart, hfolder⟩ := of_text_eq_append folder (List.append_nil _).symm hsome
    by_cases hend : folder.text.toList.getLast? = some '/'
    · obtain ⟨front, hfront⟩ := List.getLast?_eq_some_iff.1 hend
      obtain ⟨absolute, inner, hinner⟩ := exists_front_of_slash front
      obtain ⟨hstart, hsegments⟩ := hinner folder [] hfront
      have htext : (folder.text ++ path.text).toList = front ++ '/' :: path.text.toList := by
        rw [String.toList_append, hfront]
        simp
      obtain ⟨hboth, hjoined⟩ := hinner ⟨folder.text ++ path.text⟩ _ htext
      unfold innerSegments
      simp only [hempty, hend, decide_false, decide_true, Bool.false_or, if_true]
      rw [hboth, hjoined, hstart, hsegments, Text.cutAt_of_not_mem (List.not_mem_nil),
        List.dropLast_concat, hown]
      exact ⟨rfl, rfl⟩
    · unfold innerSegments
      simp only [hempty, hend, decide_false, Bool.or_self, Bool.false_eq_true, if_false]
      have htext : (folder.text ++ "/" ++ path.text).toList =
          folder.text.toList ++ '/' :: path.text.toList := by simp
      obtain ⟨hboth, hjoined⟩ := of_text_eq_append
        ⟨folder.text ++ "/" ++ path.text⟩ htext hsome
      refine ⟨hboth.trans hstart.symm, ?_⟩
      rw [hjoined, hboth, ← hstart, Text.cutAt_append_cons, hfolder, List.append_nil, hown]

/-- A name behind a folder comes behind the segments of the folder. -/
theorem segments_join (folder : Path) {name : String}
    (hslash : '/' ∉ name.toList) :
    (folder.join ⟨name⟩).isAbsolute = folder.isAbsolute ∧
      (folder.join ⟨name⟩).segments = folder.innerSegments ++ [name] := by
  have hrelative := isAbsolute_of_slash_not_mem hslash
  have hone : (⟨name⟩ : Path).segments = [name] := by
    rw [segments_of_relative hrelative, Text.cutAt_of_not_mem hslash, String.ofList_toList]
  rw [← hone]
  exact folder.segments_join_of_relative hrelative

end Path

end OperationModels.Files

namespace OperationModels.Command

open Files

/-! ## Targets -/

/-- The path of a file that never leads up and ends in a name. -/
structure IsTarget (target : Path) : Prop where
  tidy : target.IsTidy
  named : target.names ≠ []
  level : ".." ∉ target.names

theorem isTarget_of_segments {target : Path} {front : List String} {last : String}
    (hsegments : target.segments = front ++ [last]) (hlast : Path.leadsFurther last = true)
    (hup : ".." ∉ target.names) : IsTarget target :=
  ⟨Path.isTidy_of_segments hsegments hlast, List.ne_nil_of_mem (Path.last_mem_names hsegments hlast),
    hup⟩

/-- The folder of the models of a document: the one that the document lies in,
or the output folder. -/
def outputFolder? (document : Path) : Option Path → Option Path
  | none => document.parent?
  | some folder =>
    some (.ofSegments folder.isAbsolute
      (Path.dropIdle folder.isAbsolute folder.innerSegments.reverse).reverse)

/-- The models of a document with a name go to a file in their folder, unless
its path leads up. -/
theorem isTarget_outputPath {document : Path} {name : String} {outDir : Option Path}
    (hname : document.fileName? = some name) (hup : ".." ∉ (outputPath document outDir).names) :
    IsTarget (outputPath document outDir) ∧
      (outputPath document outDir).parent? = outputFolder? document outDir := by
  obtain ⟨last, before, -, -, hsegments⟩ := Path.segments_withExtension hname
  have hlast := Path.leadsFurther_renamed name
  have hbeside := Path.fileName?_of_segments hsegments hlast
  cases outDir with
  | none => exact ⟨isTarget_of_segments hsegments hlast hup, Path.parent?_withExtension hname⟩
  | some folder =>
    unfold outputPath at hup ⊢
    dsimp only at hup ⊢
    by_cases hdots : Path.renamed "rs" name = ".."
    · -- then the models would go beside the document, by a path that leads up
      rw [hbeside, if_pos hdots] at hup
      exact absurd (hdots ▸ Path.last_mem_names hsegments hlast) hup
    · rw [hbeside, if_neg hdots] at hup ⊢
      dsimp only at hup ⊢
      have hown : name ∈ document.segments :=
        (List.mem_filter.1 (Path.mem_names_of_fileName? hname)).1
      have hslash := Path.slash_not_mem_renamed (document.slash_not_mem_segments name hown)
      obtain ⟨habsolute, hjoined⟩ := folder.segments_join hslash
      refine ⟨isTarget_of_segments hjoined hlast hup, ?_⟩
      rw [Path.parent?_of_segments hjoined hlast, habsolute]
      rfl

end OperationModels.Command
