import Checkup.Proofs.EvidentFindings
import Checkup.Proofs.ScannedText
import Checkup.Proofs.TextStretches

/-!
# Orphans in a list, in a document and below a folder

madge lists orphans one a line, or as a document of their paths. Between the lines of a list it
also says what it does, and lines that read so are passed over. So a list gives the issues that the
document gives for the paths that do not read like a message, and the two agree exactly if no path
does.

The orphans are listed as seen from the folder that madge looks at, and their files are to be shown
as seen from the root. That holds where the folder is given by its names below the root. Where it is
given from the top the slash in front is taken away with the others, so the root is not
recognised any more, and its names stay in front of every file.
-/

namespace Checkup.Madge

open Text

/-! ## Lists and documents -/

section Lists

/-- A path as madge prints it: without blanks at its ends, and with the end of a source file. -/
structure IsSourcePath (path : String) : Prop where
  trimmed : trim path.toList = path.toList
  source : ∃ suffix ∈ sourceSuffixes, suffix.toList <:+ path.toList

/-- A line that reads like a message of madge about its work. -/
def isMessage (line : List Char) : Bool :=
  occurs "No orphans".toList line || (noiseStarts.any fun start => start.toList.isPrefixOf line) ||
    occurs "files (".toList line

/-- The document of some paths. -/
def document (paths : List String) : Value := .list (paths.map Value.text)

variable {base : String} {root : Option String} {paths : List String} {text : String}

/-- A path of a source file lists an orphan unless it reads like a message. -/
theorem IsSourcePath.isOrphanLine_eq {path : String} (h : IsSourcePath path) :
    isOrphanLine path.toList = !isMessage path.toList := by
  obtain ⟨suffix, hsuffix, hpath⟩ := h.source
  have hsource : (sourceSuffixes.any fun suffix => suffix.toList.isSuffixOf path.toList) = true :=
    List.any_eq_true.mpr ⟨suffix, hsuffix, List.isSuffixOf_iff_suffix.mpr hpath⟩
  have hsome : path.toList.isEmpty = false := by
    refine List.isEmpty_eq_false_iff.mpr fun hnil => ?_
    have hempty : ∀ suffix ∈ sourceSuffixes, suffix.toList ≠ [] := by decide
    rw [hnil] at hpath
    exact hempty suffix hsuffix (List.suffix_nil.mp hpath)
  unfold isOrphanLine isMessage
  rw [hsource, hsome, Bool.and_true, Bool.not_false, Bool.true_and, Bool.not_or, Bool.not_or]

/-- A list of paths lists the orphans that do not read like a message. -/
theorem orphansOfText_listed (hp : ∀ path ∈ paths, IsSourcePath path)
    (hl : lines text.toList = paths.map String.toList) :
    orphansOfText text = (paths.filter fun path => !isMessage path.toList).map String.toList := by
  have htrim : (paths.map String.toList).map trim = paths.map String.toList := by
    rw [List.map_map]
    exact List.map_congr_left fun path hpath => (hp path hpath).trimmed
  have hkept : paths.filter (isOrphanLine ∘ String.toList) = paths.filter fun path => !isMessage path.toList :=
    List.filter_congr fun path hpath => (hp path hpath).isOrphanLine_eq
  rw [orphansOfText, hl, htrim, List.filter_map, hkept]

/-- A document gives the issues of its paths. -/
theorem ofStructured_document (schema : String) :
    (orphans base root).ofStructured schema (document paths) =
      (paths.map String.toList).mapM (orphanIssue (orphanBase base) root) := by
  change (paths.map Value.text).mapM (fun item => orphanIssue (orphanBase base) root item.display.toList) = _
  rw [List.mapM_map, List.mapM_map]
  rfl

end Lists

open Value

/-! ## Folders -/

/-- The names on the way to a folder: none is empty, a dot or two dots, and none holds a separator. -/
def AreNames (names : List String) : Prop :=
  ∀ name ∈ names, name.toList ≠ [] ∧ name ≠ "." ∧ name ≠ ".." ∧ '/' ∉ name.toList ∧
    '\\' ∉ name.toList

instance (names : List String) : Decidable (AreNames names) := inferInstanceAs (Decidable (∀ name ∈ names, _))

/-- The text of a folder by its names. -/
def folderText (names : List String) : List Char := ['/'].intercalate (names.map String.toList)

/-- A text leads to a root from the top, by names with separators of either kind. -/
structure IsRoot (root : String) (names : List String) : Prop where
  /-- The root is given by names. -/
  named : AreNames names
  /-- Each name follows a separator. -/
  text : slashed root.toList = '/' :: folderText names

/-- A folder is given by its names below the root, alone or behind a dot, with separators of either kind. -/
def IsRelative (base : String) (folder : List String) : Prop :=
  slashed base.toList = folderText folder ∨ slashed base.toList = '.' :: '/' :: folderText folder

/-- A folder is given from the top, by the names of the root and those below it. -/
def IsAbsolute (base : String) (names folder : List String) : Prop :=
  slashed base.toList = '/' :: folderText (names ++ folder)

/-- An orphan as it is listed: without blanks at its ends, and with slashes alone. -/
structure IsOrphan (path : String) : Prop where
  trimmed : trim path.toList = path.toList
  slashes : '\\' ∉ path.toList

/-- The file of an orphan below a folder. -/
def fileBelow (folder : List String) (path : String) : List Char := folderText folder ++ '/' :: path.toList

/-- Output lists some orphans, in a document or one a line. -/
def Lists (stdout : String) (paths : List String) : Prop :=
  Json.read? (trim stdout.toList) = some (document paths) ∨
    (Json.read? (trim stdout.toList) = none ∧ orphansOfText stdout = paths.map String.toList)

/-- Output about a folder gives one issue for each of some files, and is about that file. -/
def Emits (base root stdout stderr : String) (files : List (List Char)) : Prop :=
  ∃ found, (orphans base (some root)).issues stdout stderr = .ok found ∧
    found.map Issue.file = files.map fun file => .text (String.ofList file)

variable {base root stdout : String} {folder names paths : List String} {file text : List Char}

/-- A folder neither starts nor ends with a slash, and no dot alone stands before its first slash. -/
theorem AreNames.folderText (h : AreNames names) (hne : names ≠ []) :
    folderText names ≠ [] ∧ Stops (· = '/') (folderText names) ∧ Stops (· = '/') (folderText names).reverse ∧
      after? ['.', '/'] (folderText names) = none := by
  have hparts : ∀ part ∈ names.map String.toList, part ≠ [] := by
    intro part hpart
    obtain ⟨name, hname, rfl⟩ := List.mem_map.mp hpart
    exact (h name hname).1
  obtain ⟨⟨first, hfirst, more, hstart, hmore⟩, last, hlast, front, hend⟩ :=
    @ends_intercalate ['/'] _ hparts (mt List.map_eq_nil_iff.mp hne)
  obtain ⟨name, hname, rfl⟩ := List.mem_map.mp hfirst
  obtain ⟨other, hother, rfl⟩ := List.mem_map.mp hlast
  obtain ⟨hfull, hdot, -, hslash, -⟩ := h name hname
  obtain ⟨hotherFull, -, -, hotherSlash, -⟩ := h other hother
  change Madge.folderText names = _ at hstart hend
  obtain ⟨c, tail, hc⟩ := List.exists_cons_of_ne_nil hfull
  refine ⟨?_, ?_, ?_, ?_⟩
  · rw [hstart]
    exact List.append_ne_nil_of_left_ne_nil hfull more
  · rw [hstart, hc]
    exact stops_cons (decide_eq_false (ne_of_mem_of_not_mem (hc ▸ List.mem_cons_self) hslash)) _
  · intro d hd
    rw [hend, List.head?_reverse, getLast?_append_of_ne_nil front hotherFull] at hd
    exact decide_eq_false (ne_of_mem_of_not_mem (List.mem_of_getLast? hd) hotherSlash)
  · refine Option.eq_none_iff_forall_ne_some.mpr fun rest hrest => ?_
    have hdotted := after?_eq_some.mp hrest
    rw [hstart, hc] at hdotted
    obtain ⟨rfl, htail⟩ := List.cons_eq_cons.mp hdotted
    cases tail with
    | nil => exact hdot (String.toList_inj.mp hc)
    | cons d tail =>
      obtain ⟨rfl, -⟩ := List.cons_eq_cons.mp htail
      exact hslash (hc ▸ List.mem_cons_of_mem _ List.mem_cons_self)

/-- Folders are joined with a slash between them. -/
theorem folderText_append (hn : names ≠ []) (hf : folder ≠ []) :
    folderText (names ++ folder) = folderText names ++ '/' :: folderText folder := by
  unfold folderText
  induction names with
  | nil => exact absurd rfl hn
  | cons name names ih =>
    cases names with
    | nil =>
      obtain ⟨first, more, rfl⟩ := List.exists_cons_of_ne_nil hf
      rw [List.singleton_append, List.map_cons, List.map_cons, List.intercalate_cons_cons, List.map_singleton,
        List.intercalate_singleton, List.append_assoc]
      rfl
    | cons next names =>
      calc ['/'].intercalate ((name :: next :: names ++ folder).map String.toList)
          = name.toList ++ ['/'] ++ ['/'].intercalate ((next :: names ++ folder).map String.toList) :=
            List.intercalate_cons_cons
        _ = name.toList ++ ['/'] ++ ['/'].intercalate ((next :: names).map String.toList) ++
              '/' :: ['/'].intercalate (folder.map String.toList) := by
            rw [ih (List.cons_ne_nil next names), List.append_assoc, List.append_assoc, List.append_assoc]
        _ = ['/'].intercalate ((name :: next :: names).map String.toList) ++
              '/' :: ['/'].intercalate (folder.map String.toList) :=
            congrArg (· ++ _) List.intercalate_cons_cons.symm

/-- A file below a folder has a path. -/
theorem fileBelow_ne_nil (folder : List String) (path : String) : fileBelow folder path ≠ [] :=
  List.append_ne_nil_of_right_ne_nil _ (List.cons_ne_nil _ _)

/-- What is no slash and stands in no name does not stand in the text of a folder. -/
theorem not_mem_folderText {c : Char} (hc : c ≠ '/') (h : ∀ name ∈ names, c ∉ name.toList) :
    c ∉ Madge.folderText names := by
  unfold Madge.folderText
  induction names with
  | nil => exact List.not_mem_nil
  | cons name names ih =>
    obtain ⟨hname, hnames⟩ := List.forall_mem_cons.mp h
    cases names with
    | nil =>
      rw [List.map_cons, List.map_nil, List.intercalate_singleton]
      exact hname
    | cons next names =>
      rw [List.map_cons, List.map_cons, List.intercalate_cons_cons]
      exact List.not_mem_append (List.not_mem_append hname (mt List.mem_singleton.mp hc)) (ih hnames)

/-- No separator of the other kind stands in the text of a folder. -/
theorem AreNames.not_mem_folderText (h : AreNames names) : '\\' ∉ Madge.folderText names :=
  Madge.not_mem_folderText (by decide) fun name hname => (h name hname).2.2.2.2

/-- A text that does not end in a slash does not do so behind one more character either. -/
theorem stops_reverse_cons {c : Char} {text : List Char} (hne : text ≠ []) (h : Stops (· = '/') text.reverse) :
    Stops (· = '/') (c :: text).reverse := by
  intro d hd
  obtain ⟨e, more, hmore⟩ := List.exists_cons_of_ne_nil (mt List.reverse_eq_nil_iff.mp hne)
  refine h d ?_
  rw [List.reverse_cons, hmore] at hd
  rw [hmore]
  exact hd

/-- A folder given by its names below the root is known by them. -/
theorem orphanBase_of_isRelative (hf : AreNames folder) (hne : folder ≠ []) (h : IsRelative base folder) :
    orphanBase base = folderText folder := by
  obtain ⟨hfull, hstart, hend, hdot⟩ := hf.folderText hne
  unfold orphanBase
  dsimp only
  rcases h with h | h
  · rw [h, dropWhile_eq_self hstart, dropWhile_eq_self hend, List.reverse_reverse, afterOptional]
    change (after? ['.', '/'] _).getD _ = _
    rw [hdot]
    rfl
  · have hslash : Stops (· = '/') ('.' :: '/' :: folderText folder).reverse :=
      stops_reverse_cons (List.cons_ne_nil _ _) (stops_reverse_cons hfull hend)
    rw [h, dropWhile_eq_self (stops_cons rfl _), dropWhile_eq_self hslash, List.reverse_reverse, afterOptional]
    rfl

/-- A folder given from the top is taken for one of the same names below the root. -/
theorem orphanBase_of_isAbsolute (hr : AreNames names) (hf : AreNames folder) (hne : folder ≠ [])
    (h : IsAbsolute base names folder) : orphanBase base = folderText (names ++ folder) := by
  have hall : AreNames (names ++ folder) := List.forall_mem_append.mpr ⟨hr, hf⟩
  obtain ⟨-, hstart, hend, hdot⟩ := hall.folderText (List.append_ne_nil_of_right_ne_nil names hne)
  unfold orphanBase
  dsimp only
  rw [h, List.dropWhile_cons_of_pos (by decide), dropWhile_eq_self hstart, dropWhile_eq_self hend,
    List.reverse_reverse, afterOptional]
  change (after? ['.', '/'] _).getD _ = _
  rw [hdot]
  rfl

/-! ## Paths below the root -/

/-- A text gives a path exactly if that is what is left of it. -/
theorem toPath_eq_text_iff {root : Option String} (hroot : isBadRoot root = false) (hne : file ≠ []) :
    (Value.text (String.ofList text)).toPath root = .ok (.text (String.ofList file)) ↔
      withoutRoot root (trim (slashed text)) = file := by
  rw [toPath_text hroot, String.toList_ofList, Except.ok.injEq, shownPath_eq_text_iff hne]

/-- A text with slashes alone and no blank at its end loses the blanks at its start. -/
theorem trim_slashed (hs : '\\' ∉ text) (hl : ∀ c ∈ text.getLast?, isBlank c = false) :
    trim (slashed text) = trimStart text := by
  rw [slashed_eq_self hs, trim]
  cases htext : trimStart text with
  | nil => rfl
  | cons c rest =>
    obtain ⟨front, hfront⟩ := List.dropWhile_suffix (l := text) isBlank
    have hlast : ∀ d ∈ (c :: rest).getLast?, isBlank d = false := by
      intro d hd
      refine hl d ?_
      rw [← hfront]
      change d ∈ (front ++ trimStart text).getLast?
      rw [htext, getLast?_append_of_ne_nil front (List.cons_ne_nil c rest)]
      exact hd
    have hend := List.getLast?_eq_some_getLast (List.cons_ne_nil c rest)
    exact trimEnd_eq_self hend (hlast _ hend)

/-- What stands in front of every path below a root is its text with one slash at the end. -/
theorem IsRoot.rootStart_eq (hr : IsRoot root names) :
    rootStart root = if names = [] then ['/'] else '/' :: (folderText names ++ ['/']) := by
  unfold rootStart
  rw [hr.text]
  by_cases hne : names = []
  · rw [if_pos hne, hne]
    rfl
  · obtain ⟨hfull, -, hend, -⟩ := hr.named.folderText hne
    rw [if_neg hne, dropWhile_eq_self (stops_reverse_cons hfull hend), List.reverse_reverse]
    rfl

/-- A path that does not start with a slash lies below no root. -/
theorem withoutRoot_of_stops (hr : IsRoot root names) (h : Stops (· = '/') text) :
    withoutRoot (some root) text = text := by
  rcases exists_withoutRoot root text with heq | hstart
  · exact heq
  · have hslash : text.head? = some '/' := by
      rw [hstart, hr.rootStart_eq]
      split <;> rfl
    have hno := h '/' hslash
    cases hno

/-- A path that starts with neither slash nor blank is left as it is, and one that starts with a blank is not. -/
theorem withoutRoot_trim_eq_self_iff (hr : IsRoot root names) (hs : '\\' ∉ text)
    (hl : ∀ c ∈ text.getLast?, isBlank c = false) (h : Stops (· = '/') text) :
    withoutRoot (some root) (trim (slashed text)) = text ↔ Stops isBlank text := by
  rw [trim_slashed hs hl]
  constructor
  · intro heq
    have hsuffix : text <:+ trimStart text := by
      rcases exists_withoutRoot root (trimStart text) with hsame | hstart
      · rw [heq] at hsame
        exact ⟨[], hsame⟩
      · rw [heq] at hstart
        exact ⟨_, hstart.symm⟩
    have hkept : trimStart text = text := (List.dropWhile_suffix isBlank).eq_of_length_le hsuffix.length_le
    rw [← hkept]
    exact stops_dropWhile isBlank text
  · intro hblank
    rw [trimStart_eq_self hblank, withoutRoot_of_stops hr h]

/-- The names of a root are not taken away from a path that starts with them and not with a slash. -/
theorem withoutRoot_trim_ne (hr : IsRoot root names) (hne : names ≠ []) (hs : '\\' ∉ file)
    (hl : ∀ c ∈ file.getLast?, isBlank c = false) (hf : file ≠ []) :
    withoutRoot (some root) (trim (slashed (folderText names ++ '/' :: file))) ≠ file := by
  have hslash : '\\' ∉ folderText names ++ '/' :: file :=
    List.not_mem_append hr.named.not_mem_folderText (List.not_mem_cons_of_ne_of_not_mem (by decide) hs)
  have hlast : ∀ c ∈ (folderText names ++ '/' :: file).getLast?, isBlank c = false := by
    intro c hc
    rw [← List.singleton_append, ← List.append_assoc, getLast?_append_of_ne_nil _ hf] at hc
    exact hl c hc
  rw [trim_slashed hslash hlast]
  intro heq
  have hsplit := List.takeWhile_append_dropWhile (p := isBlank) (l := folderText names ++ '/' :: file)
  change _ ++ trimStart _ = _ at hsplit
  rcases exists_withoutRoot root (trimStart (folderText names ++ '/' :: file)) with hsame | hstart
  · -- The names and their slash would be blanks.
    have hblanks : ∀ c ∈ (folderText names ++ '/' :: file).takeWhile isBlank, isBlank c = true :=
      List.all_eq_true.mp List.all_takeWhile
    have hfront : (folderText names ++ '/' :: file).takeWhile isBlank ++ file = folderText names ++ ['/'] ++ file := by
      rw [hsame] at heq
      rw [heq] at hsplit
      rw [List.append_assoc, List.singleton_append]
      exact hsplit
    rw [List.append_cancel_right hfront] at hblanks
    exact absurd (hblanks '/' (List.mem_append_right _ List.mem_cons_self)) (by decide)
  · -- The root would be longer than the text that it starts.
    have hlength := congrArg List.length hsplit
    rw [hstart, heq, hr.rootStart_eq, if_neg hne] at hlength
    simp only [List.length_append, List.length_cons, List.length_nil] at hlength
    omega

/-! ## Listed orphans -/

/-- Output that lists an orphan is not blank. -/
theorem not_allBlank_of_mem_orphansOfText {orphan : List Char} (h : orphan ∈ orphansOfText stdout) :
    allBlank stdout.toList = false := by
  obtain ⟨htrimmed, hline⟩ := List.mem_filter.mp h
  obtain ⟨line, hmem, rfl⟩ := List.mem_map.mp htrimmed
  refine allBlank_of_mem_lines hmem (Bool.eq_false_iff.mpr fun hblank => ?_)
  rw [trim, trimStart_of_allBlank hblank] at hline
  cases hline

/-- Orphans are read one by one, whether a document lists them or a text does. -/
theorem issues_of_lists (hl : Lists stdout paths) (hne : paths ≠ []) {root : Option String}
    (hroot : isBadRoot root = false) (stderr : String) :
    (orphans base root).issues stdout stderr =
      (paths.map String.toList).mapM (orphanIssue (orphanBase base) root) := by
  rcases hl with hread | ⟨hread, hlisted⟩
  · have hschema : orphanSchemaOf (document paths) = some "json" := if_pos (by simp [Value.isText])
    have hstructured : (orphans base root).read stdout stderr = .ok (.structured "json" (document paths)) :=
      congrArg Except.ok (Dialect.readJson_of_read hread (fun hnull => by cases hnull) hschema stderr)
    unfold Dialect.issues
    rw [hstructured, ok_bind]
    exact ofStructured_document "json"
  · obtain ⟨found, hfound⟩ : Succeeds ((paths.map String.toList).mapM (orphanIssue (orphanBase base) root)) :=
      .mapM fun orphan _ => orphanIssue_succeeds hroot _ orphan
    have hfull : found ≠ [] := by
      intro hnone
      have hlength := length_of_mapM_eq_ok hfound
      rw [hnone, List.length_map] at hlength
      exact hne (List.length_eq_zero_iff.mp hlength.symm)
    obtain ⟨path, hpath⟩ := List.exists_mem_of_ne_nil paths hne
    have hblank := not_allBlank_of_mem_orphansOfText (hlisted ▸ List.mem_map_of_mem hpath)
    have htext : (orphans base root).read stdout stderr = .ok (.text stdout) :=
      congrArg Except.ok (Dialect.readJson_of_not_blank hread hblank stderr)
    have hofText : (orphans base root).ofText stdout = .ok found := by
      change (orphansOfText stdout).mapM (orphanIssue (orphanBase base) root) = _
      rw [hlisted, hfound]
    rw [Dialect.issues_of_ofText htext hofText hfull, hfound]

/-- Steps on a list give certain files exactly if each step does. -/
theorem files_of_mapM_iff {step : List Char → Outcome Issue} {make : String → Value} {paths : List String} :
    (∃ found, (paths.map String.toList).mapM step = .ok found ∧ found.map Issue.file = paths.map make) ↔
      ∀ path ∈ paths, ∃ issue, step path.toList = .ok issue ∧ issue.file = make path := by
  induction paths with
  | nil => exact ⟨fun _ _ hpath => absurd hpath List.not_mem_nil, fun _ => ⟨[], rfl, rfl⟩⟩
  | cons path paths ih =>
    rw [List.forall_mem_cons, ← ih, List.map_cons, List.mapM_cons]
    constructor
    · rintro ⟨found, hfound, hfiles⟩
      obtain ⟨issue, hissue, hmore⟩ := bind_eq_ok_iff.mp hfound
      obtain ⟨issues, hissues, hcons⟩ := bind_eq_ok_iff.mp hmore
      cases hcons
      obtain ⟨hfile, hrest⟩ := List.cons_eq_cons.mp hfiles
      exact ⟨⟨issue, hissue, hfile⟩, issues, hissues, hrest⟩
    · rintro ⟨⟨issue, hissue, hfile⟩, issues, hissues, hfiles⟩
      refine ⟨issue :: issues, ?_, ?_⟩
      · rw [hissue, ok_bind, hissues]
        rfl
      · rw [List.map_cons, hfile, hfiles, List.map_cons]

/-- The issue of an orphan is about a file exactly if the path below the folder leads to it. -/
theorem orphanIssue_file_iff {root : Option String} {below orphan : List Char} {found : Value} :
    (∃ issue, orphanIssue below root orphan = .ok issue ∧ issue.file = found) ↔
      (Value.text (String.ofList (orphanPath below orphan))).toPath root = .ok found := by
  unfold orphanIssue
  dsimp only
  constructor
  · rintro ⟨issue, hissue, rfl⟩
    obtain ⟨file, hfile, hmade⟩ := bind_eq_ok_iff.mp hissue
    cases hmade
    exact hfile
  · intro hfile
    rw [hfile]
    exact ⟨_, rfl, rfl⟩

/-- The files of listed orphans are those that the paths below the folder lead to. -/
theorem emits_iff {fileOf : String → List Char} (hl : Lists stdout paths) (hne : paths ≠ [])
    (hroot : isBadRoot (some root) = false) (hfile : ∀ path ∈ paths, fileOf path ≠ []) (stderr : String) :
    Emits base root stdout stderr (paths.map fileOf) ↔
      ∀ path ∈ paths, withoutRoot (some root) (trim (slashed (orphanPath (orphanBase base) path.toList))) =
        fileOf path := by
  have hfiles : (paths.map fileOf).map (fun file => Value.text (String.ofList file)) =
      paths.map fun path => Value.text (String.ofList (fileOf path)) := by
    rw [List.map_map]
    rfl
  unfold Emits
  rw [hfiles, issues_of_lists hl hne hroot stderr, files_of_mapM_iff]
  refine forall₂_congr fun path hpath => ?_
  rw [orphanIssue_file_iff, toPath_eq_text_iff hroot (hfile path hpath)]

/-- An orphan below a folder has no separator of the other kind and no blank at its end. -/
theorem IsOrphan.fileBelow {path : String} (h : IsOrphan path) (hf : AreNames folder) :
    '\\' ∉ Madge.fileBelow folder path ∧ ∀ c ∈ (Madge.fileBelow folder path).getLast?, isBlank c = false := by
  refine ⟨List.not_mem_append hf.not_mem_folderText (List.not_mem_cons_of_ne_of_not_mem (by decide) h.slashes), ?_⟩
  intro c hc
  unfold Madge.fileBelow at hc
  rw [getLast?_append_of_ne_nil _ (List.cons_ne_nil _ _)] at hc
  cases hpath : path.toList with
  | nil =>
    rw [hpath] at hc
    cases hc
    rfl
  | cons d rest =>
    rw [hpath, List.getLast?_cons_cons, ← hpath] at hc
    exact isBlank_of_getLast_trim h.trimmed c hc

/-- Orphans are shown below the names of the folder, if these do not start with a blank. -/
theorem emits_fileBelow_iff (hr : IsRoot root names) (hroot : isBadRoot (some root) = false) (hf : AreNames folder)
    (hne : folder ≠ []) (hbase : orphanBase base = folderText folder) (hp : ∀ path ∈ paths, IsOrphan path)
    (hl : Lists stdout paths) (hsome : paths ≠ []) (stderr : String) :
    Emits base root stdout stderr (paths.map (fileBelow folder)) ↔ Stops isBlank (folderText folder) := by
  obtain ⟨hfull, hslash, -, -⟩ := hf.folderText hne
  have hshown : ∀ path ∈ paths,
      (withoutRoot (some root) (trim (slashed (orphanPath (orphanBase base) path.toList))) = fileBelow folder path ↔
        Stops isBlank (folderText folder)) := by
    intro path hpath
    obtain ⟨hother, hlast⟩ := (hp path hpath).fileBelow hf
    have hbelow : orphanPath (orphanBase base) path.toList = fileBelow folder path := by
      rw [hbase]
      exact if_neg (mt List.isEmpty_iff.mp hfull)
    rw [hbelow, withoutRoot_trim_eq_self_iff hr hother hlast ((stops_append_iff hfull).mpr hslash)]
    exact stops_append_iff hfull
  rw [emits_iff hl hsome hroot (fun path _ => fileBelow_ne_nil folder path), forall₂_congr hshown]
  obtain ⟨path, hpath⟩ := List.exists_mem_of_ne_nil paths hsome
  exact ⟨fun h => h path hpath, fun h _ _ => h⟩

/-- Below a root with names orphans of a folder that is given from the top are not shown where they are. -/
theorem not_emits_of_isAbsolute (hr : IsRoot root names) (hroot : isBadRoot (some root) = false)
    (hf : AreNames folder) (hne : folder ≠ []) (hnames : names ≠ []) (hb : IsAbsolute base names folder)
    (hp : ∀ path ∈ paths, IsOrphan path) (hl : Lists stdout paths) (hsome : paths ≠ []) (stderr : String) :
    ¬Emits base root stdout stderr (paths.map (fileBelow folder)) := by
  rw [emits_iff hl hsome hroot fun path _ => fileBelow_ne_nil folder path]
  intro hshown
  obtain ⟨path, hpath⟩ := List.exists_mem_of_ne_nil paths hsome
  obtain ⟨hother, hlast⟩ := (hp path hpath).fileBelow hf
  have hjoined := folderText_append hnames hne
  have hfull : folderText (names ++ folder) ≠ [] := by
    rw [hjoined]
    exact List.append_ne_nil_of_right_ne_nil _ (List.cons_ne_nil _ _)
  have hbelow : orphanPath (orphanBase base) path.toList = folderText names ++ '/' :: fileBelow folder path := by
    rw [orphanBase_of_isAbsolute hr.named hf hne hb, orphanPath, if_neg (mt List.isEmpty_iff.mp hfull), hjoined,
      List.append_assoc]
    rfl
  refine withoutRoot_trim_ne hr hnames hother hlast (fileBelow_ne_nil folder path) ?_
  rw [← hbelow]
  exact hshown path hpath

/-- Orphans of a folder below the root are shown as seen from the root where the folder is given by
its names, if they do not start with a blank. Where it is given from the top they are shown so below
the top alone, and elsewhere the names of the root stay in front of them. -/
theorem issues_below_root (hr : IsRoot root names) (hroot : isBadRoot (some root) = false) (hf : AreNames folder)
    (hne : folder ≠ []) (hp : ∀ path ∈ paths, IsOrphan path) (hl : Lists stdout paths) (hsome : paths ≠ [])
    (stderr : String) :
    (∀ base, IsRelative base folder →
        (Emits base root stdout stderr (paths.map (fileBelow folder)) ↔ Stops isBlank (folderText folder))) ∧
      ∀ base, IsAbsolute base names folder →
        (Emits base root stdout stderr (paths.map (fileBelow folder)) ↔
            names = [] ∧ Stops isBlank (folderText folder)) ∧
          (Emits base root stdout stderr (paths.map (fileBelow (names ++ folder))) ↔
            Stops isBlank (folderText (names ++ folder))) := by
  refine ⟨fun base hb => ?_, fun base hb => ⟨?_, ?_⟩⟩
  · exact emits_fileBelow_iff hr hroot hf hne (orphanBase_of_isRelative hf hne hb) hp hl hsome stderr
  · have hbase := orphanBase_of_isAbsolute hr.named hf hne hb
    by_cases hnames : names = []
    · subst hnames
      rw [emits_fileBelow_iff hr hroot hf hne hbase hp hl hsome stderr]
      exact (and_iff_right rfl).symm
    · exact ⟨fun h => absurd h (not_emits_of_isAbsolute hr hroot hf hne hnames hb hp hl hsome stderr),
        fun h => absurd h.1 hnames⟩
  · exact emits_fileBelow_iff hr hroot (List.forall_mem_append.mpr ⟨hr.named, hf⟩)
      (List.append_ne_nil_of_right_ne_nil names hne) (orphanBase_of_isAbsolute hr.named hf hne hb) hp hl hsome stderr

/-- Two orphans are shown below a folder that is given by its names, and not where it is given from the top. -/
theorem issues_below_root_listed :
    let stdout := "Processed 9 files (1s)\na.config.ts\nlib/b c.js\n"
    let paths := ["a.config.ts", "lib/b c.js"]
    let files := ["src/ui/a.config.ts".toList, "src/ui/lib/b c.js".toList]
    Lists stdout paths ∧ IsRoot "/home\\proj" ["home", "proj"] ∧
      Emits ".\\src/ui" "/home\\proj" stdout "" files ∧
      ¬Emits "/home/proj/src/ui" "/home\\proj" stdout "" files := by
  intro stdout paths files
  have hl : Lists stdout paths := .inr ⟨by decide +kernel, by decide +kernel⟩
  have hr : IsRoot "/home\\proj" ["home", "proj"] := ⟨by decide +kernel, by decide +kernel⟩
  have hroot : isBadRoot (some "/home\\proj") = false := by
    simp [isBadRoot]
  have hf : AreNames ["src", "ui"] := by decide +kernel
  have hp : ∀ path ∈ paths, IsOrphan path :=
    List.forall_mem_cons.mpr ⟨⟨by decide +kernel, by decide +kernel⟩,
      List.forall_mem_singleton.mpr ⟨by decide +kernel, by decide +kernel⟩⟩
  have hfiles : paths.map (fileBelow ["src", "ui"]) = files := by decide +kernel
  obtain ⟨hrelative, habsolute⟩ := issues_below_root hr hroot hf (by decide) hp hl (by decide) ""
  rw [hfiles] at hrelative habsolute
  have hstart : folderText ["src", "ui"] = 's' :: "rc/ui".toList := by decide +kernel
  refine ⟨hl, hr, (hrelative _ (.inr ?_)).mpr ?_, mt (habsolute _ ?_).1.mp ?_⟩
  · decide +kernel
  · rw [hstart]
    exact stops_cons rfl _
  · unfold IsAbsolute
    decide +kernel
  · exact fun h => absurd h.1 (by decide)

/-- An orphan of a folder that is given from the top is shown below the names of the root. -/
theorem issues_below_root_from_top :
    IsRoot "/proj" ["proj"] ∧ IsAbsolute "/proj/src" ["proj"] ["src"] ∧ IsOrphan "a.ts" ∧
      fileBelow ["src"] "a.ts" = "src/a.ts".toList ∧
      (orphans "/proj/src" (some "/proj")).issues "a.ts" "" = .ok [
        { severity := .warning, message := .text "Orphan file - nothing imports this",
          file := .text "proj/src/a.ts", rule := .text "madge/orphan" }] := by
  have hread : (orphans "/proj/src" (some "/proj")).read "a.ts" "" = .ok (.text "a.ts") :=
    congrArg Except.ok (Dialect.readJson_of_not_blank (by decide +kernel) (by decide +kernel) "")
  have hlisted : orphansOfText "a.ts" = ["a.ts".toList] := by decide +kernel
  have hroot : isBadRoot (some "/proj") = false := by
    simp [isBadRoot]
  have hfile : (Value.text (String.ofList (orphanPath (orphanBase "/proj/src") "a.ts".toList))).toPath (some "/proj") =
      .ok (.text (String.ofList "proj/src/a.ts".toList)) :=
    (toPath_eq_text_iff hroot (by decide)).mpr (by decide +kernel)
  have hfound : (orphans "/proj/src" (some "/proj")).ofText "a.ts" = .ok [
      { severity := .warning, message := .text "Orphan file - nothing imports this",
        file := .text "proj/src/a.ts", rule := .text "madge/orphan" }] := by
    change (orphansOfText "a.ts").mapM (orphanIssue (orphanBase "/proj/src") (some "/proj")) = _
    rw [hlisted, List.mapM_cons, orphanIssue, hfile]
    rfl
  have hr : IsRoot "/proj" ["proj"] := ⟨by decide +kernel, by decide +kernel⟩
  have hp : IsOrphan "a.ts" := ⟨by decide +kernel, by decide +kernel⟩
  refine ⟨hr, ?_, hp, by decide +kernel, Dialect.issues_of_ofText hread hfound (List.cons_ne_nil _ _)⟩
  unfold IsAbsolute
  decide +kernel

end Checkup.Madge
