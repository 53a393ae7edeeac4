import Checkup.Proofs.Announcements
import Checkup.Proofs.ForeignLines
import Checkup.Proofs.PrintedSections

/-!
# Reports of knip are read back

A report shows its sections one after another, with blank lines between them or not. A header opens
its section, a row gives an issue of the section that is open, and a blank line closes it. So every
row gives one issue, in the order of the rows, and what its section is about says how grave it is.
-/

namespace Checkup.Knip

open Text

/-! ## Reports -/

/-- A known section with its rows and the blank lines behind them. -/
structure PrintedSection where
  title : String
  known : String
  category : Category
  count : Nat
  rows : List PrintedRow
  blanks : List String
  isKnown : (known, category) ∈ sectionCategories
  isTitle : Spells title.toList known.toList
  hasRow : rows ≠ []
  /-- No row has the shape of a header. -/
  noHeader : ∀ row ∈ rows, ¬IsHeader row.text
  /-- Unused files are paths with slashes alone. -/
  arePaths : category = unusedFile → ∀ row ∈ rows, row.place = none ∧ '\\' ∉ row.name.toList
  areBlank : ∀ line ∈ blanks, allBlank line.toList = true

/-- The lines of a section. -/
def PrintedSection.lines (shown : PrintedSection) : List (List Char) :=
  header shown.title.toList shown.count :: (shown.rows.map PrintedRow.text ++ shown.blanks.map String.toList)

/-- The lines of a report. -/
def reportLines (sections : List PrintedSection) : List (List Char) := sections.flatMap PrintedSection.lines

/-- The issue of a finding in a section: an unused file is a path, anything else is named and may have
a place, with its line unless the number is too long. -/
def PrintedRow.issue (category : Category) (row : PrintedRow) : Issue :=
  if category = unusedFile then
    { severity := category.severity
      message := .text category.words
      file := .text row.name
      rule := .text category.rule }
  else
    { severity := category.severity
      message := .text (category.about row.name)
      file := .ofText? (row.place.map PrintedPlace.file)
      line := (row.place.map fun place => Value.lineNumber place.line).getD .null
      rule := .text category.rule }

/-- The issues of a section. -/
def PrintedSection.issues (shown : PrintedSection) : List Issue := shown.rows.map (PrintedRow.issue shown.category)

variable {root : Option String} {seen : Option Category} {line : List Char} {rest : List (List Char)}

/-! ## Known titles -/

/-- In small letters a known title starts with the same letter, goes on with letters and spaces, and
ends in a letter. -/
theorem sectionCategories_titles : ∀ keyed ∈ sectionCategories, ∃ further last, keyed.1.toList = 'u' :: further ∧
    further.getLast? = some last ∧ last.isLower = true ∧ further.all isTitleChar = true := by
  have htitles : ∀ keyed ∈ sectionCategories, keyed.1.toList.head? = some 'u' ∧
      (keyed.1.toList.tail.getLast?.any Char.isLower) = true ∧ keyed.1.toList.tail.all isTitleChar = true := by
    decide
  intro keyed hkeyed
  obtain ⟨hhead, hlast, hall⟩ := htitles keyed hkeyed
  obtain ⟨further, hfurther⟩ := List.head?_eq_some_iff.mp hhead
  rw [hfurther, List.tail_cons] at hlast hall
  obtain ⟨last, hmem, hlower⟩ := (Option.any_eq_true _ _).mp hlast
  exact ⟨further, last, hfurther, hmem, hlower, hall⟩

/-- A character with a letter or a space for its small letter is one. -/
theorem isTitleChar_of_toLower {c : Char} (hc : c.toNat < 0x80) (h : isTitleChar c.toLower = true) :
    isTitleChar c = true :=
  forall_ascii (fun c => isTitleChar c.toLower = true → isTitleChar c = true) (by decide) hc h

/-- A character with the small letter u is that letter in the one case or the other. -/
theorem eq_of_toLower_u {c : Char} (hc : c.toNat < 0x80) (h : c.toLower = 'u') : c = 'U' ∨ c = 'u' :=
  forall_ascii (fun c => c.toLower = 'u' → c = 'U' ∨ c = 'u') (by decide) hc h

namespace PrintedSection

variable (shown : PrintedSection)

/-- The title of a section starts with the letter u, goes on with letters and spaces, and ends in no blank. -/
theorem exists_title : ∃ c further, shown.title.toList = c :: further ∧ (c = 'U' ∨ c = 'u') ∧ further ≠ [] ∧
    (∀ d ∈ further, isTitleChar d = true) ∧ ∀ d ∈ further.getLast?, isBlank d = false := by
  obtain ⟨hlower, hascii⟩ := shown.isTitle
  obtain ⟨known, last, hknown, hlast, hletter, hall⟩ := sectionCategories_titles _ shown.isKnown
  rw [hknown] at hlower
  obtain ⟨c, further, htitle, hc, hfurther⟩ := List.map_eq_cons_iff.mp hlower
  rw [htitle] at hascii
  obtain ⟨hfirst, hrest⟩ := List.forall_mem_cons.mp hascii
  refine ⟨c, further, htitle, eq_of_toLower_u hfirst hc, ?_, fun d hd => ?_, fun d hd => ?_⟩
  · rintro rfl
    rw [← hfurther] at hlast
    cases hlast
  · refine isTitleChar_of_toLower (hrest d hd) (List.all_eq_true.mp hall _ ?_)
    rw [← hfurther]
    exact List.mem_map_of_mem hd
  · refine isBlank_eq_false_of_isLower_toLower (hrest d (List.mem_of_getLast? hd)) ?_
    rw [← hfurther, List.getLast?_map, Option.mem_def.mp hd] at hlast
    rw [Option.some.inj hlast]
    exact hletter

/-- The title of a section is one, without blanks at its ends. -/
theorem isTitle_title : IsTitle shown.title.toList ∧ (∀ c ∈ shown.title.toList.getLast?, isBlank c = false) ∧
    shown.title.toList ≠ [] ∧ Stops isBlank shown.title.toList := by
  obtain ⟨c, further, htitle, hc, hne, hall, hlast⟩ := shown.exists_title
  have hletter : c.isAlpha = true ∧ isBlank c = false := by
    rcases hc with rfl | rfl <;> exact ⟨rfl, rfl⟩
  rw [htitle]
  refine ⟨⟨c, further, rfl, hletter.1, hne, hall⟩, fun d hd => hlast d ?_, List.cons_ne_nil _ _, stops_cons hletter.2 _⟩
  obtain ⟨e, more, rfl⟩ := List.exists_cons_of_ne_nil hne
  rwa [List.getLast?_cons_cons] at hd

/-- The title of a section is looked up in small letters. -/
theorem lookup_title : sectionCategories.lookup (String.ofList (lower shown.title.toList)) = some shown.category := by
  have hlookup : ∀ keyed ∈ sectionCategories, sectionCategories.lookup keyed.1 = some keyed.2 := by decide
  obtain ⟨hlower, hascii⟩ := shown.isTitle
  rw [lower_of_ascii hascii, hlower, String.ofList_toList]
  exact hlookup _ shown.isKnown

end PrintedSection

/-! ## What a line changes -/

/-- A header opens its section. -/
theorem sectionIssues_header (shown : PrintedSection) (rest : List (List Char)) :
    sectionIssues root seen (header shown.title.toList shown.count :: rest) =
      sectionIssues root (some shown.category) rest := by
  obtain ⟨htitle, hlast, hstart⟩ := shown.isTitle_title
  rw [sectionIssues.eq_def]
  dsimp only
  rw [trim_header hstart, title?_header htitle hlast]
  dsimp only
  rw [shown.lookup_title]

/-- A blank line closes the section that is open. -/
theorem sectionIssues_blank (h : allBlank line = true) :
    sectionIssues root seen (line :: rest) = sectionIssues root none rest := by
  have htrim : trim line = [] := by
    rw [trim, trimStart_of_allBlank h]
    rfl
  rw [sectionIssues.eq_def]
  dsimp only
  rw [htrim]
  rfl

/-- The row of a finding gives its issue. -/
theorem rowIssue_text {known : String} {category : Category} (hk : (known, category) ∈ sectionCategories)
    (row : PrintedRow) (hp : category = unusedFile → row.place = none ∧ '\\' ∉ row.name.toList) :
    rowIssue none category row.text = .ok (row.issue category) := by
  have hrules : ∀ keyed ∈ sectionCategories, keyed.2.rule = unusedFileRule → keyed.2 = unusedFile := by decide
  unfold rowIssue PrintedRow.issue
  dsimp only
  rw [row.columns_text, List.headD_cons, String.ofList_toList]
  by_cases hfile : category = unusedFile
  · obtain ⟨-, hslash⟩ := hp hfile
    have hpath := Value.toPath_none_text row.isName.1 row.isName.2 hslash
    have hrule : category.rule = unusedFileRule := by rw [hfile]; rfl
    rw [if_pos hrule, if_pos hfile, hpath, ok_bind]
  · rw [if_neg (mt (hrules _ hk) hfile), if_neg hfile]
    cases hplace : row.place with
    | none => rfl
    | some place =>
      obtain ⟨found, hfound, hplaceFile, hline⟩ := place.location?_location
      have hpath : (Value.text place.file).toPath none = .ok (.text place.file) :=
        Value.toPath_none_text place.isFile.1 (trim_eq_self fun c hc => (place.isFile.2 c hc).1)
          fun hmem => (place.isFile.2 _ hmem).2 (List.mem_cons_of_mem _ List.mem_cons_self)
      have hnumber : (Value.ofText? (found.line.map String.ofList)).toLine =
          .ok (if place.line < unwritable then some (place.line : Int) else none) := by
        rw [hline]
        exact Value.toLine_toDigits place.isLine
      have hlast : ((place.kind.map fun kind => kind.word.toList).toList ++ [place.location]).getLastD [] =
          place.location := by
        rw [List.getLastD_concat]
      obtain ⟨second, more, hcolumns⟩ : ∃ second more,
          (place.kind.map fun kind => kind.word.toList).toList ++ [place.location] = second :: more :=
        List.exists_cons_of_ne_nil (List.append_ne_nil_of_right_ne_nil _ (List.cons_ne_nil _ _))
      rw [hcolumns] at hlast
      rw [Option.map_some, Option.getD_some, hcolumns]
      dsimp only
      rw [hlast, hfound]
      dsimp only
      rw [hplaceFile, String.ofList_toList, hpath, ok_bind, hnumber, ok_bind, Value.ofLine?_eq_lineNumber,
        Option.map_some, Option.map_some, Option.getD_some, Value.ofText?]

/-- A row gives an issue of the section that is open. -/
theorem sectionIssues_row {known : String} {category : Category} (hk : (known, category) ∈ sectionCategories)
    {row : PrintedRow} (hp : category = unusedFile → row.place = none ∧ '\\' ∉ row.name.toList)
    (hh : ¬IsHeader row.text) (rest : List (List Char)) :
    sectionIssues none (some category) (row.text :: rest) =
      sectionIssues none (some category) rest >>= fun more => .ok (row.issue category :: more) := by
  obtain ⟨c, further, htext, -⟩ := row.exists_text_eq_cons
  have hfull : ¬row.text.isEmpty = true := by
    rw [htext]
    exact Bool.false_ne_true
  rw [sectionIssues.eq_def]
  dsimp only
  rw [row.trim_text, title?_eq_none hh]
  dsimp only
  rw [if_neg hfull, rowIssue_text hk row hp, ok_bind]

/-! ## What a report says -/

/-- Rows give their issues one by one. -/
theorem sectionIssues_rows {known : String} {category : Category} (hk : (known, category) ∈ sectionCategories)
    {rows : List PrintedRow}
    (hp : category = unusedFile → ∀ row ∈ rows, row.place = none ∧ '\\' ∉ row.name.toList)
    (hh : ∀ row ∈ rows, ¬IsHeader row.text) (rest : List (List Char)) :
    sectionIssues none (some category) (rows.map PrintedRow.text ++ rest) =
      sectionIssues none (some category) rest >>= fun more => .ok (rows.map (PrintedRow.issue category) ++ more) := by
  induction rows with
  | nil =>
    change sectionIssues none (some category) rest = _
    cases sectionIssues none (some category) rest <;> rfl
  | cons row rows ih =>
    obtain ⟨hrow, hrows⟩ := List.forall_mem_cons.mp hh
    have hpath : category = unusedFile → row.place = none ∧ '\\' ∉ row.name.toList :=
      fun hfile => hp hfile row List.mem_cons_self
    have hpaths : category = unusedFile → ∀ row ∈ rows, row.place = none ∧ '\\' ∉ row.name.toList :=
      fun hfile other hother => hp hfile other (List.mem_cons_of_mem row hother)
    rw [List.map_cons, List.cons_append, sectionIssues_row hk hpath hrow, ih hpaths hrows]
    cases sectionIssues none (some category) rest <;> rfl

/-- Blank lines leave no section open, unless there are none. -/
theorem sectionIssues_blanks {blanks : List String} (h : ∀ line ∈ blanks, allBlank line.toList = true) :
    ∃ left, sectionIssues root seen (blanks.map String.toList ++ rest) = sectionIssues root left rest := by
  induction blanks generalizing seen with
  | nil => exact ⟨seen, rfl⟩
  | cons line blanks ih =>
    obtain ⟨hline, hblanks⟩ := List.forall_mem_cons.mp h
    rw [List.map_cons, List.cons_append, sectionIssues_blank hline]
    exact ih hblanks

/-- A section gives its issues, whichever section was open before it. -/
theorem sectionIssues_section (seen : Option Category) (shown : PrintedSection) (rest : List (List Char)) :
    ∃ left, sectionIssues none seen (shown.lines ++ rest) =
      sectionIssues none left rest >>= fun more => .ok (shown.issues ++ more) := by
  obtain ⟨left, hleft⟩ := @sectionIssues_blanks none (some shown.category) rest _ shown.areBlank
  refine ⟨left, ?_⟩
  rw [PrintedSection.lines, List.cons_append, sectionIssues_header, List.append_assoc,
    sectionIssues_rows shown.isKnown shown.arePaths shown.noHeader, hleft]
  rfl

/-- A report gives the issues of its sections in their order. -/
theorem sectionIssues_report (seen : Option Category) (sections : List PrintedSection) :
    sectionIssues none seen (reportLines sections) = .ok (sections.flatMap PrintedSection.issues) := by
  induction sections generalizing seen with
  | nil => rw [reportLines, List.flatMap_nil, sectionIssues, List.flatMap_nil]
  | cons shown sections ih =>
    have hlines : reportLines (shown :: sections) = shown.lines ++ reportLines sections := List.flatMap_cons
    obtain ⟨left, hsection⟩ := sectionIssues_section seen shown (reportLines sections)
    rw [hlines, hsection, ih left, ok_bind, List.flatMap_cons]

/-! ## Reading a report -/

variable {stdout : String} {sections : List PrintedSection}

/-- A report is scanned: it starts with the letter of its first title. -/
theorem read_of_report (hlines : lines stdout.toList = reportLines sections) (hne : sections ≠ []) (stderr : String) :
    (dialect none).read stdout stderr = .ok (.text stdout) := by
  obtain ⟨first, sections, rfl⟩ := List.exists_cons_of_ne_nil hne
  obtain ⟨c, further, htitle, hc, -⟩ := first.exists_title
  have hforeign : Json.isForeign c = true ∧ isBlank c = false := by
    rcases hc with rfl | rfl <;> exact ⟨rfl, rfl⟩
  have hstart : header first.title.toList first.count <+: stdout.toList := by
    have hfirst := headD_lines_isPrefix stdout.toList
    rw [hlines] at hfirst
    exact hfirst
  obtain ⟨behind, hbehind⟩ := hstart
  rw [header, htitle, List.cons_append, List.cons_append] at hbehind
  have hdocument : Json.read? (trim stdout.toList) = none := by
    rw [← hbehind]
    exact Json.read?_trim_of_foreign hforeign.1 hforeign.2 _
  have hfull : allBlank stdout.toList = false := by
    rw [← hbehind, allBlank, List.all_cons, hforeign.2, Bool.false_and]
  exact congrArg Except.ok (Dialect.readJson_of_not_blank hdocument hfull stderr)

/-- Every section has a row that gives an issue. -/
theorem issues_ne_nil (hne : sections ≠ []) : sections.flatMap PrintedSection.issues ≠ [] := by
  obtain ⟨first, others, rfl⟩ := List.exists_cons_of_ne_nil hne
  rw [List.flatMap_cons]
  exact List.append_ne_nil_of_left_ne_nil (mt List.map_eq_nil_iff.mp first.hasRow) _

/-- The lines of a report give the issues of its sections. -/
theorem ofText_report (hlines : lines stdout.toList = reportLines sections) (hne : sections ≠ []) :
    (dialect none).ofText stdout = .ok (sections.flatMap PrintedSection.issues) := by
  have hempty := List.isEmpty_eq_false_iff.mpr (issues_ne_nil hne)
  change (sectionIssues none none (lines stdout.toList) >>= _) = _
  rw [hlines, sectionIssues_report, ok_bind, hempty]
  rfl

/-- A report with a section is read back: every row gives its issue, as its section says, in the order
of the rows and however the lines end. -/
theorem issues_of_printed_sections (hlines : lines stdout.toList = reportLines sections) (hne : sections ≠ [])
    (stderr : String) : (dialect none).issues stdout stderr = .ok (sections.flatMap PrintedSection.issues) :=
  Dialect.issues_of_ofText (read_of_report hlines hne stderr) (ofText_report hlines hne) (issues_ne_nil hne)

/-- An unused file whose path holds a space. -/
def fileSection : PrintedSection where
  title := "UNUSED Files"
  known := "unused files"
  category := unusedFile
  count := 1
  rows := [⟨"src/old (copy).ts", none, by decide, by decide⟩]
  blanks := [" "]
  isKnown := by decide
  isTitle := ⟨by decide, forall_mem_of_all rfl⟩
  hasRow := List.cons_ne_nil _ _
  noHeader := List.forall_mem_singleton.mpr (mt isSome_title?_iff.mpr (by decide))
  arePaths := fun _ => List.forall_mem_singleton.mpr ⟨rfl, by decide⟩
  areBlank := by decide

/-- An unused function with its kind and its place. -/
def functionRow : PrintedRow where
  name := "helper"
  place := some ⟨some ⟨"function", 3, ⟨by decide, forall_mem_of_all rfl⟩, by decide⟩, 3, "src/b.ts", 8, some 14,
    by decide, ⟨by decide, forall_mem_of_all rfl⟩, by decide⟩
  isName := by decide
  hasNoGap := by decide

/-- Two unused exports, of which one has no place. -/
def exportSection : PrintedSection where
  title := "Unused exports"
  known := "unused exports"
  category := unusedExport
  count := 2
  rows := [functionRow, ⟨"a name", none, by decide, by decide⟩]
  blanks := [" "]
  isKnown := by decide
  isTitle := ⟨by decide, forall_mem_of_all rfl⟩
  hasRow := List.cons_ne_nil _ _
  noHeader := List.forall_mem_cons.mpr ⟨mt isSome_title?_iff.mpr (by decide),
    List.forall_mem_singleton.mpr (mt isSome_title?_iff.mpr (by decide))⟩
  arePaths := fun h => absurd h (by decide)
  areBlank := by decide

/-- The rows of both sections are read back. -/
theorem issues_of_printed_sections_two :
    let stdout := "UNUSED Files (1)\r\nsrc/old (copy).ts\r\n \r\n" ++
      "Unused exports (2)\nhelper   function   src/b.ts:8:14\na name\n "
    lines stdout.toList = reportLines [fileSection, exportSection] ∧ [fileSection, exportSection] ≠ [] ∧
      (dialect none).issues stdout "" = .ok [
        { severity := .warning, message := .text "Unused file - not imported anywhere",
          file := .text "src/old (copy).ts", rule := .text "knip/unused-file" },
        { severity := .info, message := .text "Unused export: helper", file := .text "src/b.ts",
          line := .int 8, rule := .text "knip/unused-export" },
        { severity := .info, message := .text "Unused export: a name", rule := .text "knip/unused-export" }] := by
  intro stdout
  have hlines : lines stdout.toList = reportLines [fileSection, exportSection] := by decide +kernel
  have hne : [fileSection, exportSection] ≠ [] := List.cons_ne_nil _ _
  have hline : Value.lineNumber 8 = .int 8 := if_pos (lt_unwritable (by decide))
  refine ⟨hlines, hne, (issues_of_printed_sections hlines hne "").trans ?_⟩
  have hfile : fileSection.issues = [
      { severity := .warning, message := .text "Unused file - not imported anywhere",
        file := .text "src/old (copy).ts", rule := .text "knip/unused-file" }] := rfl
  have hfunction : functionRow.issue unusedExport =
      { severity := .info, message := .text "Unused export: helper", file := .text "src/b.ts",
        line := .int 8, rule := .text "knip/unused-export" } := by
    rw [PrintedRow.issue, if_neg (by decide)]
    simp only [functionRow, Option.map_some, Option.getD_some, hline]
    rfl
  have hexport : exportSection.issues = [functionRow.issue unusedExport,
      { severity := .info, message := .text "Unused export: a name", rule := .text "knip/unused-export" }] := rfl
  rw [List.flatMap_cons, List.flatMap_cons, List.flatMap_nil, hfile, hexport, hfunction]
  rfl

/-- A name in a line of a file. -/
def placedRow (line : Nat) (h : 0 < line) : PrintedRow where
  name := "f"
  place := some ⟨none, 3, "a.ts", line, none, by decide, ⟨by decide, forall_mem_of_all rfl⟩, h⟩
  isName := by decide
  hasNoGap := by decide

/-- The characters of that row. -/
theorem text_placedRow (line : Nat) (h : 0 < line) :
    (placedRow line h).text = "f   a.ts:".toList ++ Nat.toDigits 10 line := by
  have hstart : "f   a.ts:".toList = "f".toList ++ (spaces 3 ++ ("a.ts".toList ++ [':'])) := rfl
  rw [PrintedRow.text, hstart]
  simp only [placedRow, Option.map_some, Option.getD_some, PrintedPlace.text, PrintedPlace.location,
    PrintedPlace.columnText, Option.map_none, Option.getD_none, List.append_assoc, List.append_nil, List.nil_append,
    List.cons_append]

/-- A section with that row. -/
def placedSection (line : Nat) (h : 0 < line) : PrintedSection where
  title := "Unused exports"
  known := "unused exports"
  category := unusedExport
  count := 1
  rows := [placedRow line h]
  blanks := [" "]
  isKnown := by decide
  isTitle := ⟨by decide, forall_mem_of_all rfl⟩
  hasRow := List.cons_ne_nil _ _
  noHeader := by
    refine List.forall_mem_singleton.mpr (not_isHeader_of_not_mem ?_)
    rw [text_placedRow]
    exact List.not_mem_append (by decide) ((isDigits_toDigits line).not_mem (by decide))
  arePaths := fun h => absurd h (by decide)
  areBlank := by decide

/-- The lines of that section. -/
theorem lines_placedSection (line : Nat) (h : 0 < line) :
    lines ("Unused exports (1)\nf   a.ts:" ++ String.ofList (Nat.toDigits 10 line) ++ "\n \n").toList =
      reportLines [placedSection line h] := by
  have hheader : ∀ c ∈ "Unused exports (1)".toList, isLineBreak c = false := forall_mem_of_all rfl
  have hblank : ∀ c ∈ [' '], isLineBreak c = false := forall_mem_of_all rfl
  have hrow : ∀ c ∈ "f   a.ts:".toList ++ Nat.toDigits 10 line, isLineBreak c = false := by
    have hstart : ∀ c ∈ "f   a.ts:".toList, isLineBreak c = false := forall_mem_of_all rfl
    refine List.forall_mem_append.mpr ⟨hstart, fun c hc => isLineBreak_of_isBlank ?_⟩
    exact (isDigits_toDigits line).isBlank_of_mem c hc
  have hends : ("Unused exports (1)\nf   a.ts:" ++ String.ofList (Nat.toDigits 10 line) ++ "\n \n").toList =
      ["Unused exports (1)".toList, "f   a.ts:".toList ++ Nat.toDigits 10 line, [' ']].flatMap (· ++ ['\n']) := by
    have hfirst : "Unused exports (1)\nf   a.ts:".toList =
        "Unused exports (1)".toList ++ ['\n'] ++ "f   a.ts:".toList := rfl
    have hdigits : (String.ofList (Nat.toDigits 10 line)).toList = Nat.toDigits 10 line := String.toList_ofList
    have hlast : "\n \n".toList = ['\n'] ++ ([' '] ++ ['\n']) := rfl
    rw [String.toList_append, String.toList_append, hdigits, hfirst, hlast, List.flatMap_cons, List.flatMap_cons,
      List.flatMap_singleton]
    simp only [List.append_assoc]
  have hreport : reportLines [placedSection line h] =
      ["Unused exports (1)".toList, "f   a.ts:".toList ++ Nat.toDigits 10 line, [' ']] := by
    have htitle : header "Unused exports".toList 1 = "Unused exports (1)".toList := by decide
    rw [reportLines, List.flatMap_singleton, PrintedSection.lines, ← text_placedRow line h, ← htitle]
    rfl
  rw [hends, hreport]
  exact lines_flatMap_feed (List.forall_mem_cons.mpr ⟨hheader, List.forall_mem_cons.mpr ⟨hrow,
    List.forall_mem_singleton.mpr hblank⟩⟩)

/-- The issues of that section. -/
theorem issues_placedSection (line : Nat) (h : 0 < line) :
    [placedSection line h].flatMap PrintedSection.issues =
      [{ severity := .info, message := .text "Unused export: f", file := .text "a.ts", line := Value.lineNumber line,
         rule := .text "knip/unused-export" }] := by
  have hrow : (placedRow line h).issue unusedExport =
      { severity := .info, message := .text "Unused export: f", file := .text "a.ts", line := Value.lineNumber line,
        rule := .text "knip/unused-export" } := by
    rw [PrintedRow.issue, if_neg (by decide)]
    simp only [placedRow, Option.map_some, Option.getD_some]
    rfl
  rw [List.flatMap_singleton, ← hrow]
  rfl

/-- A row with a line of more digits than are read is read back without its line. -/
theorem issues_of_lost_place :
    let stdout := "Unused exports (1)\nf   a.ts:" ++ String.ofList (Nat.toDigits 10 unwritable) ++ "\n \n"
    lines stdout.toList = reportLines [placedSection unwritable unwritable_pos] ∧
      (dialect none).issues stdout "" =
        .ok [{ severity := .info, message := .text "Unused export: f", file := .text "a.ts", line := .null,
               rule := .text "knip/unused-export" }] := by
  intro stdout
  have hline : Value.lineNumber unwritable = .null := if_neg (Nat.lt_irrefl unwritable)
  have hlines := lines_placedSection unwritable unwritable_pos
  have hne : [placedSection unwritable unwritable_pos] ≠ [] := List.cons_ne_nil _ _
  refine ⟨hlines, Dialect.issues_of_ofText (read_of_report hlines hne "") ?_ (List.cons_ne_nil _ _)⟩
  rw [ofText_report hlines hne, issues_placedSection, hline]

end Checkup.Knip
