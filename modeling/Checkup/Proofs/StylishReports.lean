import Checkup.Proofs.EvidentFindings
import Checkup.Proofs.ForeignLines
import Checkup.Proofs.PrintedRows

/-!
# Reports of ESLint are read back

A report shows the files one after another, the findings of each below its path, and may sum them
up at its end. The path that was last seen says where a finding is, so a path changes what follows,
a row gives an issue below it, and blank lines and the sum change nothing. A row of the report gives
one issue, in the order of the rows.
-/

namespace Checkup.Eslint

open Text

/-! ## Reports -/

/-- The issue of a finding in a file: the line unless its number is too long. -/
def PrintedRow.issue (file : Value) (row : PrintedRow) : Issue where
  severity := row.severity
  message := .text row.message
  file
  line := .lineNumber row.line
  rule := .ofText? (row.rule.map PrintedRule.name)

/-- The issues of a file, which is shown below the root folder. -/
def PrintedFile.issues (root : Option String) (file : PrintedFile) : Outcome (List Issue) := do
  let path ← (Value.text file.path).toPath root
  .ok (file.rows.map (PrintedRow.issue path))

/-- The lines of a report. -/
def reportLines (files : List PrintedFile) (total : Option Total) : List (List Char) :=
  files.flatMap PrintedFile.lines ++ (total.map fun total => total.text.toList).toList

variable {root : Option String} {rest : List (List Char)} {file : Value}

/-! ## What a line changes -/

namespace PrintedFile

/-- With slashes for backslashes the path of a file still ends with no blank and no slash. -/
theorem exists_getLast?_slashed (file : PrintedFile) :
    ∃ c, (Value.slashed file.path.toList).getLast? = some c ∧ isBlank c = false ∧ c ≠ '/' := by
  obtain ⟨c, hlast, hblank, hplain⟩ := file.exists_getLast?
  simp only [List.mem_cons, List.not_mem_nil, or_false, not_or] at hplain
  refine ⟨c, ?_, hblank, hplain.2.1⟩
  rw [Value.slashed, List.getLast?_map, hlast]
  exact congrArg some (if_neg hplain.2.2)

/-- No blank stands at the ends of that path. -/
theorem trim_slashed (file : PrintedFile) :
    trim (Value.slashed file.path.toList) = Value.slashed file.path.toList := by
  obtain ⟨more, hmore⟩ := List.head?_eq_some_iff.mp file.isPath
  obtain ⟨c, hlast, hblank, -⟩ := file.exists_getLast?_slashed
  have hstart : Stops isBlank (Value.slashed file.path.toList) := by
    rw [hmore]
    exact stops_cons rfl _
  rw [trim, trimStart_eq_self hstart, trimEnd_eq_self hlast hblank]

/-- Something is left of that path without the root: the start of the paths below a root ends with a slash. -/
theorem withoutRoot_slashed_ne_nil (root : Option String) (file : PrintedFile) :
    Value.withoutRoot root (Value.slashed file.path.toList) ≠ [] := by
  obtain ⟨c, hlast, -, hslash⟩ := file.exists_getLast?_slashed
  cases root with
  | none => exact List.ne_nil_of_mem (List.mem_of_getLast? hlast)
  | some root =>
    intro hnil
    change afterOptional (Value.rootStart root) (Value.slashed file.path.toList) = [] at hnil
    obtain ⟨optional, hoptional, hsplit⟩ := exists_optional (Value.rootStart root) (Value.slashed file.path.toList)
    rw [hnil, List.append_nil] at hsplit
    rw [hsplit] at hlast
    rcases hoptional with rfl | rfl
    · cases hlast
    · rw [Value.rootStart, List.getLast?_concat] at hlast
      exact hslash (Option.some.inj hlast).symm

/-- The path of a file is shown as a text, unless the root folder is not admitted. -/
theorem toPath_path (root : Option String) (file : PrintedFile) :
    (Value.text file.path).toPath root = .error .nullCharacter ∨
      ∃ shown, (Value.text file.path).toPath root = .ok (.text shown) := by
  obtain ⟨more, hmore⟩ := List.head?_eq_some_iff.mp file.isPath
  have hempty := List.isEmpty_eq_false_iff.mpr (file.withoutRoot_slashed_ne_nil root)
  have hdisplay : (Value.text file.path).display.toList = file.path.toList := rfl
  unfold Value.toPath
  split
  · next heq => cases heq
  · next heq =>
    rw [Value.scalar.inj heq |> Scalar.text.inj] at hmore
    cases hmore
  · dsimp only
    rw [hdisplay, file.trim_slashed, hempty, if_neg Bool.false_ne_true]
    by_cases hroot : Value.isBadRoot root = true
    · exact .inl (if_pos hroot)
    · exact .inr ⟨_, if_neg hroot⟩

end PrintedFile

/-- A path changes where the findings are. -/
theorem issuesOfLines_path (seen : Value) (file : PrintedFile) (rest : List (List Char)) :
    issuesOfLines root seen (file.path.toList :: rest) =
      (Value.text file.path).toPath root >>= fun path => issuesOfLines root path rest := by
  rw [issuesOfLines.eq_def]
  dsimp only
  rw [file.headerPath?_path]
  dsimp only
  rw [String.ofList_toList]

/-- A row gives an issue below the path that was seen. -/
theorem issuesOfLines_row (path : String) (row : PrintedRow) (rest : List (List Char)) :
    issuesOfLines root (.text path) (row.text.toList :: rest) =
      issuesOfLines root (.text path) rest >>= fun more => .ok (row.issue (.text path) :: more) := by
  have hheader : headerPath? row.text.toList = none := by
    rw [row.toList_text]
    exact headerPath?_of_blank rfl _
  rw [issuesOfLines.eq_def]
  dsimp only
  rw [hheader, row.row?_text]
  dsimp only [PrintedRow.found]
  rw [Value.toLine_toDigits row.isLine, ok_bind, Value.ofLine?_eq_lineNumber, String.ofList_toList]
  have hrule : (row.rule.map fun rule => rule.name.toList).map String.ofList = row.rule.map PrintedRule.name := by
    rw [Option.map_map]
    exact congrArg (Option.map · row.rule) (funext fun rule => String.ofList_toList)
  rw [hrule]
  rfl

/-- A blank line changes nothing. -/
theorem issuesOfLines_blank {line : List Char} (h : allBlank line = true) :
    issuesOfLines root file (line :: rest) = issuesOfLines root file rest := by
  have hquiet : ∀ word : List Char, allBlank word = false → occurs word line = false := by
    intro word hword
    refine Bool.eq_false_iff.mpr fun hoccurs => ?_
    rw [allBlank_of_isInfix h (occurs_iff.mp hoccurs)] at hword
    cases hword
  rw [issuesOfLines.eq_def]
  dsimp only
  rw [headerPath?_of_allBlank h, row?_of_allBlank h]
  dsimp only
  rw [hquiet _ rfl, hquiet _ rfl]
  split <;> rfl

/-- What sums up the findings changes nothing. -/
theorem issuesOfLines_total (total : Total) :
    issuesOfLines root file (total.text.toList :: rest) = issuesOfLines root file rest := by
  rw [issuesOfLines.eq_def]
  dsimp only
  rw [total.headerPath?_text, total.row?_text]
  dsimp only
  rw [if_pos total.isSome_announcement]

/-! ## What a report says -/

/-- Rows give their issues one by one. -/
theorem issuesOfLines_rows (path : String) (rows : List PrintedRow) (rest : List (List Char)) :
    issuesOfLines root (.text path) (rows.map (fun row => row.text.toList) ++ rest) =
      issuesOfLines root (.text path) rest >>= fun more => .ok (rows.map (PrintedRow.issue (.text path)) ++ more) := by
  induction rows with
  | nil =>
    change issuesOfLines root (.text path) rest = _
    cases issuesOfLines root (.text path) rest <;> rfl
  | cons row rows ih =>
    rw [List.map_cons, List.cons_append, issuesOfLines_row, ih]
    cases issuesOfLines root (.text path) rest <;> rfl

/-- Blank lines are passed over. -/
theorem issuesOfLines_blanks {blanks : List String} (h : ∀ line ∈ blanks, allBlank line.toList = true) :
    issuesOfLines root file (blanks.map String.toList ++ rest) = issuesOfLines root file rest := by
  induction blanks with
  | nil => rfl
  | cons line blanks ih =>
    obtain ⟨hline, hblanks⟩ := List.forall_mem_cons.mp h
    rw [List.map_cons, List.cons_append, issuesOfLines_blank hline, ih hblanks]

/-- A file gives its issues, whichever path was seen before it. -/
theorem issuesOfLines_file (seen : Value) (file : PrintedFile) (rest : List (List Char)) :
    issuesOfLines root seen (file.lines ++ rest) = (Value.text file.path).toPath root >>= fun path =>
      issuesOfLines root path rest >>= fun more => .ok (file.rows.map (PrintedRow.issue path) ++ more) := by
  rw [PrintedFile.lines, List.cons_append, issuesOfLines_path, List.append_assoc]
  rcases file.toPath_path root with hpath | ⟨shown, hpath⟩
  · rw [hpath]
    rfl
  · rw [hpath, ok_bind, ok_bind, issuesOfLines_rows, issuesOfLines_blanks file.areBlank]

/-- A report gives the issues of its files in their order. -/
theorem issuesOfLines_report (seen : Value) (files : List PrintedFile) (total : Option Total) :
    issuesOfLines root seen (reportLines files total) =
      files.mapM (PrintedFile.issues root) >>= fun found => .ok found.flatten := by
  induction files generalizing seen with
  | nil =>
    have hend : issuesOfLines root seen [] = .ok [] := by rw [issuesOfLines]
    cases total with
    | none => exact hend
    | some total => exact (issuesOfLines_total total).trans hend
  | cons file files ih =>
    have hlines : reportLines (file :: files) total = file.lines ++ reportLines files total := by
      rw [reportLines, List.flatMap_cons, List.append_assoc, ← reportLines]
    rw [hlines, issuesOfLines_file, List.mapM_cons, PrintedFile.issues]
    cases (Value.text file.path).toPath root with
    | error fault => rfl
    | ok path =>
      rw [ok_bind, ih path]
      cases files.mapM (PrintedFile.issues root) <;> rfl

/-! ## Reading a report -/

variable {stdout : String} {files : List PrintedFile} {total : Option Total}

/-- A report of a file is scanned. -/
theorem read_of_report (hlines : lines stdout.toList = reportLines files total) (hne : files ≠ []) (stderr : String) :
    (dialect root).read stdout stderr = .ok (.text stdout) := by
  obtain ⟨first, files, rfl⟩ := List.exists_cons_of_ne_nil hne
  obtain ⟨more, hmore⟩ := List.head?_eq_some_iff.mp first.isPath
  have hstart : first.path.toList <+: stdout.toList := by
    have hfirst := headD_lines_isPrefix stdout.toList
    rw [hlines] at hfirst
    exact hfirst
  obtain ⟨behind, hbehind⟩ := hstart
  rw [hmore, List.cons_append] at hbehind
  have hdocument : Json.read? (trim stdout.toList) = none := by
    rw [← hbehind]
    exact Json.read?_trim_of_foreign rfl rfl _
  have hfull : allBlank stdout.toList = false := by
    rw [← hbehind]
    rfl
  exact congrArg Except.ok (Dialect.readJson_of_not_blank hdocument hfull stderr)

/-- The lines of a report give the issues of its files. -/
theorem ofText_report (hlines : lines stdout.toList = reportLines files total) :
    (dialect root).ofText stdout = files.mapM (PrintedFile.issues root) >>= fun found => .ok found.flatten := by
  change issuesOfLines root .null (lines stdout.toList) = _
  rw [hlines]
  exact issuesOfLines_report .null files total

/-- Files with a finding give an issue. -/
theorem flatten_ne_nil_of_rows {found : List (List Issue)} (hfound : files.mapM (PrintedFile.issues root) = .ok found)
    (hsome : files.flatMap PrintedFile.rows ≠ []) : found.flatten ≠ [] := by
  obtain ⟨row, hrow⟩ := List.exists_mem_of_ne_nil _ hsome
  obtain ⟨file, hfile, hrow⟩ := List.mem_flatMap.mp hrow
  obtain ⟨issues, hissues, hfileIssues⟩ := (members_of_mapM_eq_ok hfound).2 file hfile
  obtain ⟨path, -, hpath⟩ := bind_eq_ok_iff.mp hfileIssues
  cases hpath
  exact List.ne_nil_of_mem (List.mem_flatten_of_mem hissues (List.mem_map_of_mem hrow))

/-- A report with a finding is read back: every row gives its issue, below the path that stands
above it, in the order of the rows and however the lines end. -/
theorem issues_of_stylish_report (hlines : lines stdout.toList = reportLines files total)
    (hsome : files.flatMap PrintedFile.rows ≠ []) (stderr : String) :
    (dialect root).issues stdout stderr =
      files.mapM (PrintedFile.issues root) >>= fun found => .ok found.flatten := by
  have hne : files ≠ [] := fun hnil => hsome (by rw [hnil]; rfl)
  have hread := @read_of_report root _ _ _ hlines hne stderr
  have htext := @ofText_report root _ _ _ hlines
  cases hfound : files.mapM (PrintedFile.issues root) with
  | error fault =>
    rw [hfound] at htext
    exact Dialect.issues_of_ofText_error hread htext
  | ok found =>
    rw [hfound] at htext
    exact Dialect.issues_of_ofText hread htext (flatten_ne_nil_of_rows hfound hsome)

/-- An error whose message reads like the sum of a report. -/
def countingRow : PrintedRow where
  line := 1
  column := 5
  severity := .error
  message := "✖ 3 problems in /y.ts"
  rule := some ⟨"no-undef", 2, ⟨by decide, forall_mem_of_all rfl⟩, by decide⟩
  isLine := by decide
  isGraded := by decide
  isMessage := ⟨by decide, by decide⟩
  hasNoGap := by decide

/-- A warning of no rule. -/
def plainRow : PrintedRow where
  line := 7
  column := 1
  severity := .warning
  message := "no error"
  rule := none
  isLine := by decide
  isGraded := by decide
  isMessage := ⟨by decide, by decide⟩
  hasNoGap := by decide

/-- Two files, of which one has no findings. -/
def twoFiles : List PrintedFile := [
  { path := "/repo/a b.ts", rows := [countingRow, plainRow], blanks := [""], isPath := rfl,
    isLinted := ⟨".ts", by decide, by decide⟩, areBlank := by decide },
  { path := "/b.jsx", rows := [], blanks := ["", " "], isPath := rfl,
    isLinted := ⟨".jsx", by decide, by decide⟩, areBlank := by decide }]

/-- The rows of the first file are read back. -/
theorem issues_of_stylish_report_two :
    let stdout := "/repo/a b.ts\n  1:5  error  ✖ 3 problems in /y.ts  no-undef\n" ++
      "  7:1  warning  no error\n\n/b.jsx\n\r\n \n✖ 2 problems (1 errors, 1 warnings)\n"
    lines stdout.toList = reportLines twoFiles (some ⟨2, 1, 1, by decide⟩) ∧
      twoFiles.flatMap PrintedFile.rows ≠ [] ∧ (dialect (some "/repo")).issues stdout "" = .ok [
        { severity := .error, message := .text "✖ 3 problems in /y.ts", file := .text "a b.ts",
          line := .int 1, rule := .text "no-undef" },
        { severity := .warning, message := .text "no error", file := .text "a b.ts",
          line := .int 7, rule := .null }] := by
  intro stdout
  have hlines : lines stdout.toList = reportLines twoFiles (some ⟨2, 1, 1, by decide⟩) := by decide +kernel
  have hsome : twoFiles.flatMap PrintedFile.rows ≠ [] := List.cons_ne_nil _ _
  have hfirst : (Value.text "/repo/a b.ts").toPath (some "/repo") = .ok (.text "a b.ts") := by cbv
  have hsecond : (Value.text "/b.jsx").toPath (some "/repo") = .ok (.text "/b.jsx") := by cbv
  have hone : Value.lineNumber 1 = .int 1 := if_pos (lt_unwritable (by decide))
  have hseven : Value.lineNumber 7 = .int 7 := if_pos (lt_unwritable (by decide))
  refine ⟨hlines, hsome, (issues_of_stylish_report hlines hsome "").trans ?_⟩
  simp only [twoFiles, List.mapM_cons, List.mapM_nil, PrintedFile.issues, hfirst, hsecond, ok_bind, List.map_cons,
    List.map_nil, PrintedRow.issue, countingRow, plainRow, hone, hseven]
  rfl

/-- A row with a line of more digits than are read. -/
def lostRow : PrintedRow where
  line := unwritable
  column := 1
  severity := .error
  message := "boom"
  rule := none
  isLine := unwritable_pos
  isGraded := by decide
  isMessage := by decide
  hasNoGap := by decide

/-- A file with that row. -/
def lostFile : PrintedFile where
  path := "/a.ts"
  rows := [lostRow]
  blanks := []
  isPath := rfl
  isLinted := ⟨".ts", by decide, by decide⟩
  areBlank := by decide

/-- The lines of that file. -/
theorem lines_lostFile : lines ("/a.ts\n" ++ (lostRow.text ++ "\n")).toList = reportLines [lostFile] none := by
  have hdigits : ∀ n, ∀ c ∈ Nat.toDigits 10 n, isLineBreak c = false := fun n c hc =>
    isLineBreak_of_isBlank ((isDigits_toDigits n).isBlank_of_mem c hc)
  have hpath : ∀ c ∈ lostFile.path.toList, isLineBreak c = false := forall_mem_of_all rfl
  have hrow : ∀ c ∈ lostRow.text.toList, isLineBreak c = false := by
    have hseverity : ∀ c ∈ lostRow.severity.name.toList, isLineBreak c = false := forall_mem_of_all rfl
    have hmessage : ∀ c ∈ lostRow.message.toList, isLineBreak c = false := forall_mem_of_all rfl
    have hbehind : ∀ c ∈ lostRow.behind.toList, isLineBreak c = false := fun c hc => absurd hc List.not_mem_nil
    rw [lostRow.toList_text]
    simp only [List.forall_mem_append, List.forall_mem_cons]
    exact ⟨rfl, rfl, hdigits _, rfl, hdigits _, rfl, rfl, hseverity, rfl, rfl, hmessage, hbehind⟩
  have hends : ("/a.ts\n" ++ (lostRow.text ++ "\n")).toList =
      [lostFile.path.toList, lostRow.text.toList].flatMap (· ++ ['\n']) := by
    have hfirst : "/a.ts\n".toList = lostFile.path.toList ++ ['\n'] := rfl
    have hfeed : "\n".toList = ['\n'] := rfl
    rw [String.toList_append, String.toList_append, hfirst, hfeed, List.flatMap_cons, List.flatMap_singleton]
  have hreport : reportLines [lostFile] none = [lostFile.path.toList, lostRow.text.toList] := rfl
  rw [hends, hreport]
  exact lines_flatMap_feed (List.forall_mem_cons.mpr ⟨hpath, List.forall_mem_singleton.mpr hrow⟩)

/-- Such a row is read back without its line. -/
theorem issues_of_lost_row :
    (dialect none).issues ("/a.ts\n" ++ (lostRow.text ++ "\n")) "" =
      .ok [{ severity := .error, message := .text "boom", file := .text "/a.ts", line := .null, rule := .null }] := by
  have hpath : (Value.text lostFile.path).toPath none = .ok (.text "/a.ts") := rfl
  have hline : Value.lineNumber unwritable = .null := if_neg (Nat.lt_irrefl unwritable)
  have hfile : lostFile.issues none =
      .ok [{ severity := .error, message := .text "boom", file := .text "/a.ts", line := .null, rule := .null }] := by
    rw [PrintedFile.issues, hpath, ok_bind]
    simp only [lostFile, List.map_cons, List.map_nil, PrintedRow.issue, lostRow, hline]
    rfl
  refine Dialect.issues_of_ofText (read_of_report lines_lostFile (List.cons_ne_nil _ _) "") ?_ (List.cons_ne_nil _ _)
  rw [ofText_report lines_lostFile, List.mapM_cons, hfile]
  rfl

end Checkup.Eslint
