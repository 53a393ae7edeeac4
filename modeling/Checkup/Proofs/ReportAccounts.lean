import Checkup.Proofs.ArchiveRoundTrip
import Checkup.Proofs.LabelledLines
import Checkup.Proofs.ReportFiles
import Checkup.Proofs.RunReports

/-!
# What report files account for

A check is called by a fixed name, and its summary is a few words with numbers between
them, so both stand on one line of a report, where nothing that a tool says can follow
them. Both files of a report say how many issues there are, each in its own way: the
archive has one line for each issue, which starts with the letter of its severity, and
the totals as numbers; the markdown has the totals on labelled lines under a heading.
Both are read here as anybody would, and give what the report holds.
-/

namespace Checkup

open Text (IsOneLine isOneLine_counted isOneLine_natCast Lacks labelled? labelled?_cons labelled?_cons_of_lacks
  underHeading sourceLines)

/-- A check whose name and summary are on one line each. -/
structure Check.FitsLine (check : Check) : Prop where
  name : Text.IsOneLine check.name
  summary : Text.IsOneLine check.summary

/-! ## Summaries -/

/-- Numbers of errors and warnings are on one line. -/
theorem Dialect.isOneLine_summaryDefault (issues : List Issue) : IsOneLine (summaryDefault issues) :=
  (isOneLine_counted _ (by decide)).counted _ (by decide)

/-- The fast linter is summarised on one line. -/
theorem Oxlint.isOneLine_summary (root : Option String) (issues : List Issue) :
    IsOneLine ((dialect root).summary issues) :=
  Dialect.isOneLine_summaryDefault issues

/-- The linter of modules is summarised on one line. -/
theorem Eslint.isOneLine_summary (root : Option String) (issues : List Issue) :
    IsOneLine ((dialect root).summary issues) :=
  Dialect.isOneLine_summaryDefault issues

/-- Unused code is summarised on one line. -/
theorem Knip.isOneLine_summary (root : Option String) (issues : List Issue) :
    IsOneLine ((dialect root).summary issues) :=
  ((isOneLine_counted _ (by decide)).counted _ (by decide)).counted _ (by decide)

/-- Type errors are summarised on one line. -/
theorem TypeScript.isOneLine_summary (root : Option String) (issues : List Issue) :
    IsOneLine ((dialect root).summary issues) :=
  isOneLine_counted _ (by decide)

/-- Boundaries are summarised on one line. -/
theorem Architecture.isOneLine_summary (root : Option String) (issues : List Issue) :
    IsOneLine ((dialect root).summary issues) :=
  (isOneLine_counted _ (by decide)).counted _ (by decide)

/-- Duplicates are summarised on one line. -/
theorem Jscpd.isOneLine_summary (issues : List Issue) : IsOneLine (summary issues) :=
  isOneLine_counted _ (by decide)

/-- Dependencies are summarised on one line. -/
theorem Madge.isOneLine_summary (issues : List Issue) : IsOneLine (summary issues) :=
  (isOneLine_counted _ (by decide)).counted _ (by decide)

/-- Source files are summarised on one line. -/
theorem Source.isOneLine_summary (issues : List Issue) : IsOneLine (summary issues) :=
  ((isOneLine_counted _ (by decide)).counted _ (by decide)).counted _ (by decide)

/-- Folders are summarised on one line. -/
theorem Folder.isOneLine_summary (folders : List Folder) (issues : List Issue) :
    IsOneLine (summary folders issues) :=
  ((isOneLine_counted _ (by decide)).counted _ (by decide)).counted _ (by decide)

/-! ## Checks -/

/-- A check is summarised on one line. -/
def Check.IsSummarised (check : Check) : Prop := IsOneLine check.summary

/-- A check over some issues is summarised on one line if the summary given is. -/
theorem Check.isSummarised_ofIssues {summary : String} (h : IsOneLine summary) (name : String)
    (issues : List Issue) (duration : Int) (rawOutput : Option String) :
    (Check.ofIssues name issues duration summary rawOutput).IsSummarised := h

/-- A check that is left out is summarised on one line if the reason given is. -/
theorem Check.isSummarised_skipped {reason : String} (h : IsOneLine reason) (name : String)
    (issues : List Issue) (duration : Value) : (Check.skipped name reason issues duration).IsSummarised := h

namespace Workplace

variable {place : Workplace} {settings : Settings} {flags : RunFlags}

/-- A tool's answer is summarised on one line if the dialect does so. -/
theorem ask_isSummarised {Payload : Type} {dialect : Dialect Payload}
    (h : ∀ issues, IsOneLine (dialect.summary issues)) (announcement tool : String)
    (arguments : List String) :
    (place.ask announcement tool arguments dialect).Yields Check.IsSummarised :=
  .bind fun _ => .bind fun _ => .bind fun _ => .ofOutcome
    (.bind fun found => .ok (Check.isSummarised_ofIssues (h found) _ _ _ _))

/-- The search for duplicates is summarised on one line. -/
theorem findDuplicates_isSummarised :
    (place.findDuplicates settings).Yields Check.IsSummarised :=
  .bind fun _ => .bind fun _ => .bind fun _ => .bind fun _ => .bind fun _ => .bind fun _ => .bind fun _ =>
    .pure (Check.isSummarised_ofIssues (Jscpd.isOneLine_summary _) _ _ _ _)

/-- The look at dependencies is summarised on one line. -/
theorem lookAtDependencies_isSummarised :
    (place.lookAtDependencies settings).Yields Check.IsSummarised := by
  refine .bind fun _ => .bind fun _ => .bind fun _ => .bind fun _ => .bind fun _ => .ofOutcome ?_
  exact .bind fun _ => .bind fun _ => .ok (Check.isSummarised_ofIssues (Madge.isOneLine_summary _) _ _ _ _)

/-- The check of boundaries is summarised on one line, whether they are defined or not. -/
theorem checkBoundaries_isSummarised :
    (place.checkBoundaries settings).Yields Check.IsSummarised := by
  unfold checkBoundaries
  split
  · exact ask_isSummarised (Architecture.isOneLine_summary _) _ _ _
  · have hreason : IsOneLine "Config not found" := by decide
    exact .pure (Check.isSummarised_skipped hreason _ _ _)

/-- Every attempt at a check is summarised on one line. -/
theorem attempt_isSummarised (kind : CheckKind) :
    (place.attempt settings flags kind).Yields Check.IsSummarised := by
  unfold attempt
  by_cases hq : (flags.quick && kind.isSlow) = true
  · have hreason : IsOneLine quickReason := by decide
    rw [if_pos hq]
    exact .pure (Check.isSummarised_skipped hreason _ _ _)
  · rw [if_neg hq]
    cases kind with
    | oxlint => exact ask_isSummarised (Oxlint.isOneLine_summary _) _ _ _
    | eslint => exact ask_isSummarised (Eslint.isOneLine_summary _) _ _ _
    | knip => exact ask_isSummarised (Knip.isOneLine_summary _) _ _ _
    | jscpd => exact findDuplicates_isSummarised
    | madge => exact lookAtDependencies_isSummarised
    | typeScript => exact ask_isSummarised (TypeScript.isOneLine_summary _) _ _ _
    | complexity =>
      exact .bind fun _ => .bind fun _ => .bind fun _ => .bind fun _ =>
        .pure (Check.isSummarised_ofIssues (Source.isOneLine_summary _) _ _ _ _)
    | architecture => exact checkBoundaries_isSummarised
    | folders =>
      exact .bind fun _ => .bind fun _ => .bind fun _ =>
        .pure (Check.isSummarised_ofIssues (Folder.isOneLine_summary _ _) _ _ _ _)

/-- The name of every check is on one line. -/
theorem isOneLine_name (kind : CheckKind) : IsOneLine kind.name := by
  cases kind <;> decide

/-- Every check of a run has its name and its summary on one line each, also one that
failed on the way. -/
theorem fitsLine_of_mem_run {timestamp : String} {check : Check}
    (h : check ∈ (place.run settings flags timestamp).report.checks) : check.FitsLine := by
  rw [checks_run] at h
  obtain ⟨kind, -, rfl⟩ := List.mem_map.mp h
  have hname : (place.examine settings flags kind).check.name = kind.name := admits_examine.name
  have hcrashed : IsOneLine "Check failed to run" := by decide
  constructor
  · rw [hname]
    exact isOneLine_name kind
  · exact examine_of_yields (attempt_isSummarised kind) fun _ =>
      Check.isSummarised_ofIssues hcrashed _ _ _ _

end Workplace

/-! ## Reports in lines -/

/-- A report that can be laid out in lines: no text of it but for those of its issues has
more than one, and its durations are whole numbers. -/
structure Report.FitsLines (report : Report) : Prop where
  timestamp : IsOneLine report.timestamp
  checks : ∀ check ∈ report.checks, check.FitsLine
  durations : ∀ check ∈ report.checks, ∃ n, check.duration = .int n

/-! ## Archives -/

namespace Archive

/-- The issue lines of all checks of a document. -/
def issueLines (document : Value) : Outcome (List Value) := do
  let checks ← parts (← field document "checks")
  let lines ← checks.mapM fun check => do parts (← field check "i")
  .ok lines.flatten

/-- A text that starts as the line of an issue of one severity. -/
def startsAs (severity : Severity) : Value → Bool
  | .text line => [severity.letter, '|'].isPrefixOf line.toList
  | _ => false

/-- A document has as many issue lines of each severity as its totals say, and a grade. -/
structure Accounts (document : Value) (totals : Totals) (grade : Grade) : Prop where
  lines : ∃ lines, issueLines document = .ok lines ∧
    lines.countP (startsAs .error) = totals.errors ∧
      lines.countP (startsAs .warning) = totals.warnings ∧
        lines.countP (startsAs .info) = totals.infos
  totals : ∃ counts, field document "totals" = .ok counts ∧
    field counts "e" = .ok (.int totals.errors) ∧ field counts "w" = .ok (.int totals.warnings) ∧
      field counts "i" = .ok (.int totals.infos)
  grade : field document "grade" = .ok (.text grade.name)

/-- The line of an issue starts with the letter of its severity. -/
theorem startsAs_encode (severity : Severity) (issue : Issue) :
    startsAs severity (.text issue.encode) = decide (issue.severity = severity) := by
  change [severity.letter, '|'].isPrefixOf issue.encode.toList = _
  rw [Issue.toList_encode]
  cases issue.severity <;> cases severity <;> rfl

/-- The issue lines of a document are those of the issues of all checks. -/
theorem issueLines_toDocument (report : Report) :
    issueLines (toDocument (ofReport report)) =
      .ok ((report.checks.flatMap Check.issues).map fun issue => .text issue.encode) := by
  have hchecks : ((report.checks.map ofCheck).map checkDocument).mapM
      (fun check => do parts (← field check "i")) =
        Except.ok (report.checks.map fun check => check.issues.map fun issue => .text issue.encode) := by
    rw [List.map_map]
    exact mapM_map_eq_pure fun check _ => rfl
  change (do
    let lines ← ((report.checks.map ofCheck).map checkDocument).mapM
      fun check => do parts (← field check "i")
    .ok lines.flatten) = _
  rw [hchecks, List.map_flatMap, List.flatMap_def]
  rfl

/-- As many issue lines of a document start with a letter as issues have the severity. -/
theorem countP_startsAs (severity : Severity) (issues : List Issue) :
    (issues.map fun issue : Issue => Value.text issue.encode).countP (startsAs severity) =
      Issue.count severity issues := by
  rw [List.countP_map]
  exact List.countP_congr fun issue _ => by rw [Function.comp_apply, startsAs_encode]

/-- The document of a report accounts for its issues, if its totals do. -/
theorem accounts_toDocument {report : Report} (h : report.totals = .ofChecks report.checks) :
    Accounts (toDocument (ofReport report)) report.totals report.grade where
  lines := by
    refine ⟨_, issueLines_toDocument report, ?_⟩
    rw [h, countP_startsAs, countP_startsAs, countP_startsAs]
    exact ⟨rfl, rfl, rfl⟩
  totals := ⟨_, rfl, rfl, rfl, rfl⟩
  grade := rfl

end Archive

/-! ## Markdown -/

namespace Markdown

/-- The heading above the totals. -/
def totalsHeading : String := "## 📈 Totals"

/-- A markdown report tells its totals under their heading, and its grade. -/
structure Accounts (text : String) (totals : Totals) (grade : Grade) : Prop where
  grade : labelled? "**Grade:** " (sourceLines text.toList) = some grade.name.toList
  errors : labelled? "- **Errors:** " (underHeading totalsHeading (sourceLines text.toList)) =
    some (toString totals.errors).toList
  warnings : labelled? "- **Warnings:** " (underHeading totalsHeading (sourceLines text.toList)) =
    some (toString totals.warnings).toList
  infos : labelled? "- **Info:** " (underHeading totalsHeading (sourceLines text.toList)) =
    some (toString totals.infos).toList

/-- The lines under the heading of the totals. -/
def totalsLines (totals : Totals) : List String :=
  ["", "- **Errors:** " ++ toString totals.errors, "- **Warnings:** " ++ toString totals.warnings,
    "- **Info:** " ++ toString totals.infos, ""]

/-- The glyph and the name of a status are on one line each. -/
theorem isOneLine_status (status : Status) : IsOneLine status.glyph ∧ IsOneLine status.name := by
  cases status <;> decide

/-- The name of a grade is on one line. -/
theorem isOneLine_grade (grade : Grade) : IsOneLine grade.name := by
  cases grade <;> decide

/-- A duration in the table that is a whole number was shown as one. -/
theorem exists_shown_of_summaryRow {check : Check} {row : String} {n : Int} (hd : check.duration = .int n)
    (h : summaryRow check = .ok row) :
    ∃ shown, showMilliseconds n = .ok shown ∧
      row = "| " ++ check.name ++ " | " ++ check.status.glyph ++ " " ++ check.status.name ++ " | " ++
        shown ++ " | " ++ check.summary ++ " |" := by
  unfold summaryRow at h
  rw [hd] at h
  obtain ⟨shown, hshown, h⟩ := bind_eq_ok_iff.mp h
  cases h
  exact ⟨shown, hshown, rfl⟩

/-- A row of the table is on one line, and starts with a bar. -/
theorem isOneLine_summaryRow {check : Check} {row : String} {n : Int} (hf : check.FitsLine)
    (hd : check.duration = .int n) (h : summaryRow check = .ok row) :
    IsOneLine row ∧ "| ".toList <+: row.toList := by
  obtain ⟨shown, hshown, rfl⟩ := exists_shown_of_summaryRow hd h
  obtain ⟨hglyph, hname⟩ := isOneLine_status check.status
  have hbar : IsOneLine " | " := by decide
  constructor
  · have hfirst : IsOneLine ("| " ++ check.name) := IsOneLine.append (by decide) hf.name
    have hsecond : IsOneLine ("| " ++ check.name ++ " | " ++ check.status.glyph ++ " " ++ check.status.name) :=
      (((hfirst.append hbar).append hglyph).append (by decide)).append hname
    exact ((((hsecond.append hbar).append (isOneLine_of_showMilliseconds hshown)).append hbar).append
      hf.summary).append (by decide)
  · simp only [String.append_assoc]
    rw [String.toList_append]
    exact List.prefix_append _ _

/-- The lines above the sections of the checks: the grade stands behind its label, the
totals stand under their heading, and nothing before them looks like either. -/
theorem exists_headLines_eq {report : Report} {lines : List String} (hr : report.FitsLines)
    (h : headLines report = .ok lines) :
    ∃ before between, lines = (before ++ ("**Grade:** " ++ report.grade.name) :: between) ++
        totalsHeading :: totalsLines report.totals ∧
      (∀ line ∈ lines, IsOneLine line) ∧ (∀ line ∈ before, Lacks "**Grade:** " line.toList) ∧
        ∀ line ∈ before ++ ("**Grade:** " ++ report.grade.name) :: between,
          Lacks totalsHeading line.toList := by
  unfold headLines at h
  obtain ⟨duration, hduration, h⟩ := bind_eq_ok_iff.mp h
  obtain ⟨rows, hrows, h⟩ := bind_eq_ok_iff.mp h
  cases h
  have hrow : ∀ row ∈ rows, IsOneLine row ∧ "| ".toList <+: row.toList := by
    intro row hm
    obtain ⟨check, hc, hcheck⟩ := (members_of_mapM_eq_ok hrows).1 row hm
    obtain ⟨n, hn⟩ := hr.durations check hc
    exact isOneLine_summaryRow (hr.checks check hc) hn hcheck
  refine ⟨["# 🏥 Code Health Report", "", "**Generated:** " ++ report.timestamp, "**Duration:** " ++ duration],
    ["", "## 📊 Summary", "", "| Check | Status | Duration | Summary |",
      "|-------|--------|----------|---------|"] ++ rows ++ [""], ?_, ?_, ?_, ?_⟩
  · simp only [totalsLines, totalsHeading, List.append_assoc, List.cons_append, List.nil_append]
  · simp only [List.forall_mem_append, List.forall_mem_cons, List.not_mem_nil, false_implies, implies_true,
      and_true]
    refine ⟨⟨⟨by decide, by decide, ?_, ?_, ?_, by decide, by decide, by decide, by decide, by decide⟩,
      fun row hm => (hrow row hm).1⟩, by decide, by decide, by decide, ?_, ?_, ?_, by decide⟩
    · exact IsOneLine.append (by decide) hr.timestamp
    · exact IsOneLine.append (by decide) (isOneLine_of_showMilliseconds hduration)
    · exact IsOneLine.append (by decide) (isOneLine_grade report.grade)
    · exact IsOneLine.append (by decide) (isOneLine_natCast _)
    · exact IsOneLine.append (by decide) (isOneLine_natCast _)
    · exact IsOneLine.append (by decide) (isOneLine_natCast _)
  · simp only [List.forall_mem_cons, List.not_mem_nil, false_implies, implies_true, and_true]
    exact ⟨by decide, by decide, .of_differ (by decide) (by decide) _, .of_differ (by decide) (by decide) _⟩
  · simp only [List.forall_mem_append, List.forall_mem_cons, List.not_mem_nil, false_implies, implies_true,
      and_true]
    refine ⟨⟨by decide, by decide, ?_, ?_⟩, ?_, ⟨⟨by decide, by decide, by decide, by decide, by decide⟩,
      ?_⟩, by decide⟩
    · exact .of_differ (by decide) (by decide) _
    · exact .of_differ (by decide) (by decide) _
    · exact .of_differ (by decide) (by decide) _
    · exact fun row hm => .of_isPrefix (by decide) (by decide) (hrow row hm).2

/-- A rendered report has durations that can be written: that of the run, and those of its
checks that are whole numbers. -/
theorem isWritable_of_render {report : Report} {jsonPath text : String}
    (h : render report jsonPath = .ok text) :
    isWritable report.duration = true ∧
      ∀ check ∈ report.checks, ∀ n, check.duration = .int n → isWritable n = true := by
  unfold render reportLines headLines at h
  obtain ⟨lines, hlines, -⟩ := bind_eq_ok_iff.mp h
  obtain ⟨head, hhead, -⟩ := bind_eq_ok_iff.mp hlines
  obtain ⟨duration, hduration, hhead⟩ := bind_eq_ok_iff.mp hhead
  obtain ⟨rows, hrows, -⟩ := bind_eq_ok_iff.mp hhead
  refine ⟨isWritable_of_showMilliseconds hduration, fun check hc n hn => ?_⟩
  obtain ⟨row, -, hrow⟩ := (members_of_mapM_eq_ok hrows).2 check hc
  obtain ⟨shown, hshown, -⟩ := exists_shown_of_summaryRow hn hrow
  exact isWritable_of_showMilliseconds hshown

/-- No line of the totals is a heading, so all of them stand under theirs. -/
theorem takeWhile_totalsLines (totals : Totals) (more : List (List Char)) :
    ∃ rest, ((totalsLines totals).map String.toList ++ more).takeWhile
        (fun line => (Text.after? "## ".toList line).isNone) =
      (totalsLines totals).map String.toList ++ rest := by
  have hlacks : ∀ line ∈ (totalsLines totals).map String.toList, Lacks "## " line := by
    simp only [totalsLines, List.map_cons, List.map_nil, List.forall_mem_cons, List.not_mem_nil,
      false_implies, implies_true, and_true]
    refine ⟨by decide, ?_, ?_, ?_, by decide⟩ <;> exact .of_differ (by decide) (by decide) _
  rw [List.takeWhile_append_of_pos fun line hl => Option.isNone_iff_eq_none.mpr (hlacks line hl)]
  exact ⟨_, rfl⟩

/-- The number behind each label of the totals is the total. -/
theorem labelled?_totalsLines (totals : Totals) (rest : List (List Char)) :
    labelled? "- **Errors:** " ((totalsLines totals).map String.toList ++ rest) =
        some (toString totals.errors).toList ∧
      labelled? "- **Warnings:** " ((totalsLines totals).map String.toList ++ rest) =
          some (toString totals.warnings).toList ∧
        labelled? "- **Info:** " ((totalsLines totals).map String.toList ++ rest) =
          some (toString totals.infos).toList := by
  simp only [totalsLines, List.map_cons, List.map_nil, List.cons_append, List.nil_append]
  refine ⟨?_, ?_, ?_⟩
  · rw [labelled?_cons_of_lacks (by decide), labelled?_cons]
  · rw [labelled?_cons_of_lacks (by decide), labelled?_cons_of_lacks (.of_differ (by decide) (by decide) _),
      labelled?_cons]
  · rw [labelled?_cons_of_lacks (by decide), labelled?_cons_of_lacks (.of_differ (by decide) (by decide) _),
      labelled?_cons_of_lacks (.of_differ (by decide) (by decide) _), labelled?_cons]

/-- A rendered report tells its totals and its grade. -/
theorem accounts_of_render {report : Report} {jsonPath text : String} (hr : report.FitsLines)
    (h : render report jsonPath = .ok text) : Accounts text report.totals report.grade := by
  unfold render reportLines at h
  obtain ⟨lines, hlines, h⟩ := bind_eq_ok_iff.mp h
  obtain ⟨head, hhead, hlines⟩ := bind_eq_ok_iff.mp hlines
  obtain ⟨items, -, hlines⟩ := bind_eq_ok_iff.mp hlines
  cases hlines
  cases h
  obtain ⟨before, between, hparts, hone, hgrade, hheading⟩ := exists_headLines_eq hr hhead
  rw [List.append_assoc, List.append_assoc]
  generalize hrest : report.checks.flatMap checkSection ++ (actionSection items ++
    ["---", "*Full JSON report available at: " ++ jsonPath ++ "*"]) = rest
  have hne : rest ≠ [] := by
    rw [← hrest]
    simp
  have hsource : sourceLines (String.intercalate "\n" (head ++ rest)).toList =
      (before ++ ("**Grade:** " ++ report.grade.name) :: between).map String.toList ++
        totalsHeading.toList :: ((totalsLines report.totals).map String.toList ++
          sourceLines (String.intercalate "\n" rest).toList) := by
    rw [Text.sourceLines_intercalate hone hne, hparts, List.map_append, List.append_assoc]
    rfl
  obtain ⟨more, hmore⟩ := takeWhile_totalsLines report.totals (sourceLines (String.intercalate "\n" rest).toList)
  have htotals : underHeading totalsHeading (sourceLines (String.intercalate "\n" (head ++ rest)).toList) =
      (totalsLines report.totals).map String.toList ++ more := by
    rw [hsource, Text.underHeading_append (List.forall_mem_map.mpr hheading), hmore]
  obtain ⟨herrors, hwarnings, hinfos⟩ := labelled?_totalsLines report.totals more
  constructor
  · rw [hsource, List.map_append, List.append_assoc,
      Text.labelled?_append (List.forall_mem_map.mpr hgrade), List.map_cons, List.cons_append,
      Text.labelled?_cons]
  · rw [htotals, herrors]
  · rw [htotals, hwarnings]
  · rw [htotals, hinfos]

end Markdown

end Checkup
