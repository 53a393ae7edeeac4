import Checkup.Proofs.IssueLines
import Checkup.Proofs.JsonRoundTrip
import Checkup.Proofs.Outcomes
import Checkup.Report.Archive

/-!
# Reports read back from their archives

An archive is a document of issue lines, so it is read back through two formats:
the document as JSON, and each line within it. Reports whose issues stand on
their lines come back whole, but for what no archive keeps, and are written again
as they were.
-/

namespace Checkup

/-- A check that an archive is made for: its duration is a number that can be
written, and every issue of it is read back from its line. -/
structure Check.IsArchivable (check : Check) : Prop where
  duration : ∃ n, check.duration = .int n ∧ isWritable n = true
  issues : ∀ issue ∈ check.issues, issue.IsPlain ∧ ¬issue.HidesLine

/-- A check without what no archive keeps: the fixes and the raw output. -/
def Check.archived (check : Check) : Check :=
  { check with issues := check.issues.map Issue.withoutFix, rawOutput := none }

/-- A report without what no archive keeps. -/
def Report.archived (report : Report) : Report :=
  { report with checks := report.checks.map Check.archived }

/-- A report whose numbers can be written and whose checks are made for an archive. -/
structure Report.IsArchivable (report : Report) : Prop where
  duration : isWritable report.duration = true
  errors : isWritable report.totals.errors = true
  warnings : isWritable report.totals.warnings = true
  infos : isWritable report.totals.infos = true
  checks : ∀ check ∈ report.checks, check.IsArchivable

/-- A report whose numbers can be written, whatever its issues are. -/
structure Report.HasWritableNumbers (report : Report) : Prop where
  duration : isWritable report.duration = true
  errors : isWritable report.totals.errors = true
  warnings : isWritable report.totals.warnings = true
  infos : isWritable report.totals.infos = true
  durations : ∀ check ∈ report.checks, ∃ n, check.duration = .int n ∧ isWritable n = true

/-- The numbers of a report that is made for an archive can be written. -/
theorem Report.IsArchivable.hasWritableNumbers {report : Report} (h : report.IsArchivable) :
    report.HasWritableNumbers :=
  ⟨h.duration, h.errors, h.warnings, h.infos, fun check hc => (h.checks check hc).duration⟩

/-! ## What is left out -/

/-- Issues are counted alike with and without their fixes. -/
theorem Issue.count_map_withoutFix (severity : Severity) (issues : List Issue) :
    Issue.count severity (issues.map Issue.withoutFix) = Issue.count severity issues := by
  rw [Issue.count, List.countP_map]
  rfl

/-- The issues of archived checks are those of the checks without their fixes. -/
theorem Check.flatMap_issues_archived (checks : List Check) :
    (checks.map Check.archived).flatMap Check.issues =
      (checks.flatMap Check.issues).map Issue.withoutFix := by
  rw [List.flatMap_map, List.map_flatMap]
  rfl

/-- The totals over some checks do not depend on what no archive keeps. -/
theorem Totals.ofChecks_map_archived (checks : List Check) :
    Totals.ofChecks (checks.map Check.archived) = Totals.ofChecks checks := by
  simp only [Totals.ofChecks, Totals.ofIssues, Check.flatMap_issues_archived,
    Issue.count_map_withoutFix]

/-! ## Documents -/

namespace Archive

open Json (IsPlain)

/-- A mapping with different text keys and plain values is plain. -/
theorem isPlain_document {entries : List (String × Value)} (hd : (entries.map Prod.fst).Nodup)
    (h : ∀ entry ∈ entries, IsPlain entry.2) : IsPlain (document entries) := by
  refine .mapping _ ?_ ?_ ?_
  · intro entry he
    obtain ⟨⟨key, value⟩, -, rfl⟩ := List.mem_map.mp he
    exact ⟨key, rfl⟩
  · change ((entries.map fun entry => (Scalar.text entry.1, entry.2)).map Prod.fst).Nodup
    have hkeys : (entries.map fun entry => (Scalar.text entry.1, entry.2)).map Prod.fst =
        (entries.map Prod.fst).map Scalar.text := by
      rw [List.map_map, List.map_map]
      rfl
    rw [hkeys, List.Nodup, List.pairwise_map]
    exact hd.imp fun hne he => hne (Scalar.text.inj he)
  · intro entry he
    obtain ⟨⟨key, value⟩, hm, rfl⟩ := List.mem_map.mp he
    exact h _ hm

/-- The document of a check is plain if its duration can be written. -/
theorem isPlain_checkDocument {check : Check} (h : ∃ n, check.duration = .int n ∧ isWritable n = true) :
    IsPlain (checkDocument (ofCheck check)) := by
  obtain ⟨n, hn, hw⟩ := h
  refine isPlain_document (by simp) ?_
  simp only [List.forall_mem_cons, List.not_mem_nil, false_implies, implies_true, and_true]
  refine ⟨.text _, .text _, ?_, .list _ ?_, .text _⟩
  · rw [ofCheck, hn]
    exact .int n hw
  · intro item hi
    obtain ⟨issue, -, rfl⟩ := List.mem_map.mp hi
    exact .text _

/-- The document of a report is plain if its numbers can be written. -/
theorem isPlain_toDocument {report : Report} (h : report.HasWritableNumbers) :
    IsPlain (toDocument (ofReport report)) := by
  refine isPlain_document (by simp) ?_
  simp only [List.forall_mem_cons, List.not_mem_nil, false_implies, implies_true, and_true]
  refine ⟨.text _, .int _ h.duration, .list _ ?_, ?_, .text _⟩
  · intro item hi
    obtain ⟨archived, hm, rfl⟩ := List.mem_map.mp hi
    obtain ⟨check, hc, rfl⟩ := List.mem_map.mp hm
    exact isPlain_checkDocument (h.durations check hc)
  · refine isPlain_document (by simp) ?_
    simp only [List.forall_mem_cons, List.not_mem_nil, false_implies, implies_true, and_true]
    exact ⟨.int _ h.errors, .int _ h.warnings, .int _ h.infos⟩

/-! ## Reading back -/

/-- The name of a status stands for that status alone. -/
theorem ofName?_name_status (status : Status) : Status.ofName? status.name = some status := by
  cases status <;> rfl

/-- The letter of a grade stands for that grade alone. -/
theorem ofName?_name_grade (grade : Grade) : Grade.ofName? grade.name = some grade := by
  cases grade <;> rfl

/-- A check is read back from its part of the document. -/
theorem checkOf_checkDocument {check : Check} (h : check.IsArchivable) :
    checkOf (checkDocument (ofCheck check)) = .ok (ofCheck check.archived) := by
  have hs : member Status.ofName? "Status" (.text check.status.name) = .ok check.status := by
    simp only [member, Value.text?, Option.bind_eq_bind, Option.bind_some, ofName?_name_status]
  have hi : (check.issues.map fun issue : Issue => Value.text issue.encode).mapM issueOf =
      Except.ok (check.issues.map Issue.withoutFix) := by
    refine mapM_map_eq_pure fun issue hm => ?_
    obtain ⟨hplain, hhides⟩ := h.issues issue hm
    exact (Issue.decode_encode_iff hplain).mpr hhides
  change (do
    let status ← member Status.ofName? "Status" (.text check.status.name)
    let issues ← (check.issues.map fun issue : Issue => Value.text issue.encode).mapM issueOf
    .ok { ofCheck check with status, issues }) = _
  rw [hs, hi]
  rfl

/-- The archive of a report is read back from its document. -/
theorem ofDocument_toDocument {report : Report} (h : report.IsArchivable) :
    ofDocument (toDocument (ofReport report)) = .ok (ofReport report.archived) := by
  have hc : ((report.checks.map ofCheck).map checkDocument).mapM checkOf =
      Except.ok (report.checks.map (ofCheck ∘ Check.archived)) := by
    rw [List.map_map]
    exact mapM_map_eq_pure fun check hm => checkOf_checkDocument (h.checks check hm)
  have hg : member Grade.ofName? "Grade" (.text report.grade.name) = .ok report.grade := by
    simp only [member, Value.text?, Option.bind_eq_bind, Option.bind_some, ofName?_name_grade]
  change (do
    let checks ← ((report.checks.map ofCheck).map checkDocument).mapM checkOf
    let grade ← member Grade.ofName? "Grade" (.text report.grade.name)
    .ok { ofReport report with checks, grade }) = _
  rw [hc, hg]
  simp only [ofReport, Report.archived, List.map_map]
  rfl

/-- The archive of a report is read back from its text. -/
theorem read_write {report : Report} (h : report.IsArchivable) :
    read (ofReport report).write = .ok (ofReport report.archived) := by
  have hj := (isPlain_toDocument h.hasWritableNumbers).read_write
  unfold read write
  rw [String.toList_ofList, hj]
  exact ofDocument_toDocument h

/-- What an archive does not keep does not show in its text. -/
theorem write_ofReport_archived (report : Report) :
    (ofReport report.archived).write = (ofReport report).write := by
  have hc : ∀ check : Check, checkDocument (ofCheck check.archived) = checkDocument (ofCheck check) := by
    intro check
    simp only [checkDocument, ofCheck, Check.archived, List.map_map]
    rfl
  have hd : toDocument (ofReport report.archived) = toDocument (ofReport report) := by
    simp only [toDocument, ofReport, Report.archived, List.map_map, Function.comp_def, hc]
  rw [write, hd, write]

/-- A report is found again in its archive. -/
theorem toReport?_ofReport_archived (report : Report) :
    (ofReport report.archived).toReport? = some report.archived := by
  have hc : ((report.checks.map Check.archived).map ofCheck).mapM toCheck? =
      some ((report.checks.map Check.archived).map id) := by
    refine mapM_map_eq_pure fun check hm => ?_
    obtain ⟨kept, -, rfl⟩ := List.mem_map.mp hm
    rfl
  rw [List.map_id] at hc
  change (do
    let checks ← ((report.checks.map Check.archived).map ofCheck).mapM toCheck?
    some { report with checks }) = _
  rw [hc]
  rfl

/-- The report over some checks is made for an archive if they are, and if its
duration and the number of all issues can be written. -/
theorem isArchivable_ofChecks {checks : List Check} {duration : Int} {timestamp : String}
    (hc : ∀ check ∈ checks, check.IsArchivable) (hd : isWritable duration = true)
    (hn : isWritable (checks.flatMap Check.issues).length = true) :
    (Report.ofChecks checks duration timestamp).IsArchivable := by
  have hcount : ∀ severity,
      isWritable (Issue.count severity (checks.flatMap Check.issues) : Int) = true := by
    intro severity
    have hle := List.countP_le_length (p := fun issue : Issue => decide (issue.severity = severity))
      (l := checks.flatMap Check.issues)
    exact isWritable_natCast.mpr (Nat.lt_of_le_of_lt hle (isWritable_natCast.mp hn))
  refine ⟨?_, hcount .error, hcount .warning, hcount .info, hc⟩
  have hle : (max 0 duration).natAbs ≤ duration.natAbs := by omega
  exact decide_eq_true (Nat.lt_of_le_of_lt hle (of_decide_eq_true hd))

/-- The report over any checks comes back from its archive, all but the fixes and
the raw output. Its totals are again those of its checks, and it is written again
character for character. -/
theorem read_write_ofChecks {checks : List Check} {duration : Int} (timestamp : String)
    (hc : ∀ check ∈ checks, check.IsArchivable) (hd : isWritable duration = true)
    (hn : isWritable (checks.flatMap Check.issues).length = true) :
    let report := Report.ofChecks checks duration timestamp
    ∃ archive decoded, read (ofReport report).write = .ok archive ∧
      archive.toReport? = some decoded ∧ decoded = report.archived ∧
      decoded.totals = .ofChecks decoded.checks ∧
      archive.write = (ofReport report).write ∧ (ofReport decoded).write = (ofReport report).write := by
  intro report
  have hr : report.IsArchivable := isArchivable_ofChecks hc hd hn
  refine ⟨ofReport report.archived, report.archived, read_write hr, ?_, rfl, ?_, ?_, ?_⟩
  · exact toReport?_ofReport_archived report
  · exact (Totals.ofChecks_map_archived checks).symm
  · exact write_ofReport_archived report
  · exact write_ofReport_archived report

/-- A report whose texts need escapes, with a bar in a message, a colon in a file,
a fix and raw output, comes back as it is kept. -/
theorem read_write_ofChecks_escapes :
    let issue : Issue :=
      { severity := .error, message := .text "a|\"b\\", file := .text "src/a.ts:x", line := .int 3
        fix := .text "drop it" }
    let check : Check :=
      { name := "oxlint\n", status := .fail, duration := .int 7, issues := [issue]
        summary := "1 issue", rawOutput := some "raw" }
    let report := Report.ofChecks [check] (-5) "now"
    check.IsArchivable ∧ ∃ archive, read (ofReport report).write = .ok archive ∧
      archive.toReport? = some report.archived := by
  intro issue check report
  have hi : issue.IsPlain ∧ ¬issue.HidesLine := by
    refine ⟨⟨⟨_, rfl⟩, .inr ⟨_, rfl, by decide, by decide⟩,
      .inr ⟨3, rfl, by decide, isWritable_of_natAbs_lt_ten (by decide)⟩, .inl rfl⟩, ?_⟩
    rintro ⟨hline, -⟩
    cases hline
  have hc : check.IsArchivable :=
    ⟨⟨7, rfl, isWritable_of_natAbs_lt_ten (by decide)⟩, fun each he => List.mem_singleton.mp he ▸ hi⟩
  have hchecks : ∀ each ∈ [check], each.IsArchivable := fun each he => List.mem_singleton.mp he ▸ hc
  have hd : isWritable (-5) = true := isWritable_of_natAbs_lt_ten (by decide)
  have hn : isWritable ([check].flatMap Check.issues).length = true :=
    isWritable_of_natAbs_lt_ten (by decide)
  obtain ⟨archive, decoded, hread, hfound, rfl, -⟩ := read_write_ofChecks "now" hchecks hd hn
  exact ⟨hc, archive, hread, hfound⟩

end Archive

end Checkup
