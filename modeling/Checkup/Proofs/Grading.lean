import Checkup.Report

/-!
# Grades and what they follow from

A report counts the issues of all its checks together. So one finding more never
makes the grade better or the exit code lower, a remark changes neither of them, and
it does not matter in which order checks and issues stand or which check has which
issue.
-/

namespace Checkup

/-! ## Changes of checks -/

/-- Checks with something added, together with the issues that came with it. Only
issues are compared: whatever else a check says may change with them. -/
inductive Check.Gains : List Issue → List Check → List Check → Prop
  /-- One issue more, anywhere in any check. -/
  | issue {check other : Check} (before after : List Check) (front back : List Issue) (added : Issue)
      (hcheck : check.issues = front ++ back) (hother : other.issues = front ++ added :: back) :
      Gains [added] (before ++ check :: after) (before ++ other :: after)
  /-- One check more, anywhere. -/
  | check (before after : List Check) (added : Check) :
      Gains added.issues (before ++ after) (before ++ added :: after)

/-- The same issues in another order, or in other checks. -/
inductive Check.Rearranges : List Check → List Check → Prop
  /-- The checks change their places. -/
  | checks {first second : List Check} (h : first.Perm second) : Rearranges first second
  /-- The issues of one check change their places. -/
  | issues {check other : Check} (before after : List Check) (h : check.issues.Perm other.issues) :
      Rearranges (before ++ check :: after) (before ++ other :: after)
  /-- Some issues of two checks go from one to the other. -/
  | move {first second newFirst newSecond : Check} (before between after : List Check)
      (h : (first.issues ++ second.issues).Perm (newFirst.issues ++ newSecond.issues)) :
      Rearranges (before ++ first :: (between ++ second :: after))
        (before ++ newFirst :: (between ++ newSecond :: after))
  /-- One change after another. -/
  | trans {first second third : List Check} (hfirst : Rearranges first second)
      (hsecond : Rearranges second third) : Rearranges first third

/-- What was added stands among the issues, and all others are still there. -/
theorem Check.Gains.perm {gained : List Issue} {first second : List Check}
    (h : Check.Gains gained first second) :
    (second.flatMap Check.issues).Perm (gained ++ first.flatMap Check.issues) := by
  cases h with
  | @issue check other before after front back added hcheck hother =>
    have hfirst : (before ++ check :: after).flatMap Check.issues =
        (before.flatMap Check.issues ++ front) ++ (back ++ after.flatMap Check.issues) := by
      simp [hcheck]
    have hsecond : (before ++ other :: after).flatMap Check.issues =
        (before.flatMap Check.issues ++ front) ++ added :: (back ++ after.flatMap Check.issues) := by
      simp [hother]
    rw [hfirst, hsecond]
    exact List.perm_middle
  | check before after added =>
    rw [List.flatMap_append, List.flatMap_append, List.flatMap_cons, ← List.append_assoc,
      ← List.append_assoc]
    exact List.perm_append_comm.append_right _

/-- No issue is lost or made when checks are rearranged. -/
theorem Check.Rearranges.perm {first second : List Check} (h : Check.Rearranges first second) :
    (first.flatMap Check.issues).Perm (second.flatMap Check.issues) := by
  induction h with
  | checks h => exact h.flatMap_right Check.issues
  | issues before after h =>
    rw [List.flatMap_append, List.flatMap_append, List.flatMap_cons, List.flatMap_cons]
    exact (h.append_right _).append_left _
  | @move first second newFirst newSecond before between after h =>
    -- The issues between the two checks are put behind them, where the two meet.
    have hgather : ∀ one other : Check, ((before ++ one :: (between ++ other :: after)).flatMap
        Check.issues).Perm (before.flatMap Check.issues ++
          ((one.issues ++ other.issues) ++ (between.flatMap Check.issues ++ after.flatMap Check.issues))) := by
      intro one other
      simp only [List.flatMap_append, List.flatMap_cons, List.append_assoc]
      refine ((List.Perm.append_left _ ?_).append_left _)
      rw [← List.append_assoc, ← List.append_assoc]
      exact List.perm_append_comm.append_right _
    exact (hgather first second).trans
      (((h.append_right _).append_left _).trans (hgather newFirst newSecond).symm)
  | trans _ _ ihfirst ihsecond => exact ihfirst.trans ihsecond

/-! ## Totals, grades and exit codes -/

/-- More errors and more warnings give no better grade. -/
theorem Grade.rank_ofCounts_le {errors warnings moreErrors moreWarnings : Int} (he : errors ≤ moreErrors)
    (hw : warnings ≤ moreWarnings) (hpos : 0 ≤ errors) (hposw : 0 ≤ warnings) :
    (Grade.ofCounts errors warnings).rank ≤ (Grade.ofCounts moreErrors moreWarnings).rank := by
  unfold Grade.ofCounts
  repeat' split
  all_goals
    dsimp only [Grade.rank]
    omega

namespace Report

/-- A report with no more errors has no greater exit code. -/
theorem exitCode_le {report further : Report} (h : report.totals.errors ≤ further.totals.errors) :
    report.exitCode ≤ further.exitCode := by
  unfold exitCode
  split
  · next hpos => exact Nat.le_of_eq (if_pos (Nat.lt_of_lt_of_le hpos h)).symm
  · exact Nat.zero_le _

/-- The same number of errors gives the same exit code. -/
theorem exitCode_congr {report further : Report} (h : report.totals.errors = further.totals.errors) :
    report.exitCode = further.exitCode := by
  rw [exitCode, exitCode, h]

/-- As many errors and as many warnings give the same grade. -/
theorem grade_congr {first second : List Check}
    (he : (Totals.ofChecks first).errors = (Totals.ofChecks second).errors)
    (hw : (Totals.ofChecks first).warnings = (Totals.ofChecks second).warnings)
    (duration further : Int) (timestamp later : String) :
    (ofChecks first duration timestamp).grade = (ofChecks second further later).grade := by
  change Grade.ofCounts _ _ = Grade.ofCounts _ _
  rw [he, hw]

variable {first second : List Check} {gained : List Issue}

/-- Each severity is counted among the issues that were there and those that came. -/
theorem count_of_gains (h : Check.Gains gained first second) (severity : Severity) :
    Issue.count severity (second.flatMap Check.issues) =
      Issue.count severity gained + Issue.count severity (first.flatMap Check.issues) :=
  (h.perm.countP_eq _).trans List.countP_append

/-- The totals of rearranged checks are the same. -/
theorem totals_of_rearranges (h : Check.Rearranges first second) :
    Totals.ofChecks first = Totals.ofChecks second := by
  have hcount : ∀ severity, Issue.count severity (first.flatMap Check.issues) =
      Issue.count severity (second.flatMap Check.issues) := fun severity => h.perm.countP_eq _
  simp only [Totals.ofChecks, Totals.ofIssues, hcount]

/-- Remarks are neither errors nor warnings. -/
theorem count_of_infos {severity : Severity} (h : ∀ issue ∈ gained, issue.severity = .info)
    (hs : severity ≠ .info) : Issue.count severity gained = 0 :=
  List.countP_eq_zero.mpr fun issue hi => by
    rw [h issue hi]
    simpa using Ne.symm hs

/-- A finding more makes no grade better and no exit code lower, a remark more changes
neither, and no order of the checks and the issues matters to them or to the totals.
Nothing else about the reports has to be the same. -/
theorem grade_and_exitCode_of_issues (duration further : Int) (timestamp later : String) :
    (∀ gained first second, Check.Gains gained first second →
      (ofChecks first duration timestamp).grade.rank ≤ (ofChecks second further later).grade.rank ∧
        (ofChecks first duration timestamp).exitCode ≤ (ofChecks second further later).exitCode) ∧
    (∀ gained first second, Check.Gains gained first second → (∀ issue ∈ gained, issue.severity = .info) →
      (ofChecks first duration timestamp).grade = (ofChecks second further later).grade ∧
        (ofChecks first duration timestamp).exitCode = (ofChecks second further later).exitCode) ∧
    (∀ first second, Check.Rearranges first second →
      (ofChecks first duration timestamp).totals = (ofChecks second further later).totals ∧
        (ofChecks first duration timestamp).grade = (ofChecks second further later).grade ∧
          (ofChecks first duration timestamp).exitCode = (ofChecks second further later).exitCode) := by
  refine ⟨fun gained first second h => ?_, fun gained first second h hinfo => ?_, fun first second h => ?_⟩
  · have hle : ∀ severity, Issue.count severity (first.flatMap Check.issues) ≤
        Issue.count severity (second.flatMap Check.issues) := by
      intro severity
      rw [count_of_gains h]
      exact Nat.le_add_left _ _
    exact ⟨Grade.rank_ofCounts_le (Int.ofNat_le.mpr (hle .error)) (Int.ofNat_le.mpr (hle .warning))
      (Int.natCast_nonneg _) (Int.natCast_nonneg _), exitCode_le (hle .error)⟩
  · have heq : ∀ severity, severity ≠ .info → Issue.count severity (first.flatMap Check.issues) =
        Issue.count severity (second.flatMap Check.issues) := by
      intro severity hs
      rw [count_of_gains h, count_of_infos hinfo hs, Nat.zero_add]
    have herrors : (Totals.ofChecks first).errors = (Totals.ofChecks second).errors :=
      heq .error (by decide)
    have hwarnings : (Totals.ofChecks first).warnings = (Totals.ofChecks second).warnings :=
      heq .warning (by decide)
    exact ⟨grade_congr herrors hwarnings _ _ _ _, exitCode_congr herrors⟩
  · have htotals : Totals.ofChecks first = Totals.ofChecks second := totals_of_rearranges h
    have herrors := congrArg Totals.errors htotals
    have hwarnings := congrArg Totals.warnings htotals
    exact ⟨htotals, grade_congr herrors hwarnings _ _ _ _, exitCode_congr herrors⟩

/-- A warning takes the best grade away, a remark beside it changes nothing, and neither
does it matter which of two checks has the warning. -/
theorem grade_and_exitCode_of_issues_warning :
    let check := fun issues => Check.ofIssues "lint" issues 0 "" none
    let warning : Issue := { severity := .warning, message := .text "unused" }
    let remark : Issue := { severity := .info, message := .text "skipped" }
    (Check.Gains [warning] [check []] [check [warning]] ∧
      (ofChecks [check []] 0 "").grade.rank ≤ (ofChecks [check [warning]] 0 "").grade.rank ∧
        (ofChecks [check []] 0 "").grade ≠ (ofChecks [check [warning]] 0 "").grade) ∧
    (Check.Gains [remark] [check [warning]] [check [warning, remark]] ∧
      (ofChecks [check [warning]] 0 "").grade = (ofChecks [check [warning, remark]] 0 "").grade) ∧
    Check.Rearranges [check [warning], check [remark]] [check [remark, warning], check []] ∧
      (ofChecks [check [warning], check [remark]] 0 "").totals =
        (ofChecks [check [remark, warning], check []] 0 "").totals := by
  intro check warning remark
  have hwarning : Check.Gains [warning] [check []] [check [warning]] :=
    .issue [] [] [] [] warning rfl rfl
  have hremark : Check.Gains [remark] [check [warning]] [check [warning, remark]] :=
    .issue [] [] [warning] [] remark rfl rfl
  have hmoved : Check.Rearranges [check [warning], check [remark]] [check [remark, warning], check []] :=
    .move [] [] [] (List.Perm.swap remark warning [])
  have hinfo : ∀ issue ∈ [remark], issue.severity = .info := by simp [remark]
  obtain ⟨hgains, hinfos, hrearranges⟩ := grade_and_exitCode_of_issues 0 0 "" ""
  exact ⟨⟨hwarning, (hgains _ _ _ hwarning).1, by decide⟩, ⟨hremark, (hinfos _ _ _ hremark hinfo).1⟩, hmoved,
    (hrearranges _ _ hmoved).1⟩

end Report

end Checkup
