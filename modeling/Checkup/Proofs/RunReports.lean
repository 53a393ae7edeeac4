import Mathlib.Algebra.GroupWithZero.Nat
import Checkup.Proofs.Attempts
import Checkup.Run

/-!
# Reports of runs

A run reports on nine checks, whatever its tools answer. A check that fails on the
way stands in the report as a failed one, a check is left out only for the two
reasons that there are, and the totals, the grade and the exit code follow from
the issues of the checks. So a run with a refused tool call never ends well.
-/

namespace Checkup

namespace Workplace

variable (place : Workplace) (settings : Settings)

/-- The reasons to leave a check out: a quick run leaves out the slow ones, and
boundaries that nobody defined are not checked. -/
def LeavesOut (flags : RunFlags) (kind : CheckKind) : Prop :=
  (flags.quick = true ∧ kind.isSlow = true) ∨
    (kind = .architecture ∧ place.tree.hasFile (settings.below settings.architectureConfig) = false)

/-- A check as a report holds it: its issues decide its status, unless it is left
out and has nothing worse than remarks. -/
structure Admits (flags : RunFlags) (kind : CheckKind) (check : Check) : Prop where
  name : check.name = kind.name
  derived : check.status ≠ .skip → check.status = .ofIssues check.issues
  leftOut : check.status = .skip → place.LeavesOut settings flags kind
  harmless : check.status = .skip → ∀ issue ∈ check.issues, issue.severity = .info

end Workplace

/-- No issues give the status of a check that is left out. -/
theorem Status.ofIssues_ne_skip (issues : List Issue) : Status.ofIssues issues ≠ .skip := by
  unfold Status.ofIssues
  split
  · exact fun h => by cases h
  · split <;> exact fun h => by cases h

/-- Issues give a failed check exactly if one of them is an error. -/
theorem Status.ofIssues_eq_fail_iff (issues : List Issue) :
    Status.ofIssues issues = .fail ↔ ∃ issue ∈ issues, issue.severity = .error := by
  unfold Status.ofIssues
  by_cases h : issues.any fun issue => issue.severity = .error
  · rw [if_pos h]
    simpa using h
  · rw [if_neg h]
    have hnone : ¬∃ issue ∈ issues, issue.severity = .error := by simpa using h
    constructor
    · intro hs
      split at hs <;> cases hs
    · exact fun hs => absurd hs hnone

namespace Workplace

variable {place : Workplace} {settings : Settings} {flags : RunFlags} {kind : CheckKind}

/-- A check whose status follows from its issues is admitted under its name. -/
theorem admits_ofIssues {name : String} (h : name = kind.name) (issues : List Issue) (duration : Int)
    (summary : String) (rawOutput : Option String) :
    place.Admits settings flags kind (.ofIssues name issues duration summary rawOutput) where
  name := h
  derived _ := rfl
  leftOut hs := absurd hs (Status.ofIssues_ne_skip issues)
  harmless hs := absurd hs (Status.ofIssues_ne_skip issues)

/-- A check that is left out for a reason is admitted with remarks alone. -/
theorem admits_skipped {name : String} (h : name = kind.name)
    (hl : place.LeavesOut settings flags kind) {issues : List Issue}
    (hi : ∀ issue ∈ issues, issue.severity = .info) (reason : String) (duration : Value) :
    place.Admits settings flags kind (.skipped name reason issues duration) where
  name := h
  derived hs := absurd rfl hs
  leftOut _ := hl
  harmless _ := hi

/-- The check that some output gives is admitted under the name of its dialect. -/
theorem interpret_yields {Payload : Type} {dialect : Dialect Payload} (h : dialect.checkName = kind.name)
    (output : ToolOutput) : (place.interpret dialect output).Yields (place.Admits settings flags kind) := by
  refine .bind fun _ => .ofOutcome ?_
  exact .bind fun found => .ok (admits_ofIssues h found _ _ _)

/-- The check that a tool's answer gives is admitted under the name of the dialect. -/
theorem ask_yields {Payload : Type} {dialect : Dialect Payload} (h : dialect.checkName = kind.name)
    (announcement tool : String) (arguments : List String) :
    (place.ask announcement tool arguments dialect).Yields (place.Admits settings flags kind) :=
  .bind fun _ => .bind fun output => interpret_yields h output

/-- The search for duplicates gives an admitted check. -/
theorem findDuplicates_yields :
    (place.findDuplicates settings).Yields (place.Admits settings flags .jscpd) :=
  .bind fun _ => .bind fun _ => .bind fun _ => .bind fun _ => .bind fun _ => .bind fun _ => .bind fun _ =>
    .pure (admits_ofIssues rfl _ _ _ _)

/-- The look at dependencies gives an admitted check. -/
theorem lookAtDependencies_yields :
    (place.lookAtDependencies settings).Yields (place.Admits settings flags .madge) := by
  refine .bind fun _ => .bind fun _ => .bind fun _ => .bind fun _ => .bind fun _ => .ofOutcome ?_
  exact .bind fun _ => .bind fun _ => .ok (admits_ofIssues rfl _ _ _ _)

/-- The check of boundaries gives an admitted check, whether they are defined or not. -/
theorem checkBoundaries_yields :
    (place.checkBoundaries settings).Yields (place.Admits settings flags .architecture) := by
  unfold checkBoundaries
  split
  · exact ask_yields rfl _ _ _
  · next hfile =>
    refine .pure (admits_skipped rfl (.inr ⟨rfl, Bool.eq_false_iff.mpr hfile⟩) ?_ _ _)
    intro issue hi
    rw [List.mem_singleton.mp hi]
    rfl

/-- Whatever an attempt at a check gives is admitted under the name of the check. -/
theorem attempt_yields :
    (place.attempt settings flags kind).Yields (place.Admits settings flags kind) := by
  unfold attempt
  by_cases hq : (flags.quick && kind.isSlow) = true
  · rw [if_pos hq]
    have hslow : flags.quick = true ∧ kind.isSlow = true := by simpa using hq
    exact .pure (admits_skipped rfl (.inl hslow) (fun _ hi => by cases hi) _ _)
  · rw [if_neg hq]
    cases kind with
    | oxlint => exact ask_yields rfl _ _ _
    | eslint => exact ask_yields rfl _ _ _
    | knip => exact ask_yields rfl _ _ _
    | jscpd => exact findDuplicates_yields
    | madge => exact lookAtDependencies_yields
    | typeScript => exact ask_yields rfl _ _ _
    | complexity =>
      exact .bind fun _ => .bind fun _ => .bind fun _ => .bind fun _ => .pure (admits_ofIssues rfl _ _ _ _)
    | architecture => exact checkBoundaries_yields
    | folders => exact .bind fun _ => .bind fun _ => .bind fun _ => .pure (admits_ofIssues rfl _ _ _ _)

/-- A failed attempt stands in the run as a failed check that says why. -/
theorem examine_of_error {fault : Fault}
    (h : (place.attempt settings flags kind).result = .error fault) :
    (place.examine settings flags kind).check = .crashed kind.name place.elapsed fault := by
  unfold examine CheckRecord.ofAttempt
  rw [h]

/-- The check that an attempt gives stands in the run. -/
theorem examine_of_ok {check : Check} (h : (place.attempt settings flags kind).result = .ok check) :
    (place.examine settings flags kind).check = check := by
  unfold examine CheckRecord.ofAttempt
  rw [h]

/-- A check of a run has what its attempt yields, if failed checks have it as well. -/
theorem examine_of_yields {holds : Check → Prop}
    (h : (place.attempt settings flags kind).Yields holds)
    (hc : ∀ fault, holds (.crashed kind.name place.elapsed fault)) :
    holds (place.examine settings flags kind).check := by
  cases hr : (place.attempt settings flags kind).result with
  | ok check =>
    rw [examine_of_ok hr]
    exact h check hr
  | error fault =>
    rw [examine_of_error hr]
    exact hc fault

/-- Every check of a run is admitted, also one that failed on the way. -/
theorem admits_examine : place.Admits settings flags kind (place.examine settings flags kind).check :=
  examine_of_yields attempt_yields fun _ => admits_ofIssues rfl _ _ _ _

/-! ## Refused calls -/

/-- A tool that is asked is heard, also when it refuses. -/
theorem ask_surfaces {Payload : Type} (announcement tool : String) (arguments : List String)
    (dialect : Dialect Payload) :
    (place.ask announcement tool arguments dialect).Surfaces place.tools :=
  .bind (.of_calls rfl) fun _ => .bind (.call _ _) fun _ => .bind (.of_calls rfl) fun _ => .of_calls rfl

/-- The text of the statistics is read without any tool. -/
theorem statisticsText_surfaces : (place.statisticsText settings).Surfaces place.tools := by
  unfold statisticsText
  dsimp only
  split
  · exact .of_calls rfl
  · exact .bind (.of_calls rfl) fun _ => .of_calls rfl
  · exact .of_calls rfl

/-- The search for duplicates passes over no refusal. -/
theorem findDuplicates_surfaces : (place.findDuplicates settings).Surfaces place.tools :=
  .bind (.of_calls rfl) fun _ => .bind (.of_calls rfl) fun _ => .bind (.call _ _) fun _ =>
    .bind (.of_calls rfl) fun _ => .bind (.of_calls rfl) fun _ =>
      .bind statisticsText_surfaces fun _ => .bind (.of_calls rfl) fun _ => .of_calls rfl

/-- The look at dependencies passes over no refusal of its two calls. -/
theorem lookAtDependencies_surfaces : (place.lookAtDependencies settings).Surfaces place.tools :=
  .bind (.of_calls rfl) fun _ => .bind (.call _ _) fun _ => .bind (.call _ _) fun _ =>
    .bind (.of_calls rfl) fun _ => .bind (.of_calls rfl) fun _ => .of_calls rfl

/-- The check of boundaries passes over no refusal. -/
theorem checkBoundaries_surfaces : (place.checkBoundaries settings).Surfaces place.tools := by
  unfold checkBoundaries
  split
  · exact ask_surfaces _ _ _ _
  · exact .of_calls rfl

/-- No attempt at a check passes over a refusal. -/
theorem attempt_surfaces : (place.attempt settings flags kind).Surfaces place.tools := by
  unfold attempt
  by_cases hq : (flags.quick && kind.isSlow) = true
  · rw [if_pos hq]
    exact .of_calls rfl
  · rw [if_neg hq]
    cases kind with
    | oxlint => exact ask_surfaces _ _ _ _
    | eslint => exact ask_surfaces _ _ _ _
    | knip => exact ask_surfaces _ _ _ _
    | jscpd => exact findDuplicates_surfaces
    | madge => exact lookAtDependencies_surfaces
    | typeScript => exact ask_surfaces _ _ _ _
    | complexity =>
      exact .bind (.of_calls rfl) fun _ => .bind (.of_calls rfl) fun _ => .bind (.of_calls rfl) fun _ =>
        .bind (.of_calls rfl) fun _ => .of_calls rfl
    | architecture => exact checkBoundaries_surfaces
    | folders =>
      exact .bind (.of_calls rfl) fun _ => .bind (.of_calls rfl) fun _ => .bind (.of_calls rfl) fun _ =>
        .of_calls rfl

/-- The calls of an attempt are kept, however it ended. -/
theorem calls_examine :
    (place.examine settings flags kind).calls = (place.attempt settings flags kind).calls := by
  unfold examine CheckRecord.ofAttempt
  split <;> rfl

/-- The checks of a run are those of the nine kinds, in their order. -/
theorem checks_run (timestamp : String) :
    (place.run settings flags timestamp).report.checks =
      CheckKind.all.map fun kind => (place.examine settings flags kind).check := by
  change (CheckKind.all.map (place.examine settings flags)).map CheckRecord.check = _
  rw [List.map_map]
  rfl

/-- The calls of a run are those of its checks. -/
theorem calls_run (timestamp : String) :
    (place.run settings flags timestamp).calls =
      CheckKind.all.flatMap fun kind => (place.attempt settings flags kind).calls := by
  change (CheckKind.all.map (place.examine settings flags)).flatMap CheckRecord.calls = _
  rw [List.flatMap_map]
  exact congrArg (List.flatMap · CheckKind.all) (funext fun kind => calls_examine)

/-- No kind of check is missing. -/
theorem mem_all (kind : CheckKind) : kind ∈ CheckKind.all := by
  cases kind <;> decide

/-- Every check of a run is one of some kind, and admitted as such. -/
theorem exists_admits {timestamp : String} {check : Check}
    (h : check ∈ (place.run settings flags timestamp).report.checks) :
    ∃ kind, place.Admits settings flags kind check := by
  rw [checks_run] at h
  obtain ⟨kind, -, rfl⟩ := List.mem_map.mp h
  exact ⟨kind, admits_examine⟩

/-- An admitted check failed exactly if one of its issues is an error. -/
theorem Admits.status_eq_fail_iff {check : Check} (h : place.Admits settings flags kind check) :
    check.status = .fail ↔ ∃ issue ∈ check.issues, issue.severity = .error := by
  by_cases hs : check.status = .skip
  · constructor
    · intro hf
      rw [hs] at hf
      cases hf
    · rintro ⟨issue, hi, he⟩
      have hinfo := h.harmless hs issue hi
      rw [hinfo] at he
      cases he
  · rw [h.derived hs]
    exact Status.ofIssues_eq_fail_iff check.issues

end Workplace

/-! ## Reports -/

/-- The number of issues of one severity over some checks is the sum over the checks. -/
theorem Issue.count_flatMap_issues (severity : Severity) (checks : List Check) :
    Issue.count severity (checks.flatMap Check.issues) = (checks.map (·.count severity)).sum := by
  induction checks with
  | nil => rfl
  | cons check checks ih =>
    rw [List.flatMap_cons, Issue.count, List.countP_append, List.map_cons, List.sum_cons, ← ih]
    rfl

/-- The exit code of a report is one exactly if some issue of some check is an error. -/
theorem Report.exitCode_ofChecks_eq_one_iff (checks : List Check) (duration : Int) (timestamp : String) :
    (Report.ofChecks checks duration timestamp).exitCode = 1 ↔
      ∃ check ∈ checks, ∃ issue ∈ check.issues, issue.severity = .error := by
  have hpos : 0 < Issue.count .error (checks.flatMap Check.issues) ↔
      ∃ check ∈ checks, ∃ issue ∈ check.issues, issue.severity = .error := by
    rw [Issue.count, List.countP_pos_iff]
    simp only [List.mem_flatMap, decide_eq_true_eq]
    constructor
    · rintro ⟨issue, ⟨check, hc, hi⟩, he⟩
      exact ⟨check, hc, issue, hi, he⟩
    · rintro ⟨check, hc, issue, hi, he⟩
      exact ⟨issue, ⟨check, hc, hi⟩, he⟩
  rw [← hpos]
  change (if 0 < Issue.count .error (checks.flatMap Check.issues) then 1 else 0) = 1 ↔ _
  by_cases h : 0 < Issue.count .error (checks.flatMap Check.issues)
  · rw [if_pos h]
    exact ⟨fun _ => h, fun _ => rfl⟩
  · rw [if_neg h]
    exact ⟨fun hz => absurd hz Nat.zero_ne_one, fun hp => absurd hp h⟩

/-- A run whose report is well formed, however its tools answered. -/
structure Run.IsSound (place : Workplace) (settings : Settings) (flags : RunFlags) (run : Run) : Prop where
  /-- There are nine checks with fixed names in a fixed order. -/
  names : run.report.checks.map Check.name =
    ["Linting (oxlint)", "Import & Complexity (ESLint)", "Dead Code (knip)", "Duplicate Code (jscpd)",
      "Dependency Graph (madge)", "TypeScript Types", "Complexity Analysis", "Architecture Boundaries",
      "Structure Analysis"]
  /-- A check is left out only by a quick run, or if nobody defined boundaries. -/
  skipped : ∀ check ∈ run.report.checks, check.status = .skip →
    (flags.quick = true ∧ check.name ∈
        ["Duplicate Code (jscpd)", "Dependency Graph (madge)", "Architecture Boundaries"]) ∨
      (check.name = "Architecture Boundaries" ∧
        place.tree.hasFile (settings.below settings.architectureConfig) = false)
  /-- A check that is left out has no errors and no warnings. -/
  harmless : ∀ check ∈ run.report.checks, check.status = .skip →
    check.count .error = 0 ∧ check.count .warning = 0
  /-- The status of any other check follows from its issues. -/
  derived : ∀ check ∈ run.report.checks, check.status ≠ .skip →
    check.status = .ofIssues check.issues
  /-- The totals are the sums over the checks. -/
  totals : run.report.totals.errors = (run.report.checks.map (·.count .error)).sum ∧
    run.report.totals.warnings = (run.report.checks.map (·.count .warning)).sum ∧
      run.report.totals.infos = (run.report.checks.map (·.count .info)).sum
  /-- The grade is that of the totals. -/
  grade : run.report.grade = .ofCounts run.report.totals.errors run.report.totals.warnings
  /-- The exit code is one exactly if some check failed. -/
  exitCode : run.report.exitCode = 1 ↔ ∃ check ∈ run.report.checks, check.status = .fail
  /-- A check that fails on the way stands in the report as a failed one that says why. -/
  caught : ∀ kind fault, (place.attempt settings flags kind).result = .error fault →
    .crashed kind.name place.elapsed fault ∈ run.report.checks ∧
      (Check.crashed kind.name place.elapsed fault).status = .fail
  /-- No run with a refused tool call ends well. -/
  refused : ∀ call ∈ run.calls, ∀ fault, place.tools call = .error fault → run.report.exitCode = 1

namespace Workplace

variable {place : Workplace} {settings : Settings} {flags : RunFlags}

/-- The slow kinds of checks by their names. -/
theorem name_mem_of_isSlow {kind : CheckKind} (h : kind.isSlow = true) :
    kind.name ∈ ["Duplicate Code (jscpd)", "Dependency Graph (madge)", "Architecture Boundaries"] := by
  cases kind with
  | jscpd => decide
  | madge => decide
  | architecture => decide
  | oxlint | eslint | knip | typeScript | complexity | folders => cases h

/-- The exit code of a run is one exactly if some check failed. -/
theorem exitCode_run_eq_one_iff (timestamp : String) :
    (place.run settings flags timestamp).report.exitCode = 1 ↔
      ∃ check ∈ (place.run settings flags timestamp).report.checks, check.status = .fail := by
  have hfail : ∀ check ∈ (place.run settings flags timestamp).report.checks,
      (check.status = .fail ↔ ∃ issue ∈ check.issues, issue.severity = .error) := by
    intro check hc
    obtain ⟨kind, hadmits⟩ := exists_admits hc
    exact hadmits.status_eq_fail_iff
  refine (Report.exitCode_ofChecks_eq_one_iff _ _ _).trans ?_
  constructor
  · rintro ⟨check, hc, hi⟩
    exact ⟨check, hc, (hfail check hc).mpr hi⟩
  · rintro ⟨check, hc, hs⟩
    exact ⟨check, hc, (hfail check hc).mp hs⟩

/-- A failed attempt gives its run a failed check. -/
theorem crashed_mem_checks {kind : CheckKind} {fault : Fault} (timestamp : String)
    (h : (place.attempt settings flags kind).result = .error fault) :
    .crashed kind.name place.elapsed fault ∈ (place.run settings flags timestamp).report.checks := by
  rw [checks_run, ← examine_of_error h]
  exact List.mem_map.mpr ⟨kind, mem_all kind, rfl⟩

/-- Every run ends with a well-formed report, whatever the settings, the flags and
the tree are and however the tools answer. -/
theorem isSound_run (place : Workplace) (settings : Settings) (flags : RunFlags) (timestamp : String) :
    (place.run settings flags timestamp).IsSound place settings flags where
  names := by
    rw [checks_run, List.map_map]
    have hname : ∀ kind, (place.examine settings flags kind).check.name = kind.name :=
      fun kind => admits_examine.name
    have hnames : (Check.name ∘ fun kind => (place.examine settings flags kind).check) = CheckKind.name :=
      funext hname
    rw [hnames]
    rfl
  skipped check hc hs := by
    obtain ⟨kind, hadmits⟩ := exists_admits hc
    rw [hadmits.name]
    rcases hadmits.leftOut hs with ⟨hquick, hslow⟩ | ⟨rfl, hfile⟩
    · exact .inl ⟨hquick, name_mem_of_isSlow hslow⟩
    · exact .inr ⟨rfl, hfile⟩
  harmless check hc hs := by
    obtain ⟨kind, hadmits⟩ := exists_admits hc
    have hinfo := hadmits.harmless hs
    constructor
    · exact List.countP_eq_zero.mpr fun issue hi => by simp [hinfo issue hi]
    · exact List.countP_eq_zero.mpr fun issue hi => by simp [hinfo issue hi]
  derived check hc hs := by
    obtain ⟨kind, hadmits⟩ := exists_admits hc
    exact hadmits.derived hs
  totals := ⟨Issue.count_flatMap_issues .error _, Issue.count_flatMap_issues .warning _,
    Issue.count_flatMap_issues .info _⟩
  grade := rfl
  exitCode := exitCode_run_eq_one_iff timestamp
  caught kind fault h := ⟨crashed_mem_checks timestamp h, rfl⟩
  refused call hc fault hf := by
    rw [calls_run] at hc
    obtain ⟨kind, -, hcall⟩ := List.mem_flatMap.mp hc
    have herror := attempt_surfaces call hcall fault hf
    exact (exitCode_run_eq_one_iff timestamp).mpr ⟨_, crashed_mem_checks timestamp herror, rfl⟩

end Workplace

end Checkup
