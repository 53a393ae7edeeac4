import Checkup.Proofs.LinterRules
import Checkup.Proofs.RunReports

/-!
# The issues of runs

Every check of a run has a duration that the clock measured, and texts for the
messages of its issues. All its rules are texts as well, unless one of the two
linters sent a document that names another one.
-/

namespace Checkup

/-- A check that a report can show: its duration is no longer than what the clock
measured, and its messages are texts. -/
structure Check.IsPresentable (elapsed : Int) (check : Check) : Prop where
  duration : ∃ n, check.duration = .int n ∧ n.natAbs ≤ elapsed.natAbs
  messages : AllSpoken check.issues

/-- A check that a report can show, and whose rules are texts. -/
structure Check.IsTidy (elapsed : Int) (check : Check) : Prop where
  presentable : check.IsPresentable elapsed
  orderly : AllOrderly check.issues

/-- A check whose status follows from its issues has a duration that was measured. -/
theorem Check.isPresentable_ofIssues {issues : List Issue} (h : AllSpoken issues) (name : String)
    (elapsed : Int) (summary : String) (rawOutput : Option String) :
    (Check.ofIssues name issues elapsed summary rawOutput).IsPresentable elapsed where
  duration := ⟨max 0 elapsed, rfl, by omega⟩
  messages := h

/-- A check over orderly issues is tidy. -/
theorem Check.isTidy_ofIssues {issues : List Issue} (h : AllOrderly issues) (name : String)
    (elapsed : Int) (summary : String) (rawOutput : Option String) :
    (Check.ofIssues name issues elapsed summary rawOutput).IsTidy elapsed where
  presentable := isPresentable_ofIssues h.allSpoken name elapsed summary rawOutput
  orderly := h

/-- A check that failed on the way is tidy. -/
theorem Check.isTidy_crashed (name : String) (elapsed : Int) (fault : Fault) :
    (Check.crashed name elapsed fault).IsTidy elapsed :=
  isTidy_ofIssues (.singleton (.ofTexts rfl rfl)) name elapsed _ none

/-- A check that asks a linter, whose documents name rules. -/
def CheckKind.isLinter : CheckKind → Bool
  | oxlint | eslint => true
  | _ => false

namespace Workplace

variable {place : Workplace} {settings : Settings} {flags : RunFlags}

/-- What an answer gives depends on the issues that the dialect finds in it. -/
theorem ask_yields_of_issues {Payload : Type} {dialect : Dialect Payload} {holds : List Issue → Prop}
    {shows : Check → Prop}
    (hissues : ∀ stdout stderr, Gives (dialect.issues stdout stderr) holds)
    (hshows : ∀ issues name summary rawOutput, holds issues →
      shows (.ofIssues name issues place.elapsed summary rawOutput))
    (announcement tool : String) (arguments : List String) :
    (place.ask announcement tool arguments dialect).Yields shows := by
  refine .bind fun _ => .bind fun output => .bind fun _ => .ofOutcome ?_
  exact .bind_of (hissues output.stdout output.stderr) fun found hfound =>
    .ok (hshows found _ _ _ hfound)

/-- An answer that gives orderly issues gives a tidy check. -/
theorem ask_tidy {Payload : Type} {dialect : Dialect Payload}
    (h : ∀ stdout stderr, Gives (dialect.issues stdout stderr) AllOrderly) (announcement tool : String)
    (arguments : List String) :
    (place.ask announcement tool arguments dialect).Yields (Check.IsTidy place.elapsed) :=
  ask_yields_of_issues h (fun _ _ _ _ hi => Check.isTidy_ofIssues hi _ _ _ _) _ _ _

/-- An answer that gives texts for messages gives a check that can be shown. -/
theorem ask_presentable {Payload : Type} {dialect : Dialect Payload}
    (h : ∀ stdout stderr, Gives (dialect.issues stdout stderr) AllSpoken) (announcement tool : String)
    (arguments : List String) :
    (place.ask announcement tool arguments dialect).Yields (Check.IsPresentable place.elapsed) :=
  ask_yields_of_issues h (fun _ _ _ _ hi => Check.isPresentable_ofIssues hi _ _ _ _) _ _ _

/-- The search for duplicates gives a tidy check. -/
theorem findDuplicates_tidy : (place.findDuplicates settings).Yields (Check.IsTidy place.elapsed) := by
  refine .bind fun _ => .bind fun _ => .bind fun _ => .bind fun _ => ?_
  refine .bind_of (.ofOutcome (Jscpd.issues_orderly _ _ _)) fun found hfound => ?_
  refine .bind fun text => ?_
  refine .bind_of (.ofOutcome (Jscpd.statisticsIssues_orderly text)) fun further hfurther => ?_
  exact .pure (Check.isTidy_ofIssues (hfound.append hfurther) _ _ _ _)

/-- The look at dependencies gives a tidy check. -/
theorem lookAtDependencies_tidy :
    (place.lookAtDependencies settings).Yields (Check.IsTidy place.elapsed) := by
  refine .bind fun _ => .bind fun _ => .bind fun _ => .bind fun _ => .bind fun _ => .ofOutcome ?_
  refine .bind_of (Madge.orphans_orderly _ _ _ _) fun orphans horphans => ?_
  refine .bind_of (Madge.circular_orderly _ _) fun circular hcircular => ?_
  exact .ok (Check.isTidy_ofIssues (horphans.append hcircular) _ _ _ _)

/-- The check of boundaries gives a tidy check. -/
theorem checkBoundaries_tidy : (place.checkBoundaries settings).Yields (Check.IsTidy place.elapsed) := by
  unfold checkBoundaries
  split
  · exact ask_tidy (Architecture.issues_orderly _) _ _ _
  · have horderly : AllOrderly [noBoundariesIssue settings] := .singleton (.ofMessage rfl rfl)
    exact .pure ⟨⟨⟨place.elapsed, rfl, Nat.le_refl _⟩, horderly.allSpoken⟩, horderly⟩

/-- A check of source files is tidy. -/
theorem measureSource_tidy : (place.measureSource settings).Yields (Check.IsTidy place.elapsed) := by
  refine .bind fun _ => .bind fun _ => .bind fun _ => .bind fun _ => ?_
  exact .pure (Check.isTidy_ofIssues (.flatMap Source.Profile.issues_orderly _) _ _ _ _)

/-- A check of folders is tidy. -/
theorem measureFolders_tidy : (place.measureFolders settings).Yields (Check.IsTidy place.elapsed) := by
  refine .bind fun _ => .bind fun folders => .bind fun _ => ?_
  have hfolders := AllOrderly.flatMap Folder.issues_orderly folders
  have hfeatures := Folder.featureIssues_orderly place.tree settings.rootPath settings.sourcePath
  exact .pure (Check.isTidy_ofIssues (hfolders.append hfeatures) _ _ _ _)

/-- A check that a quick run leaves out is tidy. -/
theorem isTidy_skipped (name : String) (elapsed : Int) :
    (Check.skipped name quickReason [] (.int 0)).IsTidy elapsed :=
  ⟨⟨⟨0, rfl, Nat.zero_le _⟩, AllOrderly.nil.allSpoken⟩, .nil⟩

/-- Every attempt at a check that asks no linter gives a tidy check. -/
theorem attempt_tidy {kind : CheckKind} (h : kind.isLinter = false) :
    (place.attempt settings flags kind).Yields (Check.IsTidy place.elapsed) := by
  unfold attempt
  by_cases hq : (flags.quick && kind.isSlow) = true
  · rw [if_pos hq]
    exact .pure (isTidy_skipped _ _)
  · rw [if_neg hq]
    cases kind with
    | oxlint => cases h
    | eslint => cases h
    | knip => exact ask_tidy (Knip.issues_orderly _) _ _ _
    | jscpd => exact findDuplicates_tidy
    | madge => exact lookAtDependencies_tidy
    | typeScript => exact ask_tidy (TypeScript.issues_orderly _) _ _ _
    | complexity => exact measureSource_tidy
    | architecture => exact checkBoundaries_tidy
    | folders => exact measureFolders_tidy

/-- Every check that asks no linter is tidy. -/
theorem examine_tidy {kind : CheckKind} (h : kind.isLinter = false) :
    (place.examine settings flags kind).check.IsTidy place.elapsed :=
  examine_of_yields (attempt_tidy h) fun fault => Check.isTidy_crashed _ _ fault

/-! ## Linters -/

/-- No run leaves out the fast linter. -/
theorem attempt_oxlint :
    place.attempt settings flags .oxlint =
      place.ask "Running oxlint..." "oxlint" (oxlintArguments flags.fix)
        (Oxlint.dialect (place.rootText settings)) := by
  unfold attempt
  rw [if_neg (by simp [CheckKind.isSlow])]

/-- No run leaves out the linter of modules. -/
theorem attempt_eslint :
    place.attempt settings flags .eslint =
      place.ask "Running ESLint (import/complexity rules)..." "eslint" eslintArguments
        (Eslint.dialect (place.rootText settings)) := by
  unfold attempt
  rw [if_neg (by simp [CheckKind.isSlow])]

/-- Every check of a run can be shown. -/
theorem examine_presentable (kind : CheckKind) :
    (place.examine settings flags kind).check.IsPresentable place.elapsed := by
  have hcrashed : ∀ fault, (Check.crashed kind.name place.elapsed fault).IsPresentable place.elapsed :=
    fun fault => (Check.isTidy_crashed _ _ fault).presentable
  by_cases hl : kind.isLinter = true
  · refine examine_of_yields ?_ hcrashed
    cases kind with
    | oxlint =>
      rw [attempt_oxlint]
      exact ask_presentable (Oxlint.issues_spoken _) _ _ _
    | eslint =>
      rw [attempt_eslint]
      exact ask_presentable (Eslint.issues_spoken _) _ _ _
    | knip | jscpd | madge | typeScript | complexity | architecture | folders => cases hl
  · exact (examine_tidy (Bool.eq_false_iff.mpr hl)).presentable

/-- What an attempt that asks a tool gives is the check over the issues of its answer. -/
theorem result_ask {Payload : Type} (announcement tool : String) (arguments : List String)
    (dialect : Dialect Payload) :
    (place.ask announcement tool arguments dialect).result =
      (place.tools ⟨tool, arguments⟩ >>= fun output =>
        dialect.check output.stdout output.stderr place.elapsed) := by
  change (Attempt.call place.tools tool arguments >>= fun output =>
    place.interpret dialect output).result = _
  rw [Attempt.result_bind]
  rfl

/-- A check that asks a tool has an odd rule exactly if the issues of the answer have one. -/
theorem exists_isOdd_of_ask {Payload : Type} {kind : CheckKind} {announcement tool : String}
    {arguments : List String} {dialect : Dialect Payload}
    (h : place.attempt settings flags kind = place.ask announcement tool arguments dialect) :
    (∃ issue ∈ (place.examine settings flags kind).check.issues, issue.rule.IsOdd) ↔
      ∃ output, place.tools ⟨tool, arguments⟩ = .ok output ∧
        ∃ issues, dialect.issues output.stdout output.stderr = .ok issues ∧
          ∃ issue ∈ issues, issue.rule.IsOdd := by
  have hresult := congrArg Attempt.result h
  rw [result_ask] at hresult
  constructor
  · intro hodd
    cases hr : (place.attempt settings flags kind).result with
    | error fault =>
      rw [examine_of_error hr] at hodd
      exact absurd hodd (Check.isTidy_crashed _ _ fault).orderly.not_isOdd
    | ok check =>
      rw [examine_of_ok hr] at hodd
      rw [hr] at hresult
      obtain ⟨output, hout, hcheck⟩ := bind_eq_ok_iff.mp hresult.symm
      obtain ⟨issues, hissues, hmade⟩ := bind_eq_ok_iff.mp hcheck
      cases hmade
      exact ⟨output, hout, issues, hissues, hodd⟩
  · rintro ⟨output, hout, issues, hissues, hodd⟩
    have hcheck : dialect.check output.stdout output.stderr place.elapsed =
        .ok (.ofIssues dialect.checkName issues place.elapsed (dialect.summary issues)
          (some (output.stdout ++ output.stderr))) :=
      bind_eq_ok_iff.mpr ⟨issues, hissues, rfl⟩
    rw [examine_of_ok (hresult.trans (bind_eq_ok_iff.mpr ⟨output, hout, hcheck⟩))]
    exact hodd

variable (place settings flags)

/-- A linter answers with a document that is read and that names an odd rule. -/
def HearsOddRule : Prop :=
  (∃ output, place.tools ⟨"oxlint", oxlintArguments flags.fix⟩ = .ok output ∧
      Oxlint.SendsOddRule (place.rootText settings) output.stdout output.stderr) ∨
    ∃ output, place.tools ⟨"eslint", eslintArguments⟩ = .ok output ∧
      Eslint.SendsOddRule (place.rootText settings) output.stdout output.stderr

variable {place settings flags}

/-- An odd rule in the check of the fast linter is one that it sent. -/
theorem exists_isOdd_oxlint :
    (∃ issue ∈ (place.examine settings flags .oxlint).check.issues, issue.rule.IsOdd) ↔
      ∃ output, place.tools ⟨"oxlint", oxlintArguments flags.fix⟩ = .ok output ∧
        Oxlint.SendsOddRule (place.rootText settings) output.stdout output.stderr := by
  rw [exists_isOdd_of_ask attempt_oxlint]
  simp only [Oxlint.exists_isOdd_iff]

/-- An odd rule in the check of the linter of modules is one that it sent. -/
theorem exists_isOdd_eslint :
    (∃ issue ∈ (place.examine settings flags .eslint).check.issues, issue.rule.IsOdd) ↔
      ∃ output, place.tools ⟨"eslint", eslintArguments⟩ = .ok output ∧
        Eslint.SendsOddRule (place.rootText settings) output.stdout output.stderr := by
  rw [exists_isOdd_of_ask attempt_eslint]
  simp only [Eslint.exists_isOdd_iff]

/-- An odd rule in the report of a run is one that a linter sent. -/
theorem exists_isOdd_run_iff (timestamp : String) :
    (∃ issue ∈ (place.run settings flags timestamp).report.checks.flatMap Check.issues,
        issue.rule.IsOdd) ↔
      place.HearsOddRule settings flags := by
  unfold HearsOddRule
  rw [← exists_isOdd_oxlint, ← exists_isOdd_eslint, checks_run]
  constructor
  · rintro ⟨issue, hi, hodd⟩
    obtain ⟨check, hc, hissue⟩ := List.mem_flatMap.mp hi
    obtain ⟨kind, -, rfl⟩ := List.mem_map.mp hc
    cases kind with
    | oxlint => exact .inl ⟨issue, hissue, hodd⟩
    | eslint => exact .inr ⟨issue, hissue, hodd⟩
    | knip | jscpd | madge | typeScript | complexity | architecture | folders =>
      exact absurd hodd ((examine_tidy rfl).orderly issue hissue).rule
  · have hmem : ∀ kind, ∀ issue ∈ (place.examine settings flags kind).check.issues,
        issue ∈ (CheckKind.all.map fun kind => (place.examine settings flags kind).check).flatMap
          Check.issues :=
      fun kind issue hi => List.mem_flatMap.mpr ⟨_, List.mem_map.mpr ⟨kind, mem_all kind, rfl⟩, hi⟩
    rintro (⟨issue, hi, hodd⟩ | ⟨issue, hi, hodd⟩)
    · exact ⟨issue, hmem .oxlint issue hi, hodd⟩
    · exact ⟨issue, hmem .eslint issue hi, hodd⟩

end Workplace

end Checkup
