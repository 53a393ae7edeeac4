import Checkup.Proofs.ReportedIssues
import Checkup.Proofs.RunReports
import Mathlib.Data.List.Nodup
import Mathlib.Data.List.Forall2

/-!
# What is said about sources

Each rule about a file says how bad it finds the file, by thresholds on what was measured.
The issues of a file are what the rules say, rule by rule, and no two rules share a name;
so the status of the check and the numbers in its summary follow from the paths and the
texts alone.
-/

namespace Checkup

/-- The rule of an issue, if it is a text. -/
def Issue.ruleText? (issue : Issue) : Option String :=
  match issue.rule with
  | .text rule => some rule
  | _ => none

/-- An issue has a rule if that is the text of its rule. -/
theorem Issue.hasRule_eq_decide (rule : String) (issue : Issue) :
    issue.hasRule rule = decide (issue.ruleText? = some rule) := by
  unfold hasRule ruleText?
  cases issue.rule with
  | scalar value => cases value <;> simp
  | list items => simp
  | mapping entries => simp

/-- Issues give a check with warnings exactly if one of them is a warning, and none an error. -/
theorem Status.ofIssues_eq_warn_iff (issues : List Issue) :
    Status.ofIssues issues = .warn ↔
      (¬ ∃ issue ∈ issues, issue.severity = .error) ∧ ∃ issue ∈ issues, issue.severity = .warning := by
  rw [← ofIssues_eq_fail_iff]
  unfold ofIssues
  split
  · simp
  · split <;> simp_all

/-- Issues let a check pass exactly if none of them is an error or a warning. -/
theorem Status.ofIssues_eq_pass_iff (issues : List Issue) :
    Status.ofIssues issues = .pass ↔
      (¬ ∃ issue ∈ issues, issue.severity = .error) ∧ ¬ ∃ issue ∈ issues, issue.severity = .warning := by
  rw [← ofIssues_eq_fail_iff]
  unfold ofIssues
  split
  · simp
  · split <;> simp_all

namespace Source

open Checkup.Text

/-! ## The rules -/

/-- The rule about long functions, the only one that may say several things about a file. -/
def longFunctionRule : String := "complexity/long-function"

/-- The rule about a pattern. -/
def Pattern.rule : Pattern → String
  | inlineErrorBoundary => "pattern/inline-error-boundary"
  | multipleComponents => "pattern/multiple-components"
  | deepNesting => "pattern/deep-jsx-nesting"
  | mixedConcerns => "pattern/mixed-concerns"

/-- How bad a pattern is. -/
def Pattern.severity : Pattern → Severity
  | inlineErrorBoundary => .warning
  | multipleComponents | deepNesting | mixedConcerns => .info

/-- One severity under a condition. -/
def severityIf (condition : Prop) [Decidable condition] (severity : Severity) : List Severity :=
  if condition then [severity] else []

/-- At most one severity stands under a condition. -/
theorem length_severityIf_le (condition : Prop) [Decidable condition] (severity : Severity) :
    (severityIf condition severity).length ≤ 1 := by
  unfold severityIf
  split <;> simp

/-- A severity stands where its condition holds. -/
@[simp]
theorem mem_severityIf {condition : Prop} [Decidable condition] {severity found : Severity} :
    found ∈ severityIf condition severity ↔ condition ∧ found = severity := by
  unfold severityIf
  split <;> simp_all

/-- An error from one bound on, and from a lower one on a warning. -/
def graded (lower upper number : Nat) : List Severity :=
  if upper ≤ number then [.error] else severityIf (lower ≤ number) .warning

/-- Between two bounds there is one severity at most. -/
theorem length_graded_le (lower upper number : Nat) : (graded lower upper number).length ≤ 1 := by
  unfold graded
  split
  · exact Nat.le_refl 1
  · exact length_severityIf_le _ _

/-- There is one error from the upper bound on. -/
theorem count_error_graded (lower upper number : Nat) :
    (graded lower upper number).count .error = if upper ≤ number then 1 else 0 := by
  unfold graded
  split
  · rfl
  · exact List.count_eq_zero.mpr (by simp)

/-- An error comes from the upper bound on. -/
@[simp]
theorem error_mem_graded {lower upper number : Nat} : .error ∈ graded lower upper number ↔ upper ≤ number := by
  unfold graded
  split <;> simp_all

/-- A warning comes from the lower bound on, below the upper one. -/
@[simp]
theorem warning_mem_graded {lower upper number : Nat} :
    .warning ∈ graded lower upper number ↔ lower ≤ number ∧ number < upper := by
  unfold graded
  split
  · simp only [List.mem_singleton, reduceCtorEq, false_iff]
    omega
  · simp only [mem_severityIf, and_true]
    omega

/-- What a rule says about a file: the severities of its issues. -/
structure Verdict where
  rule : String
  severities : List Severity

/-- The severity and the rule of an issue. -/
def mark (issue : Issue) : Severity × Option String := (issue.severity, issue.ruleText?)

/-- What a rule says, each severity with the rule. -/
def Verdict.marks (verdict : Verdict) : List (Severity × Option String) :=
  verdict.severities.map fun severity => (severity, some verdict.rule)

/-- Among the marks of some rules are those of each of them, for no other rule has its name. -/
theorem filter_marks {verdicts : List Verdict} (hn : (verdicts.map Verdict.rule).Nodup) {verdict : Verdict}
    (h : verdict ∈ verdicts) :
    (verdicts.flatMap Verdict.marks).filter (fun found => found.2 = some verdict.rule) = verdict.marks := by
  have hown : ∀ other : Verdict, other.marks.filter (fun found => found.2 = some verdict.rule) =
      if other.rule = verdict.rule then other.marks else [] := by
    intro other
    unfold Verdict.marks
    by_cases hr : other.rule = verdict.rule <;> simp [List.filter_map, Function.comp_def, hr]
  induction verdicts with
  | nil => cases h
  | cons first verdicts ih =>
    obtain ⟨hfirst, hrest⟩ := List.nodup_cons.mp hn
    have hne : ∀ other ∈ verdicts, other.rule ≠ first.rule := fun other hother he =>
      hfirst (List.mem_map.mpr ⟨other, hother, he⟩)
    rw [List.flatMap_cons, List.filter_append, hown]
    rcases List.mem_cons.mp h with rfl | hlater
    · have hnone : (verdicts.flatMap Verdict.marks).filter (fun found => found.2 = some verdict.rule) = [] := by
        rw [List.filter_flatMap, List.flatMap_eq_nil_iff]
        intro other hother
        rw [hown, if_neg (hne other hother)]
      rw [if_pos rfl, hnone, List.append_nil]
    · rw [if_neg (hne verdict hlater).symm, List.nil_append]
      exact ih hrest hlater

/-- So often a rule may say something about a file. -/
def timesAllowed (rule : String) : Nat := if rule = longFunctionRule then 3 else 1

/-- Each rule may say one thing at least. -/
theorem one_le_timesAllowed (rule : String) : 1 ≤ timesAllowed rule := by
  unfold timesAllowed
  split <;> omega

/-! ## What the rules say about a file -/

namespace Profile

variable (profile : Profile)

/-- What the rule about the size of files says. -/
def sizeVerdict : Verdict := ⟨fileSizeRule, graded linesWarning linesError profile.lineCount⟩

/-- What the rule about the number of hook calls says. -/
def hookVerdict : Verdict :=
  ⟨hooksRule,
    if profile.holdsComponents then graded hooksWarning hooksError profile.componentCount else []⟩

/-- What the rule about effects says. -/
def effectVerdict : Verdict :=
  ⟨"complexity/effect-sprawl",
    severityIf (profile.holdsComponents ∧ effectsWarning ≤ profile.count .effect) .warning⟩

/-- What the rule about memos and callbacks says. -/
def memoVerdict : Verdict :=
  ⟨"complexity/over-memoization",
    severityIf (profile.holdsComponents ∧ memosWarning ≤ profile.count .memo + profile.count .callback)
      .warning⟩

/-- What the rule about a pattern says. -/
def patternVerdict (pattern : Pattern) : Verdict :=
  ⟨pattern.rule, severityIf (pattern ∈ profile.patterns) pattern.severity⟩

/-- What the rule about long functions says. -/
def functionVerdict : Verdict :=
  ⟨longFunctionRule, List.replicate (min longFunctionsReported profile.longFunctions.length) .warning⟩

/-- What each rule says about a file. -/
def verdicts : List Verdict :=
  [profile.sizeVerdict, profile.hookVerdict, profile.effectVerdict, profile.memoVerdict,
    profile.patternVerdict .inlineErrorBoundary, profile.patternVerdict .multipleComponents,
    profile.functionVerdict, profile.patternVerdict .deepNesting, profile.patternVerdict .mixedConcerns]

/-- The issue about the size of a file is what its rule says. -/
theorem map_mark_sizeIssues : profile.sizeIssues.map mark = profile.sizeVerdict.marks := by
  unfold sizeIssues sizeVerdict graded severityIf
  split
  · rfl
  · split <;> rfl

/-- The issues about components are what their rules say. -/
theorem map_mark_componentIssues :
    profile.componentIssues.map mark =
      profile.hookVerdict.marks ++ profile.effectVerdict.marks ++ profile.memoVerdict.marks := by
  unfold componentIssues hookVerdict effectVerdict memoVerdict
  by_cases hc : profile.holdsComponents = true
  · have hhook : profile.hookIssues.map mark = Verdict.marks ⟨hooksRule,
        graded hooksWarning hooksError profile.componentCount⟩ := by
      unfold hookIssues graded severityIf
      dsimp only
      split
      · rfl
      · split <;> rfl
    have heffect : profile.effectIssues.map mark = Verdict.marks ⟨"complexity/effect-sprawl",
        severityIf (effectsWarning ≤ profile.count .effect) .warning⟩ := by
      unfold effectIssues severityIf
      split <;> rfl
    have hmemo : profile.memoIssues.map mark = Verdict.marks ⟨"complexity/over-memoization",
        severityIf (memosWarning ≤ profile.count .memo + profile.count .callback) .warning⟩ := by
      unfold memoIssues severityIf
      split <;> rfl
    rw [if_pos hc, if_pos hc, List.map_append, List.map_append, hhook, heffect, hmemo]
    simp only [hc, true_and]
  · rw [if_neg hc, if_neg hc]
    simp only [hc]
    rfl

/-- The issue about a pattern is what its rule says. -/
theorem map_mark_patternIssues (pattern : Pattern) :
    (profile.patternIssues pattern).map mark = (profile.patternVerdict pattern).marks := by
  unfold patternIssues patternVerdict severityIf
  by_cases hp : pattern ∈ profile.patterns
  · rw [if_pos (List.contains_iff_mem.mpr hp), if_pos hp]
    cases pattern <;> rfl
  · rw [if_neg (fun h => hp (List.contains_iff_mem.mp h)), if_neg hp]
    rfl

/-- The issues about long functions are what their rule says. -/
theorem map_mark_functionIssues : profile.functionIssues.map mark = profile.functionVerdict.marks := by
  unfold functionIssues functionVerdict Verdict.marks
  rw [List.map_map, List.map_replicate, List.eq_replicate_iff]
  refine ⟨by rw [List.length_map, List.length_take], fun found hf => ?_⟩
  obtain ⟨function, -, rfl⟩ := List.mem_map.mp hf
  rfl

/-- The issues of a file are what the rules say about it, rule by rule. -/
theorem map_mark_issues : profile.issues.map mark = profile.verdicts.flatMap Verdict.marks := by
  unfold issues verdicts
  simp only [List.map_append, map_mark_sizeIssues, map_mark_componentIssues, map_mark_patternIssues,
    map_mark_functionIssues, List.flatMap_cons, List.flatMap_nil, List.append_nil, List.append_assoc]

/-- No two rules about files have the same name. -/
theorem nodup_rules : (profile.verdicts.map Verdict.rule).Nodup := by
  change [fileSizeRule, hooksRule, "complexity/effect-sprawl", "complexity/over-memoization",
    "pattern/inline-error-boundary", "pattern/multiple-components", longFunctionRule,
    "pattern/deep-jsx-nesting", "pattern/mixed-concerns"].Nodup
  decide

/-- A rule says no more about a file than it may. -/
theorem length_severities_le {verdict : Verdict} (h : verdict ∈ profile.verdicts) :
    verdict.severities.length ≤ timesAllowed verdict.rule := by
  have hhook : profile.hookVerdict.severities.length ≤ 1 := by
    unfold hookVerdict
    dsimp only
    split
    · exact length_graded_le _ _ _
    · exact Nat.zero_le 1
  have hpattern : ∀ pattern, (profile.patternVerdict pattern).severities.length ≤ 1 :=
    fun pattern => length_severityIf_le _ _
  have hfunction : profile.functionVerdict.severities.length ≤ timesAllowed longFunctionRule := by
    unfold functionVerdict
    rw [List.length_replicate]
    exact Nat.min_le_left _ _
  have hone : ∀ {severities : List Severity} (rule : String), severities.length ≤ 1 →
      severities.length ≤ timesAllowed rule := fun rule hlength =>
    Nat.le_trans hlength (one_le_timesAllowed rule)
  simp only [verdicts, List.mem_cons, List.not_mem_nil, or_false] at h
  rcases h with rfl | rfl | rfl | rfl | rfl | rfl | rfl | rfl | rfl
  · exact hone _ (length_graded_le _ _ _)
  · exact hone _ hhook
  · exact hone _ (length_severityIf_le _ _)
  · exact hone _ (length_severityIf_le _ _)
  · exact hone _ (hpattern _)
  · exact hone _ (hpattern _)
  · exact hfunction
  · exact hone _ (hpattern _)
  · exact hone _ (hpattern _)

/-- The severities of the issues that have the rule of a verdict are those of the verdict. -/
theorem severities_of_rule {verdict : Verdict} (h : verdict ∈ profile.verdicts) :
    (profile.issues.filter (Issue.hasRule verdict.rule)).map Issue.severity = verdict.severities := by
  have hmarks : (profile.issues.filter (Issue.hasRule verdict.rule)).map mark = verdict.marks := by
    rw [← filter_marks profile.nodup_rules h, ← map_mark_issues, List.filter_map]
    congr 1
    exact List.filter_congr fun issue _ => issue.hasRule_eq_decide verdict.rule
  have hfirst := congrArg (List.map Prod.fst) hmarks
  rw [List.map_map] at hfirst
  rw [Verdict.marks, List.map_map] at hfirst
  simpa [Function.comp_def, mark] using hfirst

/-- The issues of a file are about the file. -/
theorem file_of_mem_issues {issue : Issue} (h : issue ∈ profile.issues) : issue.file = .text profile.path := by
  have hsize : ∀ found ∈ profile.sizeIssues, found.file = .text profile.path := by
    unfold sizeIssues
    split
    · simp [Profile.issue]
    · split <;> simp [Profile.issue]
  have hcomponent : ∀ found ∈ profile.componentIssues, found.file = .text profile.path := by
    unfold componentIssues hookIssues effectIssues memoIssues
    dsimp only
    repeat' split
    all_goals simp [Profile.issue]
  have hpattern : ∀ pattern, ∀ found ∈ profile.patternIssues pattern, found.file = .text profile.path := by
    intro pattern
    unfold patternIssues
    split
    · cases pattern <;> simp [Profile.issue]
    · simp
  have hfunction : ∀ found ∈ profile.functionIssues, found.file = .text profile.path := by
    unfold functionIssues
    intro found hf
    obtain ⟨function, -, rfl⟩ := List.mem_map.mp hf
    rfl
  simp only [issues, List.mem_append, or_assoc] at h
  rcases h with h | h | h | h | h | h | h
  · exact hsize issue h
  · exact hcomponent issue h
  · exact hpattern _ issue h
  · exact hpattern _ issue h
  · exact hfunction issue h
  · exact hpattern _ issue h
  · exact hpattern _ issue h

/-- The issues of a file have the severities that the rules say, each with a rule. -/
theorem mem_marks_of_mem_issues {issue : Issue} (h : issue ∈ profile.issues) :
    ∃ verdict ∈ profile.verdicts, issue.ruleText? = some verdict.rule ∧
      issue.severity ∈ verdict.severities := by
  have hmark : mark issue ∈ profile.verdicts.flatMap Verdict.marks :=
    profile.map_mark_issues ▸ List.mem_map_of_mem h
  obtain ⟨verdict, hverdict, hin⟩ := List.mem_flatMap.mp hmark
  obtain ⟨severity, hseverity, he⟩ := List.mem_map.mp hin
  obtain ⟨rfl, hrule⟩ := Prod.mk.injEq _ _ _ _ ▸ he
  exact ⟨verdict, hverdict, hrule.symm, hseverity⟩

/-- A rule says as much about a file as it may, or less. -/
theorem countP_hasRule_le (rule : String) :
    profile.issues.countP (Issue.hasRule rule) ≤ timesAllowed rule := by
  rw [List.countP_eq_length_filter]
  by_cases hr : ∃ verdict ∈ profile.verdicts, verdict.rule = rule
  · obtain ⟨verdict, hverdict, rfl⟩ := hr
    rw [← List.length_map Issue.severity, profile.severities_of_rule hverdict]
    exact profile.length_severities_le hverdict
  · have hnone : profile.issues.filter (Issue.hasRule rule) = [] := by
      rw [List.filter_eq_nil_iff]
      intro issue hi hrule
      rw [issue.hasRule_eq_decide, decide_eq_true_eq] at hrule
      obtain ⟨verdict, hverdict, hsome, -⟩ := profile.mem_marks_of_mem_issues hi
      exact hr ⟨verdict, hverdict, Option.some.inj (hsome.symm.trans hrule)⟩
    rw [hnone]
    exact Nat.zero_le _

/-- An issue has a severity if one of the rules says so. -/
theorem exists_severity_iff (severity : Severity) :
    (∃ issue ∈ profile.issues, issue.severity = severity) ↔
      ∃ verdict ∈ profile.verdicts, severity ∈ verdict.severities := by
  constructor
  · rintro ⟨issue, hi, rfl⟩
    obtain ⟨verdict, hverdict, -, hin⟩ := profile.mem_marks_of_mem_issues hi
    exact ⟨verdict, hverdict, hin⟩
  · rintro ⟨verdict, hverdict, hin⟩
    rw [← profile.severities_of_rule hverdict] at hin
    obtain ⟨issue, hi, rfl⟩ := List.mem_map.mp hin
    exact ⟨issue, (List.mem_filter.mp hi).1, rfl⟩

/-- A rule finds as many errors in a file as it says. -/
theorem countP_isErrorOf {verdict : Verdict} (h : verdict ∈ profile.verdicts) :
    profile.issues.countP (isErrorOf verdict.rule) = verdict.severities.count .error := by
  rw [← profile.severities_of_rule h, List.count_eq_countP, List.countP_map, List.countP_filter]
  refine List.countP_congr fun issue _ => ?_
  simp [isErrorOf, and_comm]

/-- A file is found too large once, if at all. -/
theorem countP_fileSizeError :
    profile.issues.countP (isErrorOf fileSizeRule) = if linesError ≤ profile.lineCount then 1 else 0 := by
  have hin : profile.sizeVerdict ∈ profile.verdicts := by simp [verdicts]
  exact (profile.countP_isErrorOf hin).trans (count_error_graded _ _ _)

/-- A component is found too complex once, if at all. -/
theorem countP_hooksError :
    profile.issues.countP (isErrorOf hooksRule) =
      if profile.holdsComponents = true ∧ hooksError ≤ profile.componentCount then 1 else 0 := by
  have hin : profile.hookVerdict ∈ profile.verdicts := by simp [verdicts]
  refine (profile.countP_isErrorOf hin).trans ?_
  unfold hookVerdict
  by_cases hc : profile.holdsComponents = true
  · simp only [hc, if_true, true_and, count_error_graded]
  · simp only [hc, Bool.false_eq_true, if_false, false_and, List.count_nil]

/-- A file has an error if it is too large, or a component that is too complex. -/
theorem exists_error_iff :
    (∃ issue ∈ profile.issues, issue.severity = .error) ↔
      linesError ≤ profile.lineCount ∨
        profile.holdsComponents = true ∧ hooksError ≤ profile.componentCount := by
  rw [exists_severity_iff]
  simp [verdicts, sizeVerdict, hookVerdict, effectVerdict, memoVerdict, functionVerdict, patternVerdict,
    Pattern.severity]

/-- What a file is warned about. -/
theorem exists_warning_iff :
    (∃ issue ∈ profile.issues, issue.severity = .warning) ↔
      (linesWarning ≤ profile.lineCount ∧ profile.lineCount < linesError) ∨
        (profile.holdsComponents = true ∧
          (hooksWarning ≤ profile.componentCount ∧ profile.componentCount < hooksError ∨
            effectsWarning ≤ profile.count .effect ∨
              memosWarning ≤ profile.count .memo + profile.count .callback)) ∨
        .inlineErrorBoundary ∈ profile.patterns ∨ profile.longFunctions ≠ [] := by
  have hfunctions : min longFunctionsReported profile.longFunctions.length ≠ 0 ↔ profile.longFunctions ≠ [] := by
    rw [← List.length_pos_iff, longFunctionsReported]
    omega
  rw [exists_severity_iff]
  simp [verdicts, sizeVerdict, hookVerdict, effectVerdict, memoVerdict, functionVerdict, patternVerdict,
    Pattern.severity, hfunctions, and_or_left, or_assoc]

end Profile

/-! ## The check over sources -/

/-- A source file: its path as it is shown, and its text. -/
structure File where
  path : String
  content : List Char

namespace File

variable (file : File)

/-- What is measured about a file. -/
def profile : Profile := .ofText file.path file.content

/-- Number of lines. -/
def lineCount : Nat := (sourceLines file.content).length

/-- Number of hook calls of a kind. -/
def calls (kind : MarkerKind) : Nat := (markers file.content).count kind

/-- Number of hook calls that make a component complex. -/
def hookCount : Nat :=
  file.calls .state + file.calls .effect + file.calls .memo + file.calls .callback + file.calls .ref +
    file.calls .custom

/-- The path ends like that of a file with components. -/
def IsComponent : Prop := ".tsx".toList <:+ file.path.toList

/-- A file with 500 lines or more. -/
def IsTooLarge : Prop := 500 ≤ file.lineCount

/-- A component with ten hook calls or more. -/
def IsTooComplex : Prop := file.IsComponent ∧ 10 ≤ file.hookCount

/-- The file alone fails the check. -/
def Fails : Prop := file.IsTooLarge ∨ file.IsTooComplex

/-- A function of the file is long. -/
def HasLongFunction : Prop := longFunctions functionLimit (sourceLines file.content) ≠ []

/-- There is something to be warned about, if nothing is worse. -/
def IsDoubtful : Prop :=
  300 ≤ file.lineCount ∨
    (file.IsComponent ∧
      (6 ≤ file.hookCount ∨ 4 ≤ file.calls .effect ∨ 6 ≤ file.calls .memo + file.calls .callback)) ∨
    Pattern.inlineErrorBoundary.isIn file.content = true ∨ file.HasLongFunction

instance : Decidable file.IsComponent := inferInstanceAs (Decidable (_ <:+ _))

instance : Decidable file.IsTooLarge := inferInstanceAs (Decidable (_ ≤ _))

instance : Decidable file.IsTooComplex := inferInstanceAs (Decidable (_ ∧ _))

/-- A file holds components if its path says so. -/
theorem holdsComponents_iff : file.profile.holdsComponents = true ↔ file.IsComponent :=
  List.isSuffixOf_iff_suffix

/-- All hook calls that make a component complex are counted. -/
theorem componentCount_profile : file.profile.componentCount = file.hookCount := by
  change 0 + _ + _ + _ + _ + _ + _ = _
  rw [Nat.zero_add]
  rfl

/-- A text has a pattern if it is found. -/
theorem mem_patterns_profile (pattern : Pattern) :
    pattern ∈ file.profile.patterns ↔ pattern.isIn file.content = true := by
  change pattern ∈ patterns file.content ↔ _
  unfold patterns
  rw [List.mem_filter, and_iff_right]
  cases pattern <;> decide

/-- A file has an error if it is too large or too complex. -/
theorem exists_error_iff :
    (∃ issue ∈ file.profile.issues, issue.severity = .error) ↔ file.Fails := by
  rw [Profile.exists_error_iff, holdsComponents_iff, componentCount_profile]
  rfl

/-- A file without errors has a warning if there is something to be warned about. -/
theorem exists_warning_iff (h : ¬ file.Fails) :
    (∃ issue ∈ file.profile.issues, issue.severity = .warning) ↔ file.IsDoubtful := by
  obtain ⟨hlarge, hcomplex⟩ := not_or.mp h
  have hlines : file.lineCount < 500 := Nat.lt_of_not_le hlarge
  have hhooks : file.IsComponent → file.hookCount < 10 := fun hc =>
    Nat.lt_of_not_le fun hle => hcomplex ⟨hc, hle⟩
  rw [Profile.exists_warning_iff, holdsComponents_iff, componentCount_profile, mem_patterns_profile]
  change (300 ≤ file.lineCount ∧ file.lineCount < 500) ∨
    (file.IsComponent ∧ (6 ≤ file.hookCount ∧ file.hookCount < 10 ∨ 4 ≤ file.calls .effect ∨
      6 ≤ file.calls .memo + file.calls .callback)) ∨ _ ↔ _
  refine or_congr (and_iff_left hlines) (or_congr (and_congr_right fun hc => ?_) Iff.rfl)
  rw [and_iff_left (hhooks hc)]

/-- What is said about a file is about it, names a rule, and is said no more often than the
rule may say it. -/
structure IsShare (issues : List Issue) : Prop where
  file : ∀ issue ∈ issues, issue.file = .text file.path
  rule : ∀ issue ∈ issues, issue.ruleText?.isSome = true
  times : ∀ rule, issues.countP (Issue.hasRule rule) ≤ timesAllowed rule

/-- The issues of a file are its share. -/
theorem isShare_issues : file.IsShare file.profile.issues where
  file _ h := file.profile.file_of_mem_issues h
  rule issue h := by
    obtain ⟨verdict, -, hrule, -⟩ := file.profile.mem_marks_of_mem_issues h
    rw [hrule, Option.isSome_some]
  times rule := file.profile.countP_hasRule_le rule

end File

/-- What a check says about sources, told from their paths and texts. -/
structure IsJudged (files : List File) (check : Check) : Prop where
  fails : check.status = .fail ↔ ∃ file ∈ files, file.Fails
  warns : check.status = .warn ↔ (∀ file ∈ files, ¬ file.Fails) ∧ ∃ file ∈ files, file.IsDoubtful
  passes : check.status = .pass ↔ (∀ file ∈ files, ¬ file.Fails) ∧ ∀ file ∈ files, ¬ file.IsDoubtful
  /-- The issues of the files, in the order of the files. -/
  issues : ∃ shares, check.issues = shares.flatten ∧ List.Forall₂ File.IsShare files shares
  summary : check.summary =
    toString (files.countP fun file => file.IsTooLarge) ++ " oversized files, " ++
      toString (files.countP fun file => file.IsTooComplex) ++ " complex components, " ++
      toString (check.issues.countP fun issue => issue.severity = .warning) ++ " warnings"

/-- What holds of one issue of some files holds of one issue of one of them. -/
theorem exists_mem_flatMap_issues {files : List File} {holds : Issue → Prop} :
    (∃ issue ∈ (files.map File.profile).flatMap Profile.issues, holds issue) ↔
      ∃ file ∈ files, ∃ issue ∈ file.profile.issues, holds issue := by
  simp only [List.mem_flatMap, List.mem_map, exists_exists_and_eq_and]
  constructor
  · rintro ⟨issue, ⟨file, hfile, hissue⟩, h⟩
    exact ⟨file, hfile, issue, hissue, h⟩
  · rintro ⟨file, hfile, issue, hissue, h⟩
    exact ⟨issue, ⟨file, hfile, hissue⟩, h⟩

/-- What is counted at most once in each file is counted once for each file that has it. -/
theorem countP_flatMap_issues {files : List File} {counts : Issue → Bool} {has : File → Bool}
    (h : ∀ file, file.profile.issues.countP counts = if has file then 1 else 0) :
    ((files.map File.profile).flatMap Profile.issues).countP counts = files.countP has := by
  rw [List.flatMap_map]
  exact Issue.countP_flatMap_once h

/-- The check over sources says what is to be said about them, however long it took. -/
theorem isJudged_check (files : List File) (duration : Int) :
    IsJudged files (check (files.map File.profile) duration) := by
  have herror : (∃ issue ∈ (files.map File.profile).flatMap Profile.issues, issue.severity = .error) ↔
      ∃ file ∈ files, file.Fails := by
    simp only [exists_mem_flatMap_issues, File.exists_error_iff]
  have hnone : (¬ ∃ issue ∈ (files.map File.profile).flatMap Profile.issues, issue.severity = .error) ↔
      ∀ file ∈ files, ¬ file.Fails := by
    rw [herror]
    simp only [not_exists, not_and]
  have hwarning : (∀ file ∈ files, ¬ file.Fails) →
      ((∃ issue ∈ (files.map File.profile).flatMap Profile.issues, issue.severity = .warning) ↔
        ∃ file ∈ files, file.IsDoubtful) := by
    intro hfine
    rw [exists_mem_flatMap_issues]
    exact exists_congr fun file => and_congr_right fun hfile => file.exists_warning_iff (hfine file hfile)
  refine ⟨?fails, ?warns, ?passes, ?issues, ?summary⟩
  case fails => exact (Status.ofIssues_eq_fail_iff _).trans herror
  case warns =>
    refine (Status.ofIssues_eq_warn_iff _).trans ?_
    rw [hnone]
    exact and_congr_right hwarning
  case passes =>
    refine (Status.ofIssues_eq_pass_iff _).trans ?_
    rw [hnone]
    refine and_congr_right fun hfine => ?_
    rw [hwarning hfine]
    simp only [not_exists, not_and]
  case issues =>
    refine ⟨files.map fun file => file.profile.issues, ?_, ?_⟩
    · change (files.map File.profile).flatMap Profile.issues = _
      rw [List.flatMap_map, List.flatMap_def]
    · rw [List.forall₂_map_right_iff, List.forall₂_same]
      exact fun file _ => file.isShare_issues
  case summary =>
    have hlarge : ((files.map File.profile).flatMap Profile.issues).countP (isErrorOf Profile.fileSizeRule) =
        files.countP fun file => file.IsTooLarge := by
      refine countP_flatMap_issues fun file => ?_
      rw [Profile.countP_fileSizeError]
      simp only [decide_eq_true_eq]
      rfl
    have hcomplex : ((files.map File.profile).flatMap Profile.issues).countP (isErrorOf Profile.hooksRule) =
        files.countP fun file => file.IsTooComplex := by
      refine countP_flatMap_issues fun file => ?_
      rw [Profile.countP_hooksError]
      simp only [decide_eq_true_eq, File.holdsComponents_iff, File.componentCount_profile]
      rfl
    change summary _ = _
    unfold summary
    rw [hlarge, hcomplex]
    rfl

end Source

end Checkup
