import Checkup.Proofs.DuplicateCounts
import Checkup.Proofs.DuplicateStatistics
import Checkup.Proofs.EvidentFindings
import Checkup.Proofs.IgnoredFolders
import Checkup.Proofs.ReportedIssues
import Checkup.Proofs.SourceJudgement

/-!
# What summaries tell

The summary of a check tells numbers. Each is a count over the issues of the check, whether the
check counted its issues, what it measured or what a tool said of it, and the errors among the
issues are those that the first numbers count. So a check that was made failed exactly if these
numbers are not all zero.
-/

namespace Checkup

/-- A number that a summary tells: the issues that are counted, and what they are called. -/
structure Tally where
  counts : Issue → Bool
  label : String

namespace Tally

/-- The issues of one severity. -/
def ofSeverity (severity : Severity) (label : String) : Tally := ⟨fun issue => issue.severity = severity, label⟩

/-- The errors of a rule. -/
def ofRule (rule label : String) : Tally := ⟨Source.isErrorOf rule, label⟩

variable (tally : Tally) (issues : List Issue)

/-- How many issues are counted. -/
def number : Nat := issues.countP tally.counts

/-- The number with what is counted. -/
def told : String := toString (tally.number issues) ++ " " ++ tally.label

/-- Some issue is counted if the number is not zero. -/
theorem number_ne_zero_iff : tally.number issues ≠ 0 ↔ ∃ issue ∈ issues, tally.counts issue = true := by
  rw [number, ← Nat.pos_iff_ne_zero, List.countP_pos_iff]

end Tally

namespace CheckKind

/-- The numbers that the summary of a check tells. -/
def tallies : CheckKind → List Tally
  | oxlint | eslint => [.ofSeverity .error "errors", .ofSeverity .warning "warnings"]
  | knip =>
    [.ofSeverity .error "errors", .ofSeverity .warning "unused files/deps", .ofSeverity .info "unused exports"]
  | jscpd => [.ofSeverity .warning "duplicate blocks found"]
  | madge => [.ofSeverity .error "circular deps", .ofSeverity .warning "orphan files"]
  | typeScript => [⟨fun _ => true, "type errors"⟩]
  | complexity =>
    [.ofRule "complexity/file-size" "oversized files", .ofRule "complexity/too-many-hooks" "complex components",
      .ofSeverity .warning "warnings"]
  | architecture => [.ofSeverity .error "boundary violations", .ofSeverity .warning "warnings"]
  | folders =>
    [.ofRule "structure/deep-nesting" "deep folders", .ofRule "structure/crowded-folder" "crowded folders",
      .ofSeverity .warning "warnings"]

/-- The numbers of the errors among them: the first two where two rules are counted, none of duplicates. -/
def failing (kind : CheckKind) : List Tally :=
  match kind with
  | jscpd => []
  | complexity | folders => kind.tallies.take 2
  | oxlint | eslint | knip | madge | typeScript | architecture => kind.tallies.take 1

/-- The summary of a check by its issues. -/
def summaryOf (kind : CheckKind) (issues : List Issue) : String :=
  String.intercalate ", " (kind.tallies.map fun tally => tally.told issues)

/-- An issue is an error exactly if it is counted among the errors. -/
def Explains (kind : CheckKind) (issue : Issue) : Prop :=
  issue.severity = .error ↔ ∃ tally ∈ kind.failing, tally.counts issue = true

end CheckKind

/-- A check that is told by the numbers in its summary. -/
structure Summarises (kind : CheckKind) (check : Check) : Prop where
  /-- The numbers in the summary are counts over the issues of the check. -/
  summary : check.summary = kind.summaryOf check.issues
  /-- The check failed exactly if the numbers of errors are not all zero. -/
  fails : check.status = .fail ↔ ∃ tally ∈ kind.failing, tally.number check.issues ≠ 0
  /-- What the compiler says is an error. -/
  typeErrors : kind = .typeScript → ∀ issue ∈ check.issues, issue.severity = .error

/-- A check of a run failed on the way, is left out, or is told by the numbers in its summary. -/
inductive Workplace.Tells (place : Workplace) (settings : Settings) (flags : RunFlags) (kind : CheckKind)
    (check : Check) : Prop
  | crashed {fault : Fault} (hfault : (place.attempt settings flags kind).result = .error fault)
    (hcheck : check = .crashed kind.name place.elapsed fault)
  | leftOut (hskip : check.status = .skip)
  | told (h : Summarises kind check)

/-! ## Summaries -/

namespace CheckKind

variable {kind : CheckKind} {first second third : Tally}

/-- One number is told with what is counted. -/
theorem summaryOf_one (h : kind.tallies = [first]) (issues : List Issue) :
    kind.summaryOf issues = toString (first.number issues) ++ (" " ++ first.label) := by
  rw [summaryOf, h, List.map_singleton, String.intercalate_singleton, Tally.told, String.append_assoc]

/-- Two are told with a comma between them. -/
theorem summaryOf_two (h : kind.tallies = [first, second]) (issues : List Issue) :
    kind.summaryOf issues = toString (first.number issues) ++ (" " ++ first.label ++ ", ") ++
      toString (second.number issues) ++ (" " ++ second.label) := by
  rw [summaryOf, h, List.map_cons, List.map_singleton, String.intercalate_cons_cons, String.intercalate_singleton]
  simp only [Tally.told, String.append_assoc]

/-- And three with two commas. -/
theorem summaryOf_three (h : kind.tallies = [first, second, third]) (issues : List Issue) :
    kind.summaryOf issues = toString (first.number issues) ++ (" " ++ first.label ++ ", ") ++
      toString (second.number issues) ++ (" " ++ second.label ++ ", ") ++
        toString (third.number issues) ++ (" " ++ third.label) := by
  rw [summaryOf, h, List.map_cons, List.map_cons, List.map_singleton, String.intercalate_cons_cons,
    String.intercalate_cons_cons, String.intercalate_singleton]
  simp only [Tally.told, String.append_assoc]

/-- Where all errors are counted by the first number, every issue is explained. -/
theorem explains_of_failing {label : String} (h : kind.failing = [.ofSeverity .error label]) (issue : Issue) :
    kind.Explains issue := by
  rw [Explains, h]
  simp [Tally.ofSeverity]

/-- Where no number is one of errors, what is no error is explained. -/
theorem explains_jscpd {issue : Issue} (h : issue.severity ≠ .error) : jscpd.Explains issue :=
  ⟨fun he => absurd he h, fun ⟨_, hm, _⟩ => absurd hm List.not_mem_nil⟩

/-- Where all issues are counted as errors, exactly the errors are explained. -/
theorem explains_typeScript {issue : Issue} : typeScript.Explains issue ↔ issue.severity = .error := by
  have hcounted : ∃ tally ∈ typeScript.failing, tally.counts issue = true := ⟨_, List.mem_cons_self, rfl⟩
  exact ⟨fun h => h.mpr hcounted, fun he => ⟨fun _ => hcounted, fun _ => he⟩⟩

/-- Where the errors of two rules are counted, an issue is explained if it has one of these rules or is no error. -/
theorem explains_of_rules {rule other label further : String}
    (h : kind.failing = [.ofRule rule label, .ofRule other further]) {issue : Issue}
    (hi : issue.severity = .error → issue.hasRule rule = true ∨ issue.hasRule other = true) : kind.Explains issue := by
  rw [Explains, h]
  simp only [Tally.ofRule, Source.isErrorOf, List.mem_cons, List.not_mem_nil, or_false, exists_eq_or_imp,
    exists_eq_left, Bool.and_eq_true, decide_eq_true_eq]
  constructor
  · exact fun he => (hi he).imp (⟨·, he⟩) (⟨·, he⟩)
  · exact fun hcounted => hcounted.elim And.right And.right

end CheckKind

/-- A check of issues that are explained is told by the numbers in its summary. -/
theorem summarises_ofIssues {kind : CheckKind} {issues : List Issue} (he : ∀ issue ∈ issues, kind.Explains issue)
    {summary : String} (hs : summary = kind.summaryOf issues) (name : String) (duration : Int)
    (rawOutput : Option String) : Summarises kind (.ofIssues name issues duration summary rawOutput) where
  summary := hs
  fails := by
    simp only [Tally.number_ne_zero_iff]
    refine (Status.ofIssues_eq_fail_iff issues).trans ⟨?_, ?_⟩
    · rintro ⟨issue, hissue, herror⟩
      obtain ⟨tally, htally, hcounts⟩ := (he issue hissue).mp herror
      exact ⟨tally, htally, issue, hissue, hcounts⟩
    · rintro ⟨tally, htally, issue, hissue, hcounts⟩
      exact ⟨issue, hissue, (he issue hissue).mpr ⟨tally, htally, hcounts⟩⟩
  typeErrors := by
    rintro rfl issue hissue
    exact CheckKind.explains_typeScript.mp (he issue hissue)

/-! ## Tools -/

/-- The issue about findings that a text announces is as bad as its dialect says. -/
theorem Dialect.unread_severity {Payload : Type} (dialect : Dialect Payload) (text : String) :
    Gives (dialect.unread text) fun found => ∀ issue ∈ found, issue.severity = dialect.unreadSeverity := by
  refine dialect.unread_gives_of (List.forall_mem_nil _) (fun count issue hissue => ?_) text
  rw [List.mem_singleton.mp hissue]
  rfl

/-- What is read of duplicates is warned about. -/
theorem Jscpd.issues_warnings (root : Option String) (stdout stderr : String) :
    Gives ((Jscpd.dialect root).issues stdout stderr) fun found => ∀ issue ∈ found, issue.severity = .warning :=
  Dialect.issues_gives (fun _ _ _ => severity_of_mapM) (fun _ _ hfound => (issuesOfText_bounded hfound).2)
    (Jscpd.dialect root).unread_severity stdout stderr

/-- What the compiler says is an error. -/
theorem TypeScript.issues_errors (root : Option String) (stdout stderr : String) :
    Gives ((TypeScript.dialect root).issues stdout stderr) fun found => ∀ issue ∈ found, issue.severity = .error :=
  Dialect.issues_gives (fun _ _ => .ok (List.forall_mem_nil _)) (issuesOfText_errors root)
    (TypeScript.dialect root).unread_severity stdout stderr

/-! ## Sources and folders -/

/-- The rules of the errors among some issues. -/
def errorRules (issues : List Issue) : List (Option String) :=
  (issues.filter fun issue => issue.severity = .error).map Issue.ruleText?

/-- The errors of a rule are as many as the times that the rule is that of an error. -/
theorem countP_isErrorOf_eq (rule : String) (issues : List Issue) :
    issues.countP (Source.isErrorOf rule) = (errorRules issues).count (some rule) := by
  rw [errorRules, List.count, List.countP_map, List.countP_filter]
  refine List.countP_congr fun issue _ => ?_
  simp [Source.isErrorOf, Issue.hasRule_eq_decide]

/-- The rule of an error is that of one. -/
theorem mem_errorRules {issues : List Issue} {issue : Issue} (h : issue ∈ issues) (he : issue.severity = .error) :
    issue.ruleText? ∈ errorRules issues :=
  List.mem_map_of_mem (List.mem_filter.mpr ⟨h, decide_eq_true he⟩)

/-- An error about a file has one of two rules. -/
theorem Source.Profile.rule_of_error {profile : Profile} {issue : Issue} (h : issue ∈ profile.issues)
    (he : issue.severity = .error) : issue.hasRule fileSizeRule = true ∨ issue.hasRule hooksRule = true := by
  obtain ⟨verdict, hverdict, hrule, hseverity⟩ := profile.mem_marks_of_mem_issues h
  rw [issue.hasRule_eq_decide, issue.hasRule_eq_decide, hrule]
  rw [he] at hseverity
  simp only [verdicts, List.mem_cons, List.not_mem_nil, or_false] at hverdict
  rcases hverdict with rfl | rfl | rfl | rfl | rfl | rfl | rfl | rfl | rfl
  · exact .inl (decide_eq_true rfl)
  · exact .inr (decide_eq_true rfl)
  · cases (mem_severityIf.mp hseverity).2
  · cases (mem_severityIf.mp hseverity).2
  · cases (mem_severityIf.mp hseverity).2
  · cases (mem_severityIf.mp hseverity).2
  · cases (List.mem_replicate.mp hseverity).2
  · cases (mem_severityIf.mp hseverity).2
  · cases (mem_severityIf.mp hseverity).2

namespace Folder

/-- The errors about a folder: its depth, if it is too deep, and its files, if they are too many. -/
theorem errorRules_issues (folder : Folder) :
    errorRules folder.issues = (if depthError ≤ folder.depth then [some depthRule] else []) ++
      (if filesError ≤ folder.fileCount then [some crowdRule] else []) := by
  have hdepth : errorRules folder.depthIssues = if depthError ≤ folder.depth then [some depthRule] else [] := by
    unfold depthIssues
    split
    · rfl
    · split <;> rfl
  have hcrowd : errorRules folder.crowdIssues = if filesError ≤ folder.fileCount then [some crowdRule] else [] := by
    unfold crowdIssues
    split
    · rfl
    · split <;> rfl
  have hmixed : errorRules folder.mixedIssues = [] := by
    unfold mixedIssues
    split <;> rfl
  unfold errorRules at hdepth hcrowd hmixed ⊢
  rw [issues, List.filter_append, List.filter_append, List.map_append, List.map_append, hdepth, hcrowd, hmixed,
    List.append_nil]

/-- An error about a folder has one of two rules. -/
theorem rule_of_error {folder : Folder} {issue : Issue} (h : issue ∈ folder.issues) (he : issue.severity = .error) :
    issue.hasRule depthRule = true ∨ issue.hasRule crowdRule = true := by
  have hrule := mem_errorRules h he
  rw [errorRules_issues, List.mem_append] at hrule
  rw [issue.hasRule_eq_decide, issue.hasRule_eq_decide, decide_eq_true_eq, decide_eq_true_eq]
  refine hrule.imp (fun hrule => ?_) fun hrule => ?_
  · split at hrule
    · exact List.mem_singleton.mp hrule
    · cases hrule
  · split at hrule
    · exact List.mem_singleton.mp hrule
    · cases hrule

/-- A folder is found too deep once and too crowded once, if at all. -/
theorem countP_errors (folder : Folder) :
    folder.issues.countP (Source.isErrorOf depthRule) = (if depthError ≤ folder.depth then 1 else 0) ∧
      folder.issues.countP (Source.isErrorOf crowdRule) = (if filesError ≤ folder.fileCount then 1 else 0) := by
  rw [countP_isErrorOf_eq, countP_isErrorOf_eq, errorRules_issues]
  split <;> split <;> exact ⟨rfl, rfl⟩

/-- The numbers of folders that are too deep and too crowded are those of the errors about them. -/
theorem summary_eq (folders : List Folder) {further : List Issue} (hf : ∀ issue ∈ further, issue.severity = .warning) :
    summary folders (folders.flatMap issues ++ further) =
      CheckKind.folders.summaryOf (folders.flatMap issues ++ further) := by
  have hnone : ∀ rule, further.countP (Source.isErrorOf rule) = 0 := by
    refine fun rule => List.countP_eq_zero.mpr fun issue hissue herror => ?_
    have hseverity := of_decide_eq_true (Bool.and_eq_true_iff.mp herror).2
    rw [hf issue hissue] at hseverity
    cases hseverity
  have hdepth : (folders.flatMap issues ++ further).countP (Source.isErrorOf depthRule) =
      folders.countP fun folder => depthError ≤ folder.depth := by
    rw [List.countP_append, hnone, Nat.add_zero]
    refine Issue.countP_flatMap_once fun folder => ?_
    simp only [folder.countP_errors.1, decide_eq_true_eq]
  have hcrowd : (folders.flatMap issues ++ further).countP (Source.isErrorOf crowdRule) =
      folders.countP fun folder => filesError ≤ folder.fileCount := by
    rw [List.countP_append, hnone, Nat.add_zero]
    refine Issue.countP_flatMap_once fun folder => ?_
    simp only [folder.countP_errors.2, decide_eq_true_eq]
  rw [CheckKind.summaryOf_three rfl, summary, ← hdepth, ← hcrowd]
  rfl

end Folder

/-! ## Runs -/

namespace Workplace

variable {place : Workplace} {settings : Settings} {flags : RunFlags} {kind : CheckKind}

/-- A check that is left out, or told by the numbers in its summary. -/
def LeavesOutOrTells (kind : CheckKind) (check : Check) : Prop := check.status = .skip ∨ Summarises kind check

/-- A tool's answer is told if its summary tells the numbers and its issues are explained. -/
theorem ask_tells {Payload : Type} {dialect : Dialect Payload}
    (hs : ∀ issues, kind.summaryOf issues = dialect.summary issues)
    (he : ∀ stdout stderr, Gives (dialect.issues stdout stderr) fun found => ∀ issue ∈ found, kind.Explains issue)
    (announcement tool : String) (arguments : List String) :
    (place.ask announcement tool arguments dialect).Yields (LeavesOutOrTells kind) := by
  refine .bind fun _ => .bind fun output => .bind fun _ => .ofOutcome ?_
  exact .bind_of (he _ _) fun found hfound => .ok (.inr (summarises_ofIssues hfound (hs found).symm _ _ _))

/-- So is the answer of a tool all of whose errors are counted by the first number. -/
theorem askErrors_tells {Payload : Type} {dialect : Dialect Payload} {label : String}
    (he : kind.failing = [.ofSeverity .error label]) (hs : ∀ issues, kind.summaryOf issues = dialect.summary issues)
    (announcement tool : String) (arguments : List String) :
    (place.ask announcement tool arguments dialect).Yields (LeavesOutOrTells kind) :=
  ask_tells hs (fun _ _ _ _ issue _ => CheckKind.explains_of_failing he issue) announcement tool arguments

/-- The check of boundaries is left out or told. -/
theorem checkBoundaries_tells : (place.checkBoundaries settings).Yields (LeavesOutOrTells .architecture) := by
  unfold checkBoundaries
  split
  · refine askErrors_tells rfl (fun issues => ?_) _ _ _
    rw [CheckKind.summaryOf_two rfl]
    rfl
  · exact .pure (.inl rfl)

/-- The search for duplicates is told, with what the statistics say among its issues. -/
theorem findDuplicates_tells : (place.findDuplicates settings).Yields (LeavesOutOrTells .jscpd) := by
  refine .bind fun _ => .bind fun _ => .bind fun _ => .bind fun _ => ?_
  refine .bind_of (.ofOutcome (Jscpd.issues_warnings _ _ _)) fun found hfound => .bind fun text => ?_
  refine .bind_of (.ofOutcome fun _ => Jscpd.isNote_of_statisticsIssues) fun further hfurther => .pure (.inr ?_)
  refine summarises_ofIssues (fun issue hissue => CheckKind.explains_jscpd ?_) ?_ _ _ _
  · rcases List.mem_append.mp hissue with hin | hin
    · rw [hfound issue hin]
      exact Severity.noConfusion
    · rw [(hfurther.2 issue hin).1]
      exact Severity.noConfusion
  · rw [CheckKind.summaryOf_one rfl]
    rfl

/-- The look at dependencies is told. -/
theorem lookAtDependencies_tells : (place.lookAtDependencies settings).Yields (LeavesOutOrTells .madge) := by
  refine .bind fun _ => .bind fun _ => .bind fun _ => .bind fun _ => .bind fun _ => .ofOutcome ?_
  refine .bind fun _ => .bind fun _ => .ok (.inr (summarises_ofIssues (fun issue _ => ?_) ?_ _ _ _))
  · exact CheckKind.explains_of_failing rfl issue
  · rw [CheckKind.summaryOf_two rfl]
    rfl

/-- Sources are told by the errors of two rules and by the warnings. -/
theorem measureSource_tells : (place.measureSource settings).Yields (LeavesOutOrTells .complexity) := by
  refine .bind fun _ => .bind fun _ => .bind fun _ => .bind fun _ => .pure (.inr ?_)
  refine summarises_ofIssues (fun issue hissue => CheckKind.explains_of_rules rfl fun herror => ?_) ?_ _ _ _
  · obtain ⟨profile, -, hin⟩ := List.mem_flatMap.mp hissue
    exact profile.rule_of_error hin herror
  · rw [CheckKind.summaryOf_three rfl]
    rfl

/-- So are folders. -/
theorem measureFolders_tells : (place.measureFolders settings).Yields (LeavesOutOrTells .folders) := by
  refine .bind fun _ => .bind fun folders => .bind fun _ => .pure (.inr ?_)
  have hfurther : ∀ issue ∈ Folder.featureIssues place.tree settings.rootPath settings.sourcePath,
      issue.severity = .warning := by
    intro issue hissue
    obtain ⟨path, feature, count, rfl⟩ := Folder.exists_of_mem_featureIssues hissue
    rfl
  refine summarises_ofIssues (fun issue hissue => CheckKind.explains_of_rules rfl fun herror => ?_) ?_ _ _ _
  · rcases List.mem_append.mp hissue with hin | hin
    · obtain ⟨folder, -, hin⟩ := List.mem_flatMap.mp hin
      exact Folder.rule_of_error hin herror
    · rw [hfurther issue hin] at herror
      cases herror
  · exact Folder.summary_eq folders hfurther

/-- Whatever an attempt at a check gives is left out or told. -/
theorem attempt_tells : (place.attempt settings flags kind).Yields (LeavesOutOrTells kind) := by
  unfold attempt
  by_cases hq : (flags.quick && kind.isSlow) = true
  · rw [if_pos hq]
    exact .pure (.inl rfl)
  · rw [if_neg hq]
    cases kind with
    | oxlint =>
      refine askErrors_tells rfl (fun issues => ?_) _ _ _
      rw [CheckKind.summaryOf_two rfl]
      rfl
    | eslint =>
      refine askErrors_tells rfl (fun issues => ?_) _ _ _
      rw [CheckKind.summaryOf_two rfl]
      rfl
    | knip =>
      refine askErrors_tells rfl (fun issues => ?_) _ _ _
      rw [CheckKind.summaryOf_three rfl]
      rfl
    | jscpd => exact findDuplicates_tells
    | madge => exact lookAtDependencies_tells
    | typeScript =>
      refine ask_tells (fun issues => ?_) (fun stdout stderr => ?_) _ _ _
      · rw [CheckKind.summaryOf_one rfl, Tally.number, List.countP_true]
        rfl
      · exact (TypeScript.issues_errors _ stdout stderr).mono fun found herrors issue hissue =>
          CheckKind.explains_typeScript.mpr (herrors issue hissue)
    | complexity => exact measureSource_tells
    | architecture => exact checkBoundaries_tells
    | folders => exact measureFolders_tells

/-- Every check of a run failed on the way, is left out, or is told by the numbers in its summary. -/
theorem tells_examine : place.Tells settings flags kind (place.examine settings flags kind).check := by
  cases hr : (place.attempt settings flags kind).result with
  | ok check =>
    rw [examine_of_ok hr]
    exact (attempt_tells check hr).elim .leftOut .told
  | error fault => exact .crashed hr (examine_of_error hr)

/-- In every run the summaries agree with the issues, check by check. -/
theorem summaries_of_run (place : Workplace) (settings : Settings) (flags : RunFlags) (timestamp : String) :
    List.Forall₂ (place.Tells settings flags) CheckKind.all (place.run settings flags timestamp).report.checks := by
  rw [checks_run, List.forall₂_map_right_iff, List.forall₂_same]
  exact fun kind _ => tells_examine

end Workplace

end Checkup
