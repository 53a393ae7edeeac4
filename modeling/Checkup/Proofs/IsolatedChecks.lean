import Mathlib.Data.List.Flatten
import Checkup.Proofs.Grading
import Checkup.Proofs.RunReports

/-!
# Checks that keep to themselves

Each check asks one tool, and what it gives depends on the answers of that tool alone.
So a tool that answers otherwise, or not at all, changes its own check and its own
calls, and nothing else of a run. Letting the fast linter mend what it can changes
one argument of one call.

A quick run leaves the slow checks out and makes all others as a full run does. So it
finds nothing that a full run does not find, its grade is no worse, and its calls are
the calls of the full run to the tools of the checks that are left.

No call is made twice in a run, so it is no loss that the answer of a tool depends on
nothing but the call.
-/

namespace Checkup

/-- The tool that a check asks, if it asks one. -/
def CheckKind.tool? : CheckKind → Option String
  | oxlint => some "oxlint"
  | eslint => some "eslint"
  | knip => some "knip"
  | jscpd => some "jscpd"
  | madge => some "madge"
  | typeScript => some "turbo"
  | architecture => some "dependency-cruiser"
  | complexity | folders => none

/-! ## Calls -/

namespace Attempt

variable {α β : Type}

/-- Every call of an attempt goes to the given tool. -/
def AsksOnly (attempt : Attempt α) (tool? : Option String) : Prop :=
  ∀ call ∈ attempt.calls, some call.tool = tool?

/-- Work without calls asks nobody. -/
theorem AsksOnly.of_calls {attempt : Attempt α} (h : attempt.calls = []) (tool? : Option String) :
    attempt.AsksOnly tool? := by
  intro call hc
  rw [h] at hc
  cases hc

/-- A call asks the tool it goes to. -/
theorem AsksOnly.call (tools : Tools) (tool : String) (arguments : List String) :
    (Attempt.call tools tool arguments).AsksOnly (some tool) := by
  intro call hc
  rw [List.mem_singleton.mp hc]

/-- One piece of work after another asks whom both of them ask, also if the second is
never reached. -/
theorem AsksOnly.bind {tool? : Option String} {first : Attempt α} {next : α → Attempt β}
    (hfirst : first.AsksOnly tool?) (hnext : ∀ value, (next value).AsksOnly tool?) :
    (first >>= next).AsksOnly tool? := by
  obtain ⟨outcome, calls, notes⟩ := first
  intro call hc
  cases outcome with
  | ok value =>
    rcases List.mem_append.mp hc with hcall | hcall
    · exact hfirst call hcall
    · exact hnext value call hcall
  | error fault => exact hfirst call hc

end Attempt

namespace Workplace

variable {place : Workplace} {settings : Settings} {flags : RunFlags}

/-- A check that asks a tool asks no other. -/
theorem ask_asksOnly {Payload : Type} (announcement tool : String) (arguments : List String)
    (dialect : Dialect Payload) :
    (place.ask announcement tool arguments dialect).AsksOnly (some tool) :=
  .bind (.of_calls rfl _) fun _ => .bind (.call _ _ _) fun _ => .bind (.of_calls rfl _) fun _ =>
    .of_calls rfl _

/-- The text of the statistics is read without any tool. -/
theorem calls_statisticsText : (place.statisticsText settings).calls = [] := by
  unfold statisticsText
  dsimp only
  split <;> rfl

/-- The search for duplicates asks its own tool alone. -/
theorem findDuplicates_asksOnly : (place.findDuplicates settings).AsksOnly (some "jscpd") :=
  .bind (.of_calls rfl _) fun _ => .bind (.of_calls rfl _) fun _ => .bind (.call _ _ _) fun _ =>
    .bind (.of_calls rfl _) fun _ => .bind (.of_calls rfl _) fun _ =>
      .bind (.of_calls calls_statisticsText _) fun _ => .bind (.of_calls rfl _) fun _ => .of_calls rfl _

/-- The look at dependencies asks its own tool alone, twice. -/
theorem lookAtDependencies_asksOnly : (place.lookAtDependencies settings).AsksOnly (some "madge") :=
  .bind (.of_calls rfl _) fun _ => .bind (.call _ _ _) fun _ => .bind (.call _ _ _) fun _ =>
    .bind (.of_calls rfl _) fun _ => .bind (.of_calls rfl _) fun _ => .of_calls rfl _

/-- The check of boundaries asks its own tool alone, if it asks at all. -/
theorem checkBoundaries_asksOnly :
    (place.checkBoundaries settings).AsksOnly (some "dependency-cruiser") := by
  unfold checkBoundaries
  split
  · exact ask_asksOnly _ _ _ _
  · exact .of_calls rfl _

/-- Every call of a check goes to the tool of the check. -/
theorem attempt_asksOnly (kind : CheckKind) :
    (place.attempt settings flags kind).AsksOnly kind.tool? := by
  unfold attempt
  by_cases hq : (flags.quick && kind.isSlow) = true
  · rw [if_pos hq]
    exact .of_calls rfl _
  · rw [if_neg hq]
    cases kind with
    | oxlint => exact ask_asksOnly _ _ _ _
    | eslint => exact ask_asksOnly _ _ _ _
    | knip => exact ask_asksOnly _ _ _ _
    | jscpd => exact findDuplicates_asksOnly
    | madge => exact lookAtDependencies_asksOnly
    | typeScript => exact ask_asksOnly _ _ _ _
    | complexity =>
      exact .bind (.of_calls rfl _) fun _ => .bind (.of_calls rfl _) fun _ =>
        .bind (.of_calls rfl _) fun _ => .bind (.of_calls rfl _) fun _ => .of_calls rfl _
    | architecture => exact checkBoundaries_asksOnly
    | folders =>
      exact .bind (.of_calls rfl _) fun _ => .bind (.of_calls rfl _) fun _ =>
        .bind (.of_calls rfl _) fun _ => .of_calls rfl _

/-! ## A quick run beside a full one -/

/-- A check that is not slow is made in the same way by a quick run. -/
theorem attempt_quick_of_not_slow {kind : CheckKind} (h : kind.isSlow = false) (fix : Bool) :
    place.attempt settings { quick := true, fix } kind = place.attempt settings { fix } kind := by
  unfold attempt
  rw [h]
  rfl

/-- A slow check is left out by a quick run, whatever it would have met. -/
theorem attempt_quick_of_slow {kind : CheckKind} (h : kind.isSlow = true) (fix : Bool) :
    place.attempt settings { quick := true, fix } kind =
      .pure (.skipped kind.name quickReason [] (.int 0)) := by
  unfold attempt
  rw [h]
  rfl

/-- A check that is not slow is the same in both runs. -/
theorem check_examine_quick_of_not_slow {kind : CheckKind} (h : kind.isSlow = false) (fix : Bool) :
    (place.examine settings { quick := true, fix } kind).check =
      (place.examine settings { fix } kind).check := by
  unfold examine
  rw [attempt_quick_of_not_slow h]

/-- A slow check has no issues in a quick run. -/
theorem check_examine_quick_of_slow {kind : CheckKind} (h : kind.isSlow = true) (fix : Bool) :
    (place.examine settings { quick := true, fix } kind).check =
      .skipped kind.name quickReason [] (.int 0) := by
  refine examine_of_ok ?_
  rw [attempt_quick_of_slow h]
  rfl

/-- The issues of a check in a quick run are among those of the full run, in their order. -/
theorem issues_examine_quick_sublist (kind : CheckKind) (fix : Bool) :
    List.Sublist (place.examine settings { quick := true, fix } kind).check.issues
      (place.examine settings { fix } kind).check.issues := by
  by_cases h : kind.isSlow = true
  · rw [check_examine_quick_of_slow h]
    exact List.nil_sublist _
  · simp only [check_examine_quick_of_not_slow (Bool.eq_false_iff.mpr h), List.Sublist.refl]

/-- The calls of a quick run for one check are those of the full run, if they go to the
tool of a check that is not slow. -/
theorem calls_attempt_quick (kind : CheckKind) (fix : Bool) :
    (place.attempt settings { quick := true, fix } kind).calls =
      (place.attempt settings { fix } kind).calls.filter fun call =>
        call.tool ∈ ["oxlint", "eslint", "knip", "turbo"] := by
  have hasks : (place.attempt settings { fix } kind).AsksOnly kind.tool? := attempt_asksOnly kind
  by_cases h : kind.isSlow = true
  · rw [attempt_quick_of_slow h]
    refine (List.filter_eq_nil_iff.mpr fun call hc => ?_).symm
    have htool := hasks call hc
    cases kind with
    | jscpd | madge | architecture =>
      rw [Option.some.inj htool]
      decide
    | oxlint | eslint | knip | typeScript | complexity | folders => cases h
  · rw [attempt_quick_of_not_slow (Bool.eq_false_iff.mpr h)]
    refine (List.filter_eq_self.mpr fun call hc => ?_).symm
    have htool := hasks call hc
    cases kind with
    | oxlint | eslint | knip | typeScript =>
      rw [Option.some.inj htool]
      decide
    | complexity | folders => cases htool
    | jscpd | madge | architecture => exact absurd rfl h

/-- The checks of a run with certain names are those of the kinds with these names. -/
theorem filter_checks_run (names : List String) (timestamp : String) :
    (place.run settings flags timestamp).report.checks.filter (fun check => check.name ∈ names) =
      (CheckKind.all.filter fun kind => kind.name ∈ names).map fun kind =>
        (place.examine settings flags kind).check := by
  have hname : ∀ kind, (place.examine settings flags kind).check.name = kind.name :=
    fun kind => admits_examine.name
  rw [checks_run, List.filter_map]
  simp only [Function.comp_def, hname]

end Workplace

/-! ## What a quick run keeps -/

/-- What a quick run is beside the full run over the same code. -/
structure Run.IsPartOf (quick full : Run) : Prop where
  /-- The checks that are not slow are the same in both. -/
  kept : let names := ["Linting (oxlint)", "Import & Complexity (ESLint)", "Dead Code (knip)",
      "TypeScript Types", "Complexity Analysis", "Structure Analysis"]
    quick.report.checks.filter (fun check => check.name ∈ names) =
        full.report.checks.filter (fun check => check.name ∈ names) ∧
      (quick.report.checks.filter fun check => check.name ∈ names).map Check.name = names
  /-- The slow checks are left out without issues. -/
  leftOut : let names := ["Duplicate Code (jscpd)", "Dependency Graph (madge)", "Architecture Boundaries"]
    quick.report.checks.filter (fun check => check.name ∈ names) =
      names.map fun name => .skipped name "Skipped (--quick mode)" [] (.int 0)
  /-- No severity has more issues. -/
  totals : quick.report.totals.errors ≤ full.report.totals.errors ∧
    quick.report.totals.warnings ≤ full.report.totals.warnings ∧
      quick.report.totals.infos ≤ full.report.totals.infos
  /-- The grade is no worse. -/
  grade : quick.report.grade.rank ≤ full.report.grade.rank
  /-- The exit code is no greater. -/
  exitCode : quick.report.exitCode ≤ full.report.exitCode
  /-- The calls are those to the tools of the checks that are not slow. -/
  calls : quick.calls = full.calls.filter fun call =>
    call.tool ∈ ["oxlint", "eslint", "knip", "turbo"]

namespace Workplace

variable (place : Workplace) (settings : Settings)

/-- A quick run has no more issues of any severity. -/
theorem count_run_quick_le (fix : Bool) (timestamp : String) (severity : Severity) :
    Issue.count severity
        ((place.run settings { quick := true, fix } timestamp).report.checks.flatMap Check.issues) ≤
      Issue.count severity ((place.run settings { fix } timestamp).report.checks.flatMap Check.issues) := by
  rw [checks_run, checks_run, List.flatMap_map, List.flatMap_map]
  exact (List.Sublist.flatMap_right _ fun kind _ => issues_examine_quick_sublist kind fix).countP_le

/-- The checks that are not slow are the same in a quick run and in the full one. -/
theorem filter_checks_run_quick {names : List String}
    (h : (CheckKind.all.filter fun kind => kind.name ∈ names) = CheckKind.all.filter fun kind => !kind.isSlow)
    (fix : Bool) (timestamp : String) :
    (place.run settings { quick := true, fix } timestamp).report.checks.filter (fun check =>
        check.name ∈ names) =
      (place.run settings { fix } timestamp).report.checks.filter fun check => check.name ∈ names := by
  rw [filter_checks_run, filter_checks_run, h]
  refine List.map_congr_left fun kind hk => ?_
  have hfast : kind.isSlow = false := by simpa using (List.mem_filter.mp hk).2
  exact check_examine_quick_of_not_slow hfast fix

/-- A quick run is part of the full run with the same settings, tools and files. -/
theorem isPartOf_run_quick (fix : Bool) (timestamp : String) :
    (place.run settings { quick := true, fix } timestamp).IsPartOf
      (place.run settings { quick := false, fix } timestamp) where
  kept := by
    refine ⟨place.filter_checks_run_quick settings (by decide) fix timestamp, ?_⟩
    rw [filter_checks_run, List.map_map]
    have hname : (Check.name ∘ fun kind => (place.examine settings { quick := true, fix } kind).check) =
        CheckKind.name := funext fun kind => admits_examine.name
    rw [hname]
    rfl
  leftOut := by
    have hskipped : ∀ kind ∈ [CheckKind.jscpd, .madge, .architecture],
        (place.examine settings { quick := true, fix } kind).check =
          .skipped kind.name quickReason [] (.int 0) := by
      intro kind hk
      refine check_examine_quick_of_slow ?_ fix
      revert kind
      decide
    exact (filter_checks_run _ _).trans (List.map_congr_left hskipped)
  totals := ⟨place.count_run_quick_le settings fix timestamp .error,
    place.count_run_quick_le settings fix timestamp .warning,
    place.count_run_quick_le settings fix timestamp .info⟩
  grade := Grade.rank_ofCounts_le
    (Int.ofNat_le.mpr (place.count_run_quick_le settings fix timestamp .error))
    (Int.ofNat_le.mpr (place.count_run_quick_le settings fix timestamp .warning))
    (Int.natCast_nonneg _) (Int.natCast_nonneg _)
  exitCode := Report.exitCode_le (place.count_run_quick_le settings fix timestamp .error)
  calls := by
    rw [calls_run, calls_run, List.filter_flatMap]
    exact congrArg (List.flatMap · CheckKind.all) (funext fun kind => calls_attempt_quick kind fix)

end Workplace

/-! ## Tools that answer otherwise -/

/-- Tools that answer alike, but for one of them. -/
def Tools.AgreeBut (tool : String) (first second : Tools) : Prop :=
  ∀ call, call.tool ≠ tool → first call = second call

/-- A call to any other tool is answered alike. -/
theorem Tools.AgreeBut.call_eq {tool : String} {first second : Tools} (h : AgreeBut tool first second)
    {asked : String} (hne : asked ≠ tool) (arguments : List String) :
    Attempt.call second asked arguments = Attempt.call first asked arguments := by
  have hanswer : first ⟨asked, arguments⟩ = second ⟨asked, arguments⟩ := h ⟨asked, arguments⟩ hne
  rw [Attempt.call, Attempt.call, hanswer]

namespace Workplace

variable {place : Workplace} {settings : Settings} {flags : RunFlags} {tools : Tools} {tool : String}

/-- A check that asks another tool hears the same. -/
theorem ask_of_agreeBut (h : Tools.AgreeBut tool place.tools tools) {asked : String} (hne : asked ≠ tool)
    {Payload : Type} (announcement : String) (arguments : List String) (dialect : Dialect Payload) :
    { place with tools }.ask announcement asked arguments dialect =
      place.ask announcement asked arguments dialect := by
  unfold ask
  rw [h.call_eq hne]
  rfl

/-- The search for duplicates depends on its own tool alone. -/
theorem findDuplicates_of_agreeBut (h : Tools.AgreeBut tool place.tools tools) (hne : "jscpd" ≠ tool) :
    { place with tools }.findDuplicates settings = place.findDuplicates settings := by
  unfold findDuplicates
  simp only [h.call_eq hne]
  rfl

/-- The look at dependencies depends on its own tool alone. -/
theorem lookAtDependencies_of_agreeBut (h : Tools.AgreeBut tool place.tools tools) (hne : "madge" ≠ tool) :
    { place with tools }.lookAtDependencies settings = place.lookAtDependencies settings := by
  unfold lookAtDependencies
  rw [h.call_eq hne, h.call_eq hne]
  rfl

/-- The check of boundaries depends on its own tool alone. -/
theorem checkBoundaries_of_agreeBut (h : Tools.AgreeBut tool place.tools tools)
    (hne : "dependency-cruiser" ≠ tool) :
    { place with tools }.checkBoundaries settings = place.checkBoundaries settings := by
  unfold checkBoundaries
  rw [ask_of_agreeBut h hne]
  rfl

/-- An attempt at a check depends on the tool of the check alone. -/
theorem attempt_of_agreeBut (h : Tools.AgreeBut tool place.tools tools) {kind : CheckKind}
    (hk : kind.tool? ≠ some tool) :
    { place with tools }.attempt settings flags kind = place.attempt settings flags kind := by
  have hne : ∀ asked, kind.tool? = some asked → asked ≠ tool := by
    rintro asked hasked rfl
    exact hk hasked
  unfold attempt
  by_cases hq : (flags.quick && kind.isSlow) = true
  · rw [if_pos hq, if_pos hq]
  · rw [if_neg hq, if_neg hq]
    cases kind with
    | oxlint => exact ask_of_agreeBut h (hne _ rfl) _ _ _
    | eslint => exact ask_of_agreeBut h (hne _ rfl) _ _ _
    | knip => exact ask_of_agreeBut h (hne _ rfl) _ _ _
    | jscpd => exact findDuplicates_of_agreeBut h (hne _ rfl)
    | madge => exact lookAtDependencies_of_agreeBut h (hne _ rfl)
    | typeScript => exact ask_of_agreeBut h (hne _ rfl) _ _ _
    | complexity => rfl
    | architecture => exact checkBoundaries_of_agreeBut h (hne _ rfl)
    | folders => rfl

/-- Without the calls to the tool that answers otherwise, the calls for a check are the same. -/
theorem filter_calls_of_agreeBut (h : Tools.AgreeBut tool place.tools tools) (kind : CheckKind) :
    ({ place with tools }.attempt settings flags kind).calls.filter (fun call => call.tool ≠ tool) =
      (place.attempt settings flags kind).calls.filter fun call => call.tool ≠ tool := by
  by_cases hk : kind.tool? = some tool
  · have hnone : ∀ other : Workplace,
        (other.attempt settings flags kind).calls.filter (fun call => call.tool ≠ tool) = [] := by
      intro other
      refine List.filter_eq_nil_iff.mpr fun call hc => ?_
      have hasks := attempt_asksOnly kind call hc
      rw [hk] at hasks
      simpa using Option.some.inj hasks
    rw [hnone, hnone]
  · rw [attempt_of_agreeBut h hk]

/-! ## Mending -/

/-- Whether the fast linter may mend matters to no check but its own. -/
theorem attempt_fix {kind : CheckKind} (h : kind ≠ .oxlint) (quick : Bool) :
    place.attempt settings { quick, fix := true } kind =
      place.attempt settings { quick, fix := false } kind := by
  cases kind with
  | oxlint => exact absurd rfl h
  | eslint | knip | jscpd | madge | typeScript | complexity | architecture | folders => rfl

/-- A check that asks a tool calls it once, however the tool answers. -/
theorem calls_ask {Payload : Type} (announcement asked : String) (arguments : List String)
    (dialect : Dialect Payload) :
    (place.ask announcement asked arguments dialect).calls = [⟨asked, arguments⟩] := by
  unfold ask Attempt.call
  cases place.tools ⟨asked, arguments⟩ with
  | ok output => rfl
  | error fault => rfl

/-- The calls of a run start with the one call to the fast linter. -/
theorem calls_run_eq_cons (quick fix : Bool) (timestamp : String) :
    (place.run settings { quick, fix } timestamp).calls =
      ⟨"oxlint", oxlintArguments fix⟩ ::
        CheckKind.all.tail.flatMap fun kind => (place.attempt settings { quick, fix } kind).calls := by
  have hlinter : (place.attempt settings { quick, fix } .oxlint).calls =
      [⟨"oxlint", oxlintArguments fix⟩] := by
    unfold attempt
    rw [if_neg (by simp [CheckKind.isSlow])]
    exact calls_ask _ _ _ _
  rw [calls_run]
  change (place.attempt settings { quick, fix } .oxlint).calls ++ _ = _
  rw [hlinter]
  rfl

/-! ## Planned calls -/

/-- The search for duplicates plans a call if its arguments can be written. -/
def duplicateCalls : Outcome (List String) → List ToolCall
  | .ok arguments => [⟨"jscpd", arguments⟩]
  | .error _ => []

/-- The calls that a check plans to make. It may be cut short: by a quick run, by
boundaries that nobody defined, or by a tool that refuses. -/
def plannedCalls (settings : Settings) (fix : Bool) : CheckKind → List ToolCall
  | .oxlint => [⟨"oxlint", oxlintArguments fix⟩]
  | .eslint => [⟨"eslint", eslintArguments⟩]
  | .knip => [⟨"knip", ["--reporter", "json"]⟩]
  | .jscpd => duplicateCalls (jscpdArguments settings)
  | .madge =>
    [⟨"madge", madgeArguments settings "--orphans"⟩, ⟨"madge", madgeArguments settings "--circular"⟩]
  | .typeScript => [⟨"turbo", ["check-types", "--output-logs=errors-only"]⟩]
  | .architecture => [⟨"dependency-cruiser", architectureArguments settings⟩]
  | .complexity | .folders => []

end Workplace

namespace Attempt

variable {α β : Type} {plan further : List ToolCall}

/-- The calls of an attempt are planned ones, in the order of the plan. -/
def Follows (attempt : Attempt α) (plan : List ToolCall) : Prop := attempt.calls.Sublist plan

/-- Work without calls follows every plan. -/
theorem Follows.of_calls {attempt : Attempt α} (h : attempt.calls = []) (plan : List ToolCall) :
    attempt.Follows plan := by
  unfold Follows
  rw [h]
  exact List.nil_sublist plan

/-- One piece of work after another follows one plan after the other. -/
theorem Follows.bind {first : Attempt α} {next : α → Attempt β} (hfirst : first.Follows plan)
    (hnext : ∀ value, (next value).Follows further) : (first >>= next).Follows (plan ++ further) := by
  obtain ⟨outcome, calls, notes⟩ := first
  cases outcome with
  | ok value => exact List.Sublist.append hfirst (hnext value)
  | error fault => exact List.Sublist.trans hfirst (List.sublist_append_left plan further)

/-- Work without calls leaves the whole plan to what comes after it. -/
theorem Follows.bind_of_calls {first : Attempt α} {next : α → Attempt β} (hfirst : first.calls = [])
    (hnext : ∀ value, (next value).Follows plan) : (first >>= next).Follows plan :=
  .bind (.of_calls hfirst []) hnext

/-- A call that is planned first leaves the others to what comes after it. -/
theorem Follows.bind_call {tools : Tools} {tool : String} {arguments : List String}
    {next : ToolOutput → Attempt β} (hnext : ∀ output, (next output).Follows plan) :
    (Attempt.call tools tool arguments >>= next).Follows (⟨tool, arguments⟩ :: plan) := by
  have hcall : (Attempt.call tools tool arguments).Follows [⟨tool, arguments⟩] := List.Sublist.refl _
  exact hcall.bind hnext

end Attempt

namespace Workplace

variable {place : Workplace} {settings : Settings} {flags : RunFlags}

/-- A check that asks a tool plans its one call. -/
theorem ask_follows {Payload : Type} (announcement asked : String) (arguments : List String)
    (dialect : Dialect Payload) :
    (place.ask announcement asked arguments dialect).Follows [⟨asked, arguments⟩] := by
  have hcalls : (place.ask announcement asked arguments dialect).calls = [⟨asked, arguments⟩] :=
    calls_ask announcement asked arguments dialect
  exact hcalls ▸ List.Sublist.refl _

/-- The search for duplicates follows its plan, in which no call stands if the
arguments cannot be written. -/
theorem findDuplicates_follows (fix : Bool) :
    (place.findDuplicates settings).Follows (plannedCalls settings fix .jscpd) := by
  change (place.findDuplicates settings).Follows (duplicateCalls (jscpdArguments settings))
  unfold findDuplicates
  cases jscpdArguments settings with
  | error fault => exact .of_calls rfl _
  | ok arguments =>
    have hmade : Attempt.ofOutcome (.ok arguments) = pure arguments := rfl
    refine .bind_of_calls rfl fun _ => ?_
    rw [hmade, pure_bind]
    exact .bind_call fun _ => .bind_of_calls rfl fun _ => .bind_of_calls rfl fun _ =>
      .bind_of_calls calls_statisticsText fun _ => .bind_of_calls rfl fun _ => .of_calls rfl _

/-- The look at dependencies follows its plan of two calls. -/
theorem lookAtDependencies_follows (fix : Bool) :
    (place.lookAtDependencies settings).Follows (plannedCalls settings fix .madge) :=
  .bind_of_calls rfl fun _ => .bind_call fun _ => .bind_call fun _ => .bind_of_calls rfl fun _ =>
    .bind_of_calls rfl fun _ => .of_calls rfl _

/-- The check of boundaries follows its plan, whether they are defined or not. -/
theorem checkBoundaries_follows (fix : Bool) :
    (place.checkBoundaries settings).Follows (plannedCalls settings fix .architecture) := by
  unfold checkBoundaries
  split
  · exact ask_follows _ _ _ _
  · exact .of_calls rfl _

/-- An attempt at a check makes no calls but those that the check plans. -/
theorem attempt_follows (kind : CheckKind) :
    (place.attempt settings flags kind).Follows (plannedCalls settings flags.fix kind) := by
  unfold attempt
  by_cases hq : (flags.quick && kind.isSlow) = true
  · rw [if_pos hq]
    exact .of_calls rfl _
  · rw [if_neg hq]
    cases kind with
    | oxlint => exact ask_follows _ _ _ _
    | eslint => exact ask_follows _ _ _ _
    | knip => exact ask_follows _ _ _ _
    | jscpd => exact findDuplicates_follows flags.fix
    | madge => exact lookAtDependencies_follows flags.fix
    | typeScript => exact ask_follows _ _ _ _
    | complexity =>
      exact .bind_of_calls rfl fun _ => .bind_of_calls rfl fun _ => .bind_of_calls rfl fun _ =>
        .bind_of_calls rfl fun _ => .of_calls rfl _
    | architecture => exact checkBoundaries_follows flags.fix
    | folders =>
      exact .bind_of_calls rfl fun _ => .bind_of_calls rfl fun _ => .bind_of_calls rfl fun _ =>
        .of_calls rfl _

/-- No two planned calls are the same. -/
theorem nodup_plannedCalls (settings : Settings) (fix : Bool) :
    (CheckKind.all.flatMap (plannedCalls settings fix)).Nodup := by
  -- For any arguments, since whether they can be written does not matter here.
  have hplan : ∀ made, ([CheckKind.oxlint, .eslint, .knip].flatMap (plannedCalls settings fix) ++
      (duplicateCalls made ++ [CheckKind.madge, .typeScript, .complexity, .architecture, .folders].flatMap
        (plannedCalls settings fix))).Nodup := by
    intro made
    cases made <;> simp [plannedCalls, duplicateCalls, madgeArguments]
  exact hplan (jscpdArguments settings)

/-- No call is made twice in a run. -/
theorem nodup_calls_run (timestamp : String) : (place.run settings flags timestamp).calls.Nodup := by
  rw [calls_run]
  refine List.Nodup.sublist ?_ (nodup_plannedCalls settings flags.fix)
  exact List.Sublist.flatMap_right _ fun kind _ => attempt_follows kind

end Workplace

/-! ## Runs with tools that answer otherwise -/

/-- What two runs share whose tools answer alike, but for one of them. -/
structure Run.AgreesBut (tool : String) (first second : Run) : Prop where
  /-- A check that does not ask this tool is the same in both reports, and stands in the
  same place. -/
  checks : ∀ (i : Nat) (kind : CheckKind), CheckKind.all[i]? = some kind → kind.tool? ≠ some tool →
    ∃ check : Check, check.name = kind.name ∧ first.report.checks[i]? = some check ∧
      second.report.checks[i]? = some check
  /-- All other tools are called with the same arguments in the same order. -/
  calls : first.calls.filter (fun call => call.tool ≠ tool) =
    second.calls.filter fun call => call.tool ≠ tool

namespace Workplace

variable {place : Workplace} {tools : Tools} {tool : String}

/-- Two runs share what does not belong to the one tool that answers otherwise. -/
theorem run_agreesBut (h : Tools.AgreeBut tool place.tools tools) (settings : Settings) (flags : RunFlags)
    (timestamp later : String) :
    Run.AgreesBut tool (place.run settings flags timestamp)
      ({ place with tools }.run settings flags later) where
  checks i kind hi hk := by
    have hattempt : { place with tools }.attempt settings flags kind = place.attempt settings flags kind :=
      attempt_of_agreeBut h hk
    have hsame : ({ place with tools }.examine settings flags kind).check =
        (place.examine settings flags kind).check := by
      unfold examine
      rw [hattempt]
    refine ⟨(place.examine settings flags kind).check, admits_examine.name, ?_, ?_⟩
    · rw [checks_run, List.getElem?_map, hi, Option.map_some]
    · rw [checks_run, List.getElem?_map, hi, Option.map_some, hsame]
  calls := by
    rw [calls_run, calls_run, List.filter_flatMap, List.filter_flatMap]
    exact congrArg (List.flatMap · CheckKind.all)
      (funext fun kind => (filter_calls_of_agreeBut h kind).symm)

/-- Calls that come after the one to the fast linter go to other tools. -/
theorem tool_ne_of_mem_tail {settings : Settings} {flags : RunFlags} {call : ToolCall}
    (h : call ∈ CheckKind.all.tail.flatMap fun kind => (place.attempt settings flags kind).calls) :
    call.tool ≠ "oxlint" := by
  obtain ⟨kind, hk, hcall⟩ := List.mem_flatMap.mp h
  have hother : ∀ other ∈ CheckKind.all.tail, other.tool? ≠ some "oxlint" := by decide
  intro htool
  have hasks := attempt_asksOnly kind call hcall
  rw [htool] at hasks
  exact hother kind hk hasks.symm

/-- A tool that answers otherwise matters to its own check and its own calls alone. No
call is made twice, and a run that mends differs from one that does not in one argument
of the one call to the fast linter. -/
theorem isolated_run (h : Tools.AgreeBut tool place.tools tools) (settings : Settings) (flags : RunFlags)
    (timestamp later : String) :
    Run.AgreesBut tool (place.run settings flags timestamp)
        ({ place with tools }.run settings flags later) ∧
      (place.run settings flags timestamp).calls.Nodup ∧
        ∀ quick, ∃ others,
          (place.run settings { quick, fix := false } timestamp).calls =
              ⟨"oxlint", ["--format", "json"]⟩ :: others ∧
            (place.run settings { quick, fix := true } timestamp).calls =
                ⟨"oxlint", ["--format", "json", "--fix"]⟩ :: others ∧
              ∀ call ∈ others, call.tool ≠ "oxlint" := by
  refine ⟨run_agreesBut h settings flags timestamp later, nodup_calls_run timestamp, fun quick => ?_⟩
  have hsame : ∀ kind ∈ CheckKind.all.tail, (place.attempt settings { quick, fix := true } kind).calls =
      (place.attempt settings { quick, fix := false } kind).calls := by
    have hne : ∀ kind ∈ CheckKind.all.tail, kind ≠ .oxlint := by decide
    intro kind hk
    rw [attempt_fix (hne kind hk)]
  refine ⟨_, calls_run_eq_cons quick false timestamp, ?_, fun call hc => tool_ne_of_mem_tail hc⟩
  rw [calls_run_eq_cons, List.flatMap_def, List.map_congr_left hsame, ← List.flatMap_def]
  rfl

/-- Where the tool for dependencies is missing, its second call is not made, and every
other check is as it would be with all tools there. -/
theorem isolated_run_missing_tool :
    let place : Workplace := { tree := ⟨.folder [], []⟩, tools := fun _ => .ok {} }
    let tools : Tools := fun call =>
      if call.tool = "madge" then .error (.toolNotFound "no madge") else .ok {}
    Tools.AgreeBut "madge" place.tools tools ∧
      (place.attempt {} {} .madge).calls.length = 2 ∧
        ({ place with tools }.attempt {} {} .madge).calls.length = 1 ∧
          Run.AgreesBut "madge" (place.run {} {} "now") ({ place with tools }.run {} {} "later") := by
  intro place tools
  have hagree : Tools.AgreeBut "madge" place.tools tools := fun call hne => (if_neg hne).symm
  exact ⟨hagree, rfl, rfl, (isolated_run hagree {} {} "now" "later").1⟩

end Workplace

end Checkup
