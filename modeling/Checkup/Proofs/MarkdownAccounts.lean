import Mathlib.Data.List.Forall2
import Checkup.Proofs.MarkdownSections

/-!
# What a markdown report accounts for

A report lists the first errors and warnings of every check and announces how many more there
are, and it lists the notes if they are few and announces their number otherwise. So every
issue is either listed or announced, and for each severity these are as many as the totals say.
-/

namespace Checkup

open Text (Block firstNumber firstNumber_eq_zero firstNumber_sentence Lacks Stops)

namespace Markdown

/-! ## Numbers of issues -/

/-- How the headings of the parts about a severity start. -/
def partTitle : Severity → String
  | .error => "### ❌ Errors"
  | .warning => "### ⚠️ Warnings"
  | .info => "### ℹ️ Info"

/-- How many issues a part tells of: its first entries are issues, and what stands behind them or in
its heading is the number of further ones. -/
def told (part : Part) : Nat :=
  (part.below.take 20).length + ((part.below.drop 20).map fun entry => firstNumber entry.heading).sum +
    firstNumber part.heading

/-- How many issues of a severity some parts tell of. -/
def tally (severity : Severity) (parts : List Part) : Nat :=
  ((parts.filter fun part => decide (¬Lacks (partTitle severity) part.heading)).map told).sum

/-- What is told in two lists of parts is told in both together. -/
theorem tally_append (severity : Severity) (first second : List Part) :
    tally severity (first ++ second) = tally severity first + tally severity second := by
  unfold tally
  rw [List.filter_append, List.map_append, List.sum_append]

/-- What a single part tells. -/
theorem tally_singleton (severity : Severity) (heading : List Char) (entries : List Entry) :
    tally severity [⟨heading, entries⟩] = if Lacks (partTitle severity) heading then 0 else
      (entries.take 20).length + ((entries.drop 20).map fun entry => firstNumber entry.heading).sum +
        firstNumber heading := by
  unfold tally
  split
  · next h => simp [h]
  · next h => simp [h, told]

/-- The announcement behind a list states how many issues are not listed. -/
theorem firstNumber_announcement (noun : String) (n : Nat) :
    firstNumber (announcement noun n).heading = n - 20 := by
  have hbefore : "- ... and ".toList.all (fun c => !c.isDigit) = true := by decide
  have hafter : Stops Char.isDigit (" more " ++ noun).toList := by
    rw [String.toList_append]
    exact Text.stops_cons (by decide) _
  unfold announcement
  rw [String.append_assoc]
  exact firstNumber_sentence hbefore hafter (n - listed)

/-- The first twenty entries of a list that is cut short are those of the first issues, and the
announcement stands behind them. -/
theorem take_drop_capped (noun : String) (issues : List Issue) {entries : List Entry}
    (he : entries = (issues.take listed).map (entryOf issueLine "**Fix:** ") ++
      if listed < issues.length then [announcement noun issues.length] else []) :
    entries.take 20 = (issues.take 20).map (entryOf issueLine "**Fix:** ") ∧
      entries.drop 20 = if 20 < issues.length then [announcement noun issues.length] else [] := by
  have hlisted : listed = 20 := rfl
  rw [he, hlisted]
  by_cases hlong : 20 < issues.length
  · have hlength : ((issues.take 20).map (entryOf issueLine "**Fix:** ")).length = 20 := by
      rw [List.length_map, List.length_take]
      omega
    rw [if_pos hlong]
    exact ⟨List.take_left' hlength, List.drop_left' hlength⟩
  · have hlength : ((issues.take 20).map (entryOf issueLine "**Fix:** ")).length ≤ 20 := by
      rw [List.length_map]
      exact List.length_take_le 20 issues
    rw [if_neg hlong, List.append_nil]
    exact ⟨List.take_of_length_le hlength, List.drop_of_length_le hlength⟩

/-- A part about errors or warnings tells of all of them. -/
theorem tally_cappedParts {title : String} (ht : ("### " ++ title).toList.all (fun c => !c.isDigit) = true)
    (noun : String) (issues : List Issue) (severity : Severity) : tally severity (cappedParts title noun issues) =
      if Lacks (partTitle severity) ("### " ++ title).toList then 0 else issues.length := by
  unfold cappedParts
  split
  · next hnone =>
    rw [List.isEmpty_iff.mp hnone]
    simp [tally]
  · obtain ⟨htake, hdrop⟩ := take_drop_capped noun issues rfl
    have hall : (min 20 issues.length) + ((if 20 < issues.length then [announcement noun issues.length] else []).map
        fun entry => firstNumber entry.heading).sum + 0 = issues.length := by
      split
      · rw [List.map_singleton, List.sum_singleton, firstNumber_announcement]
        omega
      · rw [List.map_nil, List.sum_nil]
        omega
    rw [tally_singleton, htake, hdrop, firstNumber_eq_zero ht, List.length_map, List.length_take, hall]

/-- A heading of notes counts for no other severity. -/
theorem lacks_partTitle_iff {heading : List Char} (h : "### ℹ️ Info".toList <+: heading) (severity : Severity) :
    Lacks (partTitle severity) heading ↔ severity ≠ .info := by
  cases severity with
  | error => exact iff_of_true (.of_isPrefix (by decide) (by decide) h) (by decide)
  | warning => exact iff_of_true (.of_isPrefix (by decide) (by decide) h) (by decide)
  | info => exact iff_of_false (Text.not_lacks_iff.mpr h) (fun hne => hne rfl)

/-- A part about notes tells of all of them. -/
theorem tally_infoParts (issues : List Issue) (severity : Severity) :
    tally severity (infoParts issues) = if severity = .info then issues.length else 0 := by
  unfold infoParts
  split
  · next hnone =>
    rw [List.isEmpty_iff.mp hnone]
    simp [tally]
  · split
    · next hfew =>
      have hlength : (issues.map (entryOf infoLine "")).length ≤ 20 := by
        rw [List.length_map]
        exact Nat.le_trans hfew (by decide)
      have hnone : firstNumber "### ℹ️ Info".toList = 0 := firstNumber_eq_zero (by decide)
      have hlacks := lacks_partTitle_iff (List.prefix_refl "### ℹ️ Info".toList) severity
      rw [tally_singleton, if_congr hlacks rfl rfl, ite_not, List.take_of_length_le hlength,
        List.drop_of_length_le hlength, hnone, List.length_map, List.map_nil, List.sum_nil, Nat.add_zero, Nat.add_zero]
    · have hbefore : "### ℹ️ Info (".toList.all (fun c => !c.isDigit) = true := by decide
      have hafter : Stops Char.isDigit " items - see JSON for full list)".toList := by
        rw [show " items - see JSON for full list)".toList = _ from String.toList_ofList]
        exact Text.stops_cons (by decide) _
      have hstart : "### ℹ️ Info".toList <+:
          ("### ℹ️ Info (" ++ toString issues.length ++ " items - see JSON for full list)").toList := by
        rw [String.append_assoc]
        exact List.IsPrefix.trans (by decide) (isPrefix_append "### ℹ️ Info (" _)
      rw [tally_singleton, if_congr (lacks_partTitle_iff hstart severity) rfl rfl, ite_not,
        firstNumber_sentence hbefore hafter, List.take_nil, List.drop_nil, List.length_nil, List.map_nil,
        List.sum_nil, Nat.zero_add, Nat.zero_add]

/-- The section of a check tells of all its issues. -/
theorem tally_sectionOf (severity : Severity) (check : Check) :
    tally severity (sectionOf check).below = Issue.count severity check.issues := by
  have hcount : Issue.count severity check.issues = (ofSeverity severity check.issues).length :=
    List.countP_eq_length_filter
  have herrors : ("### " ++ "❌ Errors").toList.all (fun c => !c.isDigit) = true := by decide
  have hwarnings : ("### " ++ "⚠️ Warnings").toList.all (fun c => !c.isDigit) = true := by decide
  unfold sectionOf
  rw [tally_append, tally_append, tally_cappedParts herrors, tally_cappedParts hwarnings, tally_infoParts, hcount]
  cases severity with
  | error =>
    rw [if_neg (by decide), if_pos (by decide), if_neg (by decide)]
    rfl
  | warning =>
    rw [if_pos (by decide), if_neg (by decide), if_neg (by decide), Nat.zero_add]
    rfl
  | info => rw [if_pos (by decide), if_pos (by decide), if_pos rfl, Nat.zero_add]

/-- The sections of some checks tell of all their issues. -/
theorem tally_reported (severity : Severity) (checks : List Check) :
    tally severity (((reported checks).map sectionOf).flatMap Block.below) =
      Issue.count severity (checks.flatMap Check.issues) := by
  induction checks with
  | nil => rfl
  | cons check checks ih =>
    have hcount : Issue.count severity ((check :: checks).flatMap Check.issues) =
        Issue.count severity check.issues + Issue.count severity (checks.flatMap Check.issues) := by
      rw [List.flatMap_cons]
      exact List.countP_append
    rw [hcount, ← ih]
    unfold reported
    rw [List.filter_cons]
    split
    · rw [List.map_cons, List.flatMap_cons, tally_append, tally_sectionOf]
    · next hnone =>
      have hempty : check.issues = [] := by simpa using hnone
      rw [hempty]
      exact (Nat.zero_add _).symm

/-! ## What a report accounts for -/

/-- Parts are what is said about errors or warnings. -/
structure ListsFirst (title noun : String) (issues : List Issue) (parts : List Part) : Prop where
  /-- Nothing is said if there are none. -/
  nothing : issues = [] → parts = []
  /-- Otherwise there is one part. The first twenty issues are listed, each with its fix if it has one, and
  it is announced how many more there are, if there are more. -/
  listed : issues ≠ [] → ∃ part, parts = [part] ∧ part.heading = ("### " ++ title).toList ∧
    part.below.take 20 = (issues.take 20).map (entryOf issueLine "**Fix:** ") ∧
      part.below.drop 20 = if 20 < issues.length then
        [⟨("- ... and " ++ toString (issues.length - 20) ++ " more " ++ noun).toList, []⟩] else []

/-- Parts are what is said about notes. -/
structure TellsNotes (issues : List Issue) (parts : List Part) : Prop where
  /-- Nothing is said if there are none. -/
  nothing : issues = [] → parts = []
  /-- Up to ten are listed, each with its fix if it has one. -/
  few : issues ≠ [] → issues.length ≤ 10 → parts = [⟨"### ℹ️ Info".toList, issues.map (entryOf infoLine "")⟩]
  /-- Of more the number is told. -/
  many : 10 < issues.length → parts =
    [⟨("### ℹ️ Info (" ++ toString issues.length ++ " items - see JSON for full list)").toList, []⟩]

/-- A section is about a check. -/
structure IsAbout (check : Check) (block : Section) : Prop where
  /-- It is headed by the check. -/
  heading : block.heading = ("## " ++ check.status.glyph ++ " " ++ check.name).toList
  /-- It tells of the errors, then the warnings, and then the notes. -/
  below : ∃ errors warnings notes, block.below = errors ++ warnings ++ notes ∧
    ListsFirst "❌ Errors" "errors" (check.issues.filter fun issue => issue.severity = .error) errors ∧
      ListsFirst "⚠️ Warnings" "warnings" (check.issues.filter fun issue => issue.severity = .warning) warnings ∧
        TellsNotes (check.issues.filter fun issue => issue.severity = .info) notes

/-- The numbers of issues that a report lists or announces. -/
def tallies (text : String) : Totals where
  errors := tally .error ((sections text).flatMap Block.below)
  warnings := tally .warning ((sections text).flatMap Block.below)
  infos := tally .info ((sections text).flatMap Block.below)

/-- A markdown report accounts for every issue. -/
structure AccountsForIssues (text : String) (report : Report) : Prop where
  /-- The table has a row for every check, in their order. -/
  rows : ∃ rows, report.checks.mapM summaryRow = .ok rows ∧ tableRows text = rows.map String.toList
  /-- The checks with issues, and no others, have sections, in their order. -/
  sections : List.Forall₂ IsAbout (report.checks.filter fun check => !check.issues.isEmpty) (sections text)
  /-- What is listed and what is announced are the issues of all checks. -/
  tallies : tallies text = .ofChecks report.checks
  /-- The totals that are printed are those of the report. -/
  totals : Accounts text report.totals report.grade
  /-- They are what is listed and announced, as long as the report has the totals of its checks. -/
  agree : Accounts text (Markdown.tallies text) report.grade ↔ report.totals = .ofChecks report.checks

/-- Errors or warnings are listed up to a bound. -/
theorem listsFirst_cappedParts (title noun : String) (issues : List Issue) :
    ListsFirst title noun issues (cappedParts title noun issues) where
  nothing := by
    rintro rfl
    rfl
  listed := by
    intro hsome
    unfold cappedParts
    rw [if_neg (by simpa using hsome)]
    obtain ⟨htake, hdrop⟩ := take_drop_capped noun issues rfl
    exact ⟨_, rfl, rfl, htake, hdrop⟩

/-- Notes are listed if they are few. -/
theorem tellsNotes_infoParts (issues : List Issue) : TellsNotes issues (infoParts issues) where
  nothing := by
    rintro rfl
    rfl
  few := by
    intro hsome hfew
    unfold infoParts
    rw [if_neg (by simpa using hsome)]
    exact if_pos hfew
  many := by
    intro hmany
    have hsome : ¬issues.isEmpty = true := by
      rw [List.isEmpty_iff]
      rintro rfl
      exact absurd hmany (by decide)
    unfold infoParts
    rw [if_neg hsome]
    exact if_neg (Nat.not_le.mpr hmany)

/-- The section of a check is about it. -/
theorem isAbout_sectionOf (check : Check) : IsAbout check (sectionOf check) where
  heading := rfl
  below := ⟨_, _, _, rfl, listsFirst_cappedParts _ _ _, listsFirst_cappedParts _ _ _, tellsNotes_infoParts _⟩

/-- A text accounts for one set of totals at most. -/
theorem Accounts.unique {text : String} {totals others : Totals} {grade : Grade} (h : Accounts text totals grade)
    (ho : Accounts text others grade) : totals = others := by
  have hsame : ∀ {n m : Nat}, some (toString n).toList = some (toString m).toList → n = m := by
    intro n m hnm
    have hdigits : Nat.toDigits 10 n = Nat.toDigits 10 m :=
      Nat.toList_repr.symm.trans ((Option.some.inj hnm).trans Nat.toList_repr)
    rw [← Text.decimalValue_toDigits n, hdigits, Text.decimalValue_toDigits]
  have herrors := hsame (h.errors.symm.trans ho.errors)
  have hwarnings := hsame (h.warnings.symm.trans ho.warnings)
  have hinfos := hsame (h.infos.symm.trans ho.infos)
  cases totals
  cases others
  simp_all

/-- A report over issues whose messages and rules are texts is rendered exactly if its durations can be shown. -/
theorem exists_render_iff {report : Report} (h : AllOrderly (report.checks.flatMap Check.issues)) (jsonPath : String) :
    (∃ text, render report jsonPath = .ok text) ↔
      (∃ shown, showMilliseconds report.duration = .ok shown) ∧
        ∀ check ∈ report.checks, ∃ shown, showDuration check.duration = .ok shown := by
  have hrow : ∀ check : Check,
      (∃ row, summaryRow check = .ok row) ↔ ∃ shown, showDuration check.duration = .ok shown := by
    intro check
    unfold summaryRow
    constructor
    · rintro ⟨row, hrow⟩
      obtain ⟨shown, hshown, -⟩ := bind_eq_ok_iff.mp hrow
      exact ⟨shown, hshown⟩
    · rintro ⟨shown, hshown⟩
      exact ⟨_, bind_eq_ok_iff.mpr ⟨shown, hshown, rfl⟩⟩
  unfold render reportLines headLines
  rw [ActionItem.ofChecks_eq_ok h.allSpoken h.not_isOdd]
  constructor
  · rintro ⟨text, htext⟩
    obtain ⟨lines, hlines, -⟩ := bind_eq_ok_iff.mp htext
    obtain ⟨head, hhead, -⟩ := bind_eq_ok_iff.mp hlines
    obtain ⟨duration, hduration, hhead⟩ := bind_eq_ok_iff.mp hhead
    obtain ⟨rows, hrows, -⟩ := bind_eq_ok_iff.mp hhead
    refine ⟨⟨duration, hduration⟩, fun check hc => (hrow check).mp ?_⟩
    obtain ⟨row, -, hcheck⟩ := (members_of_mapM_eq_ok hrows).2 check hc
    exact ⟨row, hcheck⟩
  · rintro ⟨⟨duration, hduration⟩, hdurations⟩
    obtain ⟨rows, hrows⟩ := exists_mapM_eq_ok fun check hc => (hrow check).mpr (hdurations check hc)
    rw [hduration, hrows]
    exact ⟨_, rfl⟩

end Markdown

end Checkup
