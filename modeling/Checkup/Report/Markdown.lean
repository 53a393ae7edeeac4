import Checkup.ActionItem
import Checkup.Report
import Checkup.Report.Duration

/-!
# Reports in markdown

The report for people to read: a summary table, the totals, a section for each
check with issues, and the action items.
-/

namespace Checkup

namespace Markdown

/-- How many errors or warnings of a check are listed. -/
def listed : Nat := 20

/-- Up to how many notes of a check are listed. -/
def infosListed : Nat := 10

/-- The location of an issue between backquotes, if it has one. -/
def locationText (issue : Issue) : String :=
  if issue.location.isGiven then "`" ++ issue.location.display ++ "` " else ""

/-- The rule of an issue between brackets, if it has one. -/
def ruleText (issue : Issue) : String :=
  if issue.rule.isGiven then " [" ++ issue.rule.display ++ "]" else ""

/-- The line of an issue, with its rule. -/
def issueLine (issue : Issue) : String := "- " ++ locationText issue ++ issue.message.display ++ ruleText issue

/-- The line of a note. -/
def infoLine (issue : Issue) : String := "- " ++ locationText issue ++ issue.message.display

/-- The fix of an issue on a line of its own, behind a label. -/
def fixLine (label : String) (issue : Issue) : List String :=
  if issue.fix.isGiven then ["  - 💡 " ++ label ++ issue.fix.display] else []

/-- The lines of an error or a warning. -/
def issueLines (issue : Issue) : List String := issueLine issue :: fixLine "**Fix:** " issue

/-- The lines of a note. -/
def infoLines (issue : Issue) : List String := infoLine issue :: fixLine "" issue

/-- Issues under a heading: the first ones, and how many more there are. -/
def cappedSection (title noun : String) (issues : List Issue) : List String :=
  if issues.isEmpty then []
  else
    ["### " ++ title, ""] ++ (issues.take listed).flatMap issueLines ++
      (if listed < issues.length then
        ["- ... and " ++ toString (issues.length - listed) ++ " more " ++ noun] else []) ++
      [""]

/-- Notes under a heading: all of them if they are few, and otherwise their number alone. -/
def infoSection (issues : List Issue) : List String :=
  if issues.isEmpty then []
  else if issues.length ≤ infosListed then
    ["### ℹ️ Info", ""] ++ issues.flatMap infoLines ++ [""]
  else ["### ℹ️ Info (" ++ toString issues.length ++ " items - see JSON for full list)", ""]

/-- The issues of one severity. -/
def ofSeverity (severity : Severity) (issues : List Issue) : List Issue :=
  issues.filter fun issue => issue.severity = severity

/-- The section of a check; a check without issues has none. -/
def checkSection (check : Check) : List String :=
  if check.issues.isEmpty then []
  else
    ["## " ++ check.status.glyph ++ " " ++ check.name, ""] ++
      cappedSection "❌ Errors" "errors" (ofSeverity .error check.issues) ++
      cappedSection "⚠️ Warnings" "warnings" (ofSeverity .warning check.issues) ++
      infoSection (ofSeverity .info check.issues)

/-- The row of a check in the summary table. -/
def summaryRow (check : Check) : Outcome String := do
  .ok ("| " ++ check.name ++ " | " ++ check.status.glyph ++ " " ++ check.status.name ++ " | " ++
    (← showDuration check.duration) ++ " | " ++ check.summary ++ " |")

/-- A detail of an action item; one that is already indented is not made an item of its own. -/
def detailLine (detail : String) : String :=
  if "  ".toList.isPrefixOf detail.toList then "   " ++ detail else "   - " ++ detail

/-- The lines of an action item. -/
def actionLines (item : ActionItem) : List String :=
  match item.number with
  | none => [item.icon ++ " **" ++ item.title ++ "**", ""]
  | some number =>
    (toString number ++ ". **" ++ item.icon ++ " " ++ item.title ++ "**") ::
      item.details.map detailLine ++ [""]

/-- The lines above the check sections. -/
def headLines (report : Report) : Outcome (List String) := do
  let duration ← showMilliseconds report.duration
  let rows ← report.checks.mapM summaryRow
  .ok (["# 🏥 Code Health Report",
    "",
    "**Generated:** " ++ report.timestamp,
    "**Duration:** " ++ duration,
    "**Grade:** " ++ report.grade.name,
    "",
    "## 📊 Summary",
    "",
    "| Check | Status | Duration | Summary |",
    "|-------|--------|----------|---------|"] ++
   rows ++
   ["",
    "## 📈 Totals",
    "",
    "- **Errors:** " ++ toString report.totals.errors,
    "- **Warnings:** " ++ toString report.totals.warnings,
    "- **Info:** " ++ toString report.totals.infos,
    ""])

/-- The lines of the action items. -/
def actionSection (items : List ActionItem) : List String :=
  ["## 🎯 Priority Action Items",
   "",
   "Based on the analysis, here are the most impactful fixes:",
   ""] ++ items.flatMap actionLines

/-- All lines of a report whose data is archived at `jsonPath`. -/
def reportLines (report : Report) (jsonPath : String) : Outcome (List String) := do
  let head ← headLines report
  let items ← ActionItem.ofChecks report.checks
  .ok (head ++ report.checks.flatMap checkSection ++ actionSection items ++
    ["---", "*Full JSON report available at: " ++ jsonPath ++ "*"])

/-- Where the data of a report is archived unless said otherwise. -/
def defaultJsonPath : String := "logs/code-health-report.json"

/-- The text of a report whose data is archived at `jsonPath`. -/
def render (report : Report) (jsonPath : String) : Outcome String := do
  .ok (String.intercalate "\n" (← reportLines report jsonPath))

end Markdown

end Checkup
