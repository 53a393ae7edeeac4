import Checkup.Issue

/-!
# Checks

One named pass over the code: its issues, and the status that they give it.
-/

namespace Checkup

/-- How a check came out. -/
inductive Status where
  | pass
  | warn
  | fail
  | skip
  deriving DecidableEq, Repr

namespace Status

/-- All statuses. -/
def all : List Status := [pass, warn, fail, skip]

/-- The name of a status. -/
def name : Status → String
  | pass => "pass"
  | warn => "warn"
  | fail => "fail"
  | skip => "skip"

/-- The status of a name. -/
def ofName? (name : String) : Option Status := all.find? fun status => status.name = name

/-- The sign that shows a status. -/
def glyph : Status → String
  | pass => "✅"
  | warn => "⚠️"
  | fail => "❌"
  | skip => "⏭️"

/-- Any error fails, any warning warns, and anything else passes. -/
def ofIssues (issues : List Issue) : Status :=
  if issues.any fun issue => issue.severity = .error then fail
  else if issues.any fun issue => issue.severity = .warning then warn
  else pass

end Status

/-- The result of one check. The duration is in milliseconds; that of a check
whose status was given is whatever was given with it. -/
structure Check where
  name : String
  status : Status
  duration : Value
  issues : List Issue := []
  summary : String := ""
  rawOutput : Option String := none

namespace Check

/-- A check whose status follows from its issues; no duration is negative. -/
def ofIssues (name : String) (issues : List Issue) (duration : Int) (summary : String)
    (rawOutput : Option String) : Check where
  name
  status := .ofIssues issues
  duration := .int (max 0 duration)
  issues
  summary
  rawOutput

/-- A check that was not run, for the given reason. -/
def skipped (name reason : String) (issues : List Issue) (duration : Value) : Check where
  name
  status := .skip
  duration
  issues
  summary := reason

/-- Number of issues of one severity. -/
def count (check : Check) (severity : Severity) : Nat := Issue.count severity check.issues

end Check

/-- Numbers of issues by severity. -/
structure Totals where
  errors : Nat := 0
  warnings : Nat := 0
  infos : Nat := 0
  deriving DecidableEq, Repr

/-- The totals of some issues. -/
def Totals.ofIssues (issues : List Issue) : Totals where
  errors := Issue.count .error issues
  warnings := Issue.count .warning issues
  infos := Issue.count .info issues

/-- The totals over all issues of all checks. -/
def Totals.ofChecks (checks : List Check) : Totals := ofIssues (checks.flatMap Check.issues)

end Checkup
