import Checkup.Fault
import Checkup.Value.Display

/-!
# Issues

One finding about the code, whichever tool or analysis reports it.
-/

namespace Checkup

/-- How bad a finding is. -/
inductive Severity where
  | error
  | warning
  | info
  deriving DecidableEq, Repr

namespace Severity

/-- All severities, the worst first. -/
def all : List Severity := [error, warning, info]

/-- The name of a severity. -/
def name : Severity → String
  | error => "error"
  | warning => "warning"
  | info => "info"

/-- The letter that stands for a severity. -/
def letter : Severity → Char
  | error => 'E'
  | warning => 'W'
  | info => 'I'

/-- The severity of a name. -/
def ofName? (name : String) : Option Severity := all.find? fun severity => severity.name = name

/-- The severity that a letter stands for. -/
def ofLetter (letter : String) : Outcome Severity :=
  match all.find? fun severity => letter.toList = [severity.letter] with
  | some severity => .ok severity
  | none => .error (.unknownLetter letter)

end Severity

/-- A finding. All but the severity is whatever was reported; an absent value
stands for none. -/
structure Issue where
  severity : Severity
  message : Value
  file : Value := .null
  line : Value := .null
  rule : Value := .null
  fix : Value := .null

namespace Issue

/-- The file of an issue; empty when it has none. -/
def fileText (issue : Issue) : String := if issue.file.isGiven then issue.file.display else ""

/-- The file with the line, the file alone as it was reported, or an empty text. -/
def location (issue : Issue) : Value :=
  if !issue.file.isGiven then .text ""
  else if issue.line.isGiven then .text (issue.fileText ++ ":" ++ issue.line.display)
  else issue.file

/-- The issue has this rule. -/
def hasRule (rule : String) (issue : Issue) : Bool :=
  match issue.rule with
  | .text value => value = rule
  | _ => false

/-- Number of issues of one severity. -/
def count (severity : Severity) (issues : List Issue) : Nat :=
  issues.countP fun issue => issue.severity = severity

end Issue

end Checkup
