import Checkup.Issue.Line
import Checkup.Json.Reader
import Checkup.Json.Writer
import Checkup.Report

/-!
# Archived reports

A report is archived as a compact JSON document: issues on one line each, no
fixes and no raw output. What is read back is kept as the document has it,
apart from statuses, issues and the grade, which have to be understood.
-/

namespace Checkup

/-- A check as an archive holds it. -/
structure ArchivedCheck where
  name : Value
  status : Status
  duration : Value
  issues : List Issue
  summary : Value

/-- A report as an archive holds it. -/
structure Archive where
  timestamp : Value
  duration : Value
  checks : List ArchivedCheck
  errors : Value
  warnings : Value
  infos : Value
  grade : Grade

namespace Archive

/-- A check without what an archive does not keep. -/
def ofCheck (check : Check) : ArchivedCheck where
  name := .text check.name
  status := check.status
  duration := check.duration
  issues := check.issues
  summary := .text check.summary

/-- A report without what an archive does not keep. -/
def ofReport (report : Report) : Archive where
  timestamp := .text report.timestamp
  duration := .int report.duration
  checks := report.checks.map ofCheck
  errors := .int report.totals.errors
  warnings := .int report.totals.warnings
  infos := .int report.totals.infos
  grade := report.grade

/-- A mapping with text keys. -/
def document (entries : List (String × Value)) : Value :=
  .mapping (entries.map fun (key, value) => (.text key, value))

/-- A check as a part of the document. -/
def checkDocument (check : ArchivedCheck) : Value :=
  document [
    ("n", check.name),
    ("s", .text check.status.name),
    ("d", check.duration),
    ("i", .list (check.issues.map fun issue => .text issue.encode)),
    ("sum", check.summary)]

/-- The document of an archive. -/
def toDocument (archive : Archive) : Value :=
  document [
    ("ts", archive.timestamp),
    ("dur", archive.duration),
    ("checks", .list (archive.checks.map checkDocument)),
    ("totals", document [("e", archive.errors), ("w", archive.warnings), ("i", archive.infos)]),
    ("grade", .text archive.grade.name)]

/-- The text of an archive. -/
def write (archive : Archive) : String := String.ofList (Json.write archive.toDocument)

/-- The value under a key of a document that has to be a mapping. -/
def field (document : Value) (key : String) : Outcome Value :=
  match document with
  | .mapping entries =>
    match Entries.find? entries key with
    | some value => .ok value
    | none => .error (.missingKey key)
  | value => .error (.wrongKind ("'" ++ value.kindName ++ "' has no field " ++ Text.quote key))

/-- The parts of a value: items of a list, keys of a mapping, characters of a text. -/
def parts (value : Value) : Outcome (List Value) :=
  match value with
  | .list items => .ok items
  | .mapping entries => .ok (entries.map fun entry => .scalar entry.1)
  | .text text => .ok (text.toList.map fun c => .text (String.singleton c))
  | value => .error (.wrongKind ("'" ++ value.kindName ++ "' object is not iterable"))

/-- A value that has to name a member of a family. -/
def member {α : Type} (ofName? : String → Option α) (family : String) (value : Value) : Outcome α :=
  match value.text? >>= ofName? with
  | some found => .ok found
  | none => .error (.notMember value.literal family)

/-- An issue line of a document. -/
def issueOf : Value → Outcome Issue
  | .text line => Issue.decode line
  | value => .error (.notText ("'" ++ value.kindName ++ "' object has no attribute 'split'"))

/-- A check of a document. -/
def checkOf (document : Value) : Outcome ArchivedCheck := do
  let name ← field document "n"
  let status ← member Status.ofName? "Status" (← field document "s")
  let duration ← field document "d"
  let issues ← (← parts (← field document "i")).mapM issueOf
  let summary ← field document "sum"
  .ok { name, status, duration, issues, summary }

/-- The archive of a document. -/
def ofDocument (document : Value) : Outcome Archive := do
  let checks ← (← parts (← field document "checks")).mapM checkOf
  let totals ← field document "totals"
  let timestamp ← field document "ts"
  let duration ← field document "dur"
  let errors ← field totals "e"
  let warnings ← field totals "w"
  let infos ← field totals "i"
  let grade ← member Grade.ofName? "Grade" (← field document "grade")
  .ok { timestamp, duration, checks, errors, warnings, infos, grade }

/-- The archive that a text holds. -/
def read (text : String) : Outcome Archive :=
  match Json.read text.toList with
  | .ok document => ofDocument document
  | .error .malformed => .error .notJson
  | .error (.tooManyDigits count) => .error (.tooManyDigits count)

/-- The totals over all issues of all archived checks. -/
def issueTotals (archive : Archive) : Totals := .ofIssues (archive.checks.flatMap (·.issues))

/-- A value that has to be a number is above zero. -/
def isAboveZero : Value → Outcome Bool
  | .int n => .ok (0 < n)
  | .bool b => .ok b
  | .float x => .ok x.isPositive
  | value =>
    .error (.wrongKind
      ("'>' not supported between instances of '" ++ value.kindName ++ "' and 'int'"))

/-- One if the archive counts any error, and zero otherwise. -/
def exitCode (archive : Archive) : Outcome Nat := do
  .ok (if ← isAboveZero archive.errors then 1 else 0)

/-- A check again, as far as its fields are of their kinds. -/
def toCheck? (check : ArchivedCheck) : Option Check :=
  match check.name, check.summary with
  | .text name, .text summary =>
    some { name, status := check.status, duration := check.duration, issues := check.issues, summary }
  | _, _ => none

/-- A number of issues. -/
def toCount? : Value → Option Nat
  | .int (.ofNat n) => some n
  | _ => none

/-- A report again, as far as the fields are of their kinds. -/
def toReport? (archive : Archive) : Option Report := do
  let timestamp ← archive.timestamp.text?
  let duration ← match archive.duration with
    | .int n => some n
    | _ => none
  let checks ← archive.checks.mapM toCheck?
  let errors ← toCount? archive.errors
  let warnings ← toCount? archive.warnings
  let infos ← toCount? archive.infos
  some { timestamp, duration, checks, totals := { errors, warnings, infos }, grade := archive.grade }

end Archive

end Checkup
