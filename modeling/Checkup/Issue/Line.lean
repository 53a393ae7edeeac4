import Checkup.Issue
import Checkup.Text.Numeral
import Checkup.Text.Occurrence

/-!
# Issues on one line

The archived form of an issue: severity letter, location, message and rule
between vertical bars. The message may hold bars; the file and the rule may
not. The suggested fix is not kept.
-/

namespace Checkup.Issue

open Checkup.Text

/-- File and line; the line stands without a file, too. -/
def encodeLocation (issue : Issue) : String :=
  if issue.line.isGiven then issue.fileText ++ ":" ++ issue.line.display else issue.fileText

/-- The rule, or nothing. -/
def ruleText (issue : Issue) : String := if issue.rule.isGiven then issue.rule.display else ""

/-- An issue as one line. -/
def encode (issue : Issue) : String :=
  String.singleton issue.severity.letter ++ "|" ++ issue.encodeLocation ++ "|" ++ issue.message.display ++ "|" ++
    issue.ruleText

/-- A text unless it is empty. -/
def nonEmpty? (text : List Char) : Option String :=
  if text.isEmpty then none else some (String.ofList text)

/-- The number that a numeral writes. -/
def lineNumber (numeral : List Char) : Outcome Int :=
  match toNat? numeral with
  | some n => .ok n
  | none =>
    if numeral.all isDecimal then .error (.tooManyDigits numeral.length)
    else .error (.notWhole (String.ofList numeral))

/-- A location as its file and its line: a numeral after the last colon is the line. -/
def splitLocation (location : List Char) : List Char × Option (List Char) :=
  match cutLast? ':' location with
  | some (file, numeral) => if isNumeral numeral then (file, some numeral) else (location, none)
  | none => (location, none)

/-- The four fields of a line: the first two bars and the last one are the separators. -/
def fields? (text : List Char) : Option (List Char × List Char × List Char × List Char) := do
  let (letter, rest) ← cutFirst? '|' text
  let (location, rest) ← cutFirst? '|' rest
  let (message, rule) ← cutLast? '|' rest
  some (letter, location, message, rule)

/-- The issue that a line holds. -/
def decode (text : String) : Outcome Issue :=
  match fields? text.toList with
  | none => .error .malformedIssue
  | some (letter, location, message, rule) => do
    let severity ← Severity.ofLetter (String.ofList letter)
    let (file, numeral) := splitLocation location
    let line ← match numeral with
      | some numeral => Value.int <$> lineNumber numeral
      | none => .ok .null
    .ok {
      severity
      message := .text (String.ofList message)
      file := .ofText? (nonEmpty? file)
      line
      rule := .ofText? (nonEmpty? rule) }

end Checkup.Issue
