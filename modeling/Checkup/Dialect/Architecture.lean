import Checkup.Dialect
import Checkup.Text.Lines

/-!
# Architecture boundaries

dependency-cruiser reports imports across module boundaries as JSON, under the
key of a summary or, in older wrappers, of an output.
-/

namespace Checkup.Architecture

open Checkup.Text

/-- The name of the check. -/
def checkName : String := "Architecture Boundaries"

/-- The key of a document under which the violations are. -/
def schemaOf : Value → Option String
  | .mapping entries =>
    if (Entries.get entries "summary").isMapping then some "summary"
    else
      match Entries.get entries "output" with
      | .mapping output => if (Entries.get output "violations").isList then some "output" else none
      | _ => none
  | _ => none

/-- The labels that mean an error or a warning. -/
def severities : List (Scalar × Severity) := [(.text "error", .error), (.text "warn", .warning)]

/-- What to do about a violation without a comment. -/
def defaultFix : String := "Review the import and consider restructuring."

/-- The violations of a document of a known schema. -/
def violations (schema : String) (payload : Value) : List Entries :=
  match payload with
  | .mapping entries =>
    match Entries.get entries schema with
    | .mapping part => (Entries.get part "violations").mappings
    | _ => []
  | _ => []

/-- The issue of a violation. -/
def issueOf (root : Option String) (violation : Entries) : Outcome Issue := do
  let rule := ((Entries.get violation "rule").entries?).getD []
  let name := (Entries.get rule "name").orElse (.text "boundary-violation")
  let severity ← ((Entries.get rule "severity").orElse (.text "warn")).toSeverity severities .info
  let file ← (Entries.get violation "from").toPath root
  let imported ← (Entries.get violation "to").toPath root
  .ok {
    severity
    message := .text (name.display ++ ": imports " ++ imported.display)
    file
    rule := .text ("architecture/" ++ ((Entries.get rule "name").orElse (.text "violation")).display)
    fix := (Entries.get rule "comment").orElse
      ((Entries.get violation "comment").orElse (.text defaultFix)) }

/-- What a line announces: a number of violations. -/
def announcement : Recogniser (Option (List Char)) :=
  countedWord (after? [' ']) "dependency violation"

/-- A line that speaks of an error or a violation and announces none. -/
def speaksOfViolation (line : List Char) : Bool :=
  (occurs "error".toList line || occurs "violation".toList line) &&
    (firstSighting announcement none line).isNone

/-- The issues of a text. -/
def issuesOfText (text : String) : List Issue :=
  ((lines text.toList).filter speaksOfViolation).map fun line =>
    { severity := .warning
      message := .text (String.ofList (trim line))
      rule := .text "architecture/unknown" }

/-- Numbers of errors and warnings. -/
def summary (issues : List Issue) : String :=
  toString (Issue.count .error issues) ++ " boundary violations, " ++
    toString (Issue.count .warning issues) ++ " warnings"

/-- The dialect, for paths below the given root. -/
def dialect (root : Option String) : Dialect Value where
  checkName
  ruleStem := "architecture"
  read stdout stderr := .ok (Dialect.readJson schemaOf Dialect.bothStreams stdout stderr)
  remark := Dialect.remarkJson checkName schemaOf
  scanned := Dialect.bothStreams
  ofStructured schema payload := (violations schema payload).mapM (issueOf root)
  ofText text := .ok (issuesOfText text)
  announcement
  unreadMessage := Dialect.unreadDefault
  unreadSeverity := .warning
  summary

end Checkup.Architecture
