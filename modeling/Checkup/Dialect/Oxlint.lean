import Checkup.Dialect
import Checkup.Text.Lines

/-!
# oxlint

The fast linter reports JSON: a list of diagnostics, or a mapping that holds
one. Its text is scanned for lines that speak of errors or warnings.
-/

namespace Checkup.Oxlint

open Checkup.Text

/-- The name of the check. -/
def checkName : String := "Linting (oxlint)"

/-- Where the diagnostics of a document are. -/
def schemaOf : Value → Option String
  | .mapping entries => if (Entries.get entries "diagnostics").isList then some "diagnostics" else none
  | .list _ => some "list"
  | _ => none

/-- The diagnostics of a document of a known schema. -/
def diagnostics (schema : String) (payload : Value) : List Entries :=
  match payload with
  | .mapping entries =>
    if schema = "diagnostics" then (Entries.get entries "diagnostics").mappings else []
  | payload => payload.mappings

/-- The labels that mean an error. -/
def severities : List (Scalar × Severity) := [(.text "error", .error), (.text "deny", .error)]

/-- The line of the first label that has a span. -/
def labelLine (diagnostic : Entries) : Outcome (Option Int) :=
  match (Entries.get diagnostic "labels").mappings.findSome? fun label =>
    (Entries.get label "span").entries? with
  | some span => (Entries.get span "line").toLine
  | none => .ok none

/-- The line of a diagnostic, or else of its labels. -/
def lineOf (diagnostic : Entries) : Outcome (Option Int) := do
  match ← (Entries.get diagnostic "line").toLine with
  | some line => .ok (some line)
  | none => labelLine diagnostic

/-- The issue of a diagnostic. -/
def issueOf (root : Option String) (diagnostic : Entries) : Outcome Issue := do
  let get := Entries.get diagnostic
  let severity ← (get "severity").toSeverity severities .warning
  let file ← ((get "filename").orElse (get "file")).toPath root
  let line ← lineOf diagnostic
  .ok {
    severity
    message := .text ((Entries.find? diagnostic "message").getD (.text "")).display
    file
    line := .ofLine? line
    rule := (get "code").orElse ((get "ruleId").orElse (get "rule")) }

/-- A line that only sums up: `Found n warnings and m errors` or `Finished in`. -/
def isSummary (line : List Char) : Bool :=
  let line := trimStart line
  let found : Option Unit := do
    let (_, rest) ← takeDigits? (← afterCaseless? "found ".toList line)
    let rest ← afterCaseless? " warning".toList rest
    let (_, rest) ← takeDigits? (← afterCaseless? " and ".toList (afterLetter 's' rest))
    let _ ← afterCaseless? " error".toList rest
    some ()
  found.isSome || ((afterCaseless? "finished in".toList line).any wordEnds)

/-- A line that speaks of an error or a warning. -/
def speaksOfFinding (line : List Char) : Bool :=
  let lowered := lower line
  occurs "error".toList lowered || occurs "warning".toList lowered

/-- The lines of a text that are findings. -/
def issuesOfText (text : String) : List Issue :=
  ((lines text.toList).filter fun line => !allBlank line && !isSummary line && speaksOfFinding line).map
    fun line => { severity := .warning, message := .text (String.ofList (trim line)) }

/-- The dialect, for paths below the given root. -/
def dialect (root : Option String) : Dialect Value where
  checkName
  ruleStem := "oxlint"
  read stdout stderr := .ok (Dialect.readJson schemaOf Dialect.stdoutOnly stdout stderr)
  remark := Dialect.remarkJson checkName schemaOf
  scanned := Dialect.stdoutOnly
  ofStructured schema payload := (diagnostics schema payload).mapM (issueOf root)
  ofText text := .ok (issuesOfText text)
  announcement := countedCaseless ["error", "warning"]
  unreadMessage := Dialect.unreadDefault
  unreadSeverity := .warning
  summary := Dialect.summaryDefault

end Checkup.Oxlint
