import Checkup.Dialect
import Checkup.Text.Lines

/-!
# ESLint

ESLint reports JSON: a list of files with their messages, or a mapping that
holds one. Its text comes in two forms: a path on a line of its own with
indented rows below it, or lines of path, line and message between colons.
-/

namespace Checkup.Eslint

open Checkup.Text

/-- The name of the check. -/
def checkName : String := "Import & Complexity (ESLint)"

/-- Where the results of a document are. -/
def schemaOf : Value → Option String
  | .list _ => some "results"
  | .mapping entries => if (Entries.get entries "results").isList then some "wrapped" else none
  | _ => none

/-- The results of a document of a known schema. -/
def results (schema : String) (payload : Value) : List Entries :=
  match payload with
  | .mapping entries => if schema = "wrapped" then (Entries.get entries "results").mappings else []
  | payload => payload.mappings

/-- The labels that mean an error. -/
def severities : List (Scalar × Severity) :=
  [(.int 2, .error), (.text "2", .error), (.text "error", .error)]

/-- The issue of a message about a file. -/
def issueOf (file : Value) (message : Entries) : Outcome Issue := do
  let severity ← (Entries.get message "severity").toSeverity severities .warning
  let line ← (Entries.get message "line").toLine
  .ok {
    severity
    message := .text ((Entries.find? message "message").getD (.text "")).display
    file
    line := .ofLine? line
    rule := Entries.get message "ruleId" }

/-- The issues of the messages about one file. -/
def issuesOfResult (root : Option String) (result : Entries) : Outcome (List Issue) := do
  let file ← (Entries.get result "filePath").toPath root
  (Entries.get result "messages").mappings.mapM (issueOf file)

/-- The ends of the names of files that are linted. -/
def suffixes : List String :=
  [".js", ".jsx", ".ts", ".tsx", ".cjs", ".cjsx", ".cts", ".ctsx", ".mjs", ".mjsx", ".mts", ".mtsx",
   ".vue", ".svelte"]

/-- A path on a line of its own: no blank before it and blanks at most after it. -/
def headerPath? (line : List Char) : Option (List Char) :=
  let path := trimEnd line
  if (path.head?.any fun c => !isBlank c) &&
      suffixes.any fun suffix => suffix.length < path.length && suffix.toList.isSuffixOf path
  then some path else none

/-- What a row says: line, severity, message and rule. -/
structure Row where
  line : List Char
  severity : Severity
  message : List Char
  rule : Option (List Char)

/-- The word of a severity, and the text after it. -/
def takeSeverity? (text : List Char) : Option (Severity × List Char) :=
  match after? "error".toList text with
  | some rest => some (.error, rest)
  | none => (after? "warning".toList text).map fun rest => (.warning, rest)

/-- The rule at the end of a row: two blanks at least, a word, and blanks at most. -/
def takeRule? (text : List Char) : Option (List Char) := do
  let (blanks, rest) ← run? isBlank text
  let (rule, rest) ← if 2 ≤ blanks.length then run? (fun c => !isBlank c) rest else none
  if allBlank rest then some rule else none

/-- The end of a row: a rule or nothing but blanks. -/
def rowEnd? (text : List Char) : Option (Option (List Char)) :=
  match takeRule? text with
  | some rule => some (some rule)
  | none => if allBlank text then some none else none

/-- A row: indented line and column, severity, message, and a rule behind a wide gap. -/
def row? (line : List Char) : Option Row := do
  let rest ← takeBlanks? line
  let (number, rest) ← takeDigits? rest
  let (_, rest) ← takeDigits? (← after? [':'] rest)
  let (severity, rest) ← takeSeverity? (← takeBlanks? rest)
  let (_, message, rule) ← longestSome isBlank (shortest (fun _ => true) rowEnd?) rest
  some { line := number, severity, message, rule }

/-- The issue of a line of path, line and message between colons; a line of
another shape is the message as it stands. -/
def colonIssue (root : Option String) (line : List Char) : Outcome Issue := do
  let severity : Severity := if occurs "error".toList line then .error else .warning
  let plain : Issue := { severity, message := .text (String.ofList (trim line)) }
  match cutFirst? ':' line with
  | none => .ok plain
  | some (path, rest) =>
    match cutFirst? ':' rest with
    | none => .ok plain
    | some (number, message) =>
      match ← (Value.text (String.ofList (trim number))).toLine with
      | none => .ok plain
      | some n => do
        let file ← (Value.text (String.ofList (trim path))).toPath root
        .ok { severity, message := .text (String.ofList (trim message)), file, line := .int n }

/-- What a line announces: a number of problems. -/
def announcement : Recogniser (Option (List Char)) := countedWord takeBlanks? "problem"

/-- The issues of the lines of a text, below the path that was last seen. -/
def issuesOfLines (root : Option String) : Value → List (List Char) → Outcome (List Issue)
  | _, [] => .ok []
  | file, line :: rest =>
    match headerPath? line with
    | some path => do issuesOfLines root (← (Value.text (String.ofList path)).toPath root) rest
    | none =>
      match row? line, file with
      | some row, .text path => do
        let number ← (Value.text (String.ofList row.line)).toLine
        let issue : Issue := {
          severity := row.severity
          message := .text (String.ofList row.message)
          file := .text path
          line := .ofLine? number
          rule := .ofText? (row.rule.map String.ofList) }
        .ok (issue :: (← issuesOfLines root file rest))
      | _, _ =>
        if (firstSighting announcement none line).isSome then issuesOfLines root file rest
        else if occurs "error".toList line || occurs "warning".toList line then do
          let issue ← colonIssue root line
          .ok (issue :: (← issuesOfLines root file rest))
        else issuesOfLines root file rest

/-- The dialect, for paths below the given root. -/
def dialect (root : Option String) : Dialect Value where
  checkName
  ruleStem := "eslint"
  read stdout stderr := .ok (Dialect.readJson schemaOf Dialect.stdoutOnly stdout stderr)
  remark := Dialect.remarkJson checkName schemaOf
  scanned := Dialect.stdoutOnly
  ofStructured schema payload := do
    .ok (← (results schema payload).mapM (issuesOfResult root)).flatten
  ofText text := issuesOfLines root .null (lines text.toList)
  announcement
  unreadMessage := Dialect.unreadDefault
  unreadSeverity := .warning
  summary := Dialect.summaryDefault

end Checkup.Eslint
