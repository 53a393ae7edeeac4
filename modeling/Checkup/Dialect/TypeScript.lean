import Checkup.Dialect
import Checkup.Text.Lines

/-!
# TypeScript

The compiler's errors are lines of text in two shapes, each of which a task
runner may put the names of a package and a task before. A line that speaks of
an error in no such shape is an issue all the same.
-/

namespace Checkup.TypeScript

open Checkup.Text

/-- The name of the check. -/
def checkName : String := "TypeScript Types"

/-- A character of a package name. -/
def isPackageChar (c : Char) : Bool := isWord c || c = '@' || c = '.' || c = '/' || c = '-'

/-- A character of a task name. -/
def isTaskChar (c : Char) : Bool := isWord c || c = '-'

/-- The text after a package, a task and their colons, with the blanks before it. -/
def afterTask? (text : List Char) : Option (List Char) := do
  let (_, rest) ← run? isPackageChar text
  let (_, rest) ← run? isTaskChar (← after? [':'] rest)
  after? [':'] rest

/-- An error at a place. -/
structure Diagnostic where
  file : List Char
  line : List Char
  code : List Char
  message : List Char

/-- The code and the message of an error. -/
def codeAndMessage? (text : List Char) : Option (List Char × List Char) := do
  let (digits, rest) ← takeDigits? (← after? ['T', 'S'] text)
  let rest ← after? [':'] rest
  if rest.isEmpty then none else some ('T' :: 'S' :: digits, trimStart rest)

/-- Line and column in brackets, and the error. -/
def bracketTail? (text : List Char) : Option (List Char × List Char × List Char) := do
  let (line, rest) ← takeDigits? (← after? ['('] text)
  let (_, rest) ← takeDigits? (← after? [','] rest)
  let rest ← after? [')', ':'] rest
  let rest ← after? "error".toList (trimStart rest)
  let found ← codeAndMessage? (trimStart rest)
  some (line, found)

/-- Line and column behind colons, and the error behind a hyphen. -/
def colonTail? (text : List Char) : Option (List Char × List Char × List Char) := do
  let (line, rest) ← takeDigits? (← after? [':'] text)
  let (_, rest) ← takeDigits? (← after? [':'] rest)
  let rest ← after? ['-'] (← takeBlanks? rest)
  let rest ← after? "error".toList (← takeBlanks? rest)
  let found ← codeAndMessage? (← takeBlanks? rest)
  some (line, found)

/-- The shortest file in front of a place of the given shape. -/
def atPlace? (place : List Char → Option (List Char × List Char × List Char)) (text : List Char) :
    Option Diagnostic :=
  (shortest (fun _ => true) place text).map fun (file, line, code, message) =>
    { file, line, code, message }

/-- The error of a line, behind a package and a task if that is possible. -/
def ofShape? (place : List Char → Option (List Char × List Char × List Char)) (line : List Char) :
    Option Diagnostic :=
  let behindTask := do
    let rest ← afterTask? line
    let (_, found) ← longestSome isBlank (atPlace? place) rest
    some found
  match behindTask with
  | some found => some found
  | none => atPlace? place line

/-- The error of a line in either shape. -/
def diagnostic? (line : List Char) : Option Diagnostic :=
  match ofShape? bracketTail? line with
  | some found => some found
  | none => ofShape? colonTail? line

/-- A line that speaks of an error. -/
def speaksOfError (line : List Char) : Bool :=
  occurs "error TS".toList line || occurs ": error".toList line

/-- The issue of a line that speaks of an error. -/
def issueOf (root : Option String) (line : List Char) : Outcome Issue :=
  match diagnostic? line with
  | some found => do
    let file ← (Value.text (String.ofList (trim found.file))).toPath root
    let number ← (Value.text (String.ofList found.line)).toLine
    .ok {
      severity := .error
      message := .text (String.ofList (trim found.message))
      file
      line := .ofLine? number
      rule := .text (String.ofList found.code) }
  | none => .ok { severity := .error, message := .text (String.ofList (trim line)) }

/-- The issues of a text. -/
def issuesOfText (root : Option String) (text : String) : Outcome (List Issue) :=
  ((lines text.toList).filter speaksOfError).mapM (issueOf root)

/-- Both streams as text, unless they are blank. -/
def read (stdout stderr : String) : Reading Value :=
  let text := Dialect.bothStreams stdout stderr
  if allBlank text.toList then .empty else .text text

/-- The dialect, for paths below the given root. -/
def dialect (root : Option String) : Dialect Value where
  checkName
  ruleStem := "typescript"
  read stdout stderr := .ok (read stdout stderr)
  remark _ _ := none
  scanned := Dialect.bothStreams
  ofStructured _ _ := .ok []
  ofText := issuesOfText root
  announcement := foundCount " error"
  unreadMessage count := toString count ++ " type error report(s) could not be parsed"
  unreadSeverity := .error
  summary issues := toString issues.length ++ " type errors"

end Checkup.TypeScript
