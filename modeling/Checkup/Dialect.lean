import Checkup.Check
import Checkup.Json.Reader
import Checkup.Path
import Checkup.Text.Counting

/-!
# Dialects

The output of a tool is read in up to three steps. Output with a known
structure is taken apart; other output is scanned line by line; and where
neither gives an issue, but the output announces findings all the same, one
issue says how many were announced. So output that cannot be read is not
mistaken for a clean report.
-/

namespace Checkup

/-- How output was recognised. -/
inductive Reading (Payload : Type) where
  | structured (schema : String) (payload : Payload)
  | text (text : String)
  | empty

/-- The dialect of a tool: what its output looks like and what it means. -/
structure Dialect (Payload : Type) where
  /-- The name of the check that the output belongs to. -/
  checkName : String
  /-- What the rule of the issue about unread findings starts with. -/
  ruleStem : String
  /-- Recognise output by its two streams. -/
  read : (stdout stderr : String) → Outcome (Reading Payload)
  /-- What is worth a note about output without a known structure. -/
  remark : (stdout stderr : String) → Option String
  /-- The text that is scanned for want of a structure. -/
  scanned : (stdout stderr : String) → String
  /-- The issues of output with a known structure. -/
  ofStructured : String → Payload → Outcome (List Issue)
  /-- The issues of a text, line by line. -/
  ofText : String → Outcome (List Issue)
  /-- Announcements of findings: the digits of their number, or one finding each. -/
  announcement : Text.Recogniser (Option (List Char))
  /-- What the issue about so many unread findings says. -/
  unreadMessage : Nat → String
  /-- The severity of that issue. -/
  unreadSeverity : Severity
  /-- One line about some issues. -/
  summary : List Issue → String

namespace Dialect

variable {Payload : Type}

/-- The number of findings of one announcement. -/
def announced : Option (List Char) → Outcome Nat
  | none => .ok 1
  | some digits =>
    match Text.toNat? digits with
    | some n => .ok n
    | none => .error (.tooManyDigits digits.length)

/-- The number of findings that a text announces. -/
def announcedIn (dialect : Dialect Payload) (text : String) : Outcome Nat := do
  let counts ← (Text.sightings dialect.announcement none text.toList).mapM announced
  .ok (counts.foldl (· + ·) 0)

/-- The issue about findings that a text announces, if it announces any. -/
def unread (dialect : Dialect Payload) (text : String) : Outcome (List Issue) := do
  let count ← dialect.announcedIn text
  if count = 0 then .ok []
  else if isWritable count then
    .ok [{
      severity := dialect.unreadSeverity
      message := .text (dialect.unreadMessage count)
      rule := .text (dialect.ruleStem ++ "/unparsed") }]
  else .error .tooLongNumber

/-- The issues of some output. -/
def issues (dialect : Dialect Payload) (stdout stderr : String) : Outcome (List Issue) := do
  match ← dialect.read stdout stderr with
  | .structured schema payload => dialect.ofStructured schema payload
  | .text text =>
    let found ← dialect.ofText text
    if found.isEmpty then dialect.unread (dialect.scanned stdout stderr) else .ok found
  | .empty => dialect.unread (dialect.scanned stdout stderr)

/-- The note about findings that are announced but not read. -/
def unreadNote (dialect : Dialect Payload) (text : String) : List String :=
  match dialect.announcedIn text with
  | .ok 0 => []
  | .ok count => [dialect.checkName ++ ": " ++ toString count ++ " findings in unparsed output"]
  | .error _ => []

/-- The notes on reading some output. -/
def notes (dialect : Dialect Payload) (stdout stderr : String) : List String :=
  let text := dialect.scanned stdout stderr
  match dialect.read stdout stderr with
  | .ok (.structured schema _) => [dialect.checkName ++ ": structured output (" ++ schema ++ ")"]
  | .ok (.text found) =>
    (dialect.remark stdout stderr).toList ++
      match dialect.ofText found with
      | .ok [] => dialect.unreadNote text
      | _ => []
  | .ok .empty => dialect.unreadNote text
  | .error _ => []

/-- The check that some output gives. -/
def check (dialect : Dialect Payload) (stdout stderr : String) (duration : Int) : Outcome Check := do
  let found ← dialect.issues stdout stderr
  .ok (.ofIssues dialect.checkName found duration (dialect.summary found) (some (stdout ++ stderr)))

/-- Output that is a JSON document of a known schema; other output is scanned. -/
def readJson (schemaOf : Value → Option String) (scanned : String → String → String)
    (stdout stderr : String) : Reading Value :=
  let text := Text.trim stdout.toList
  if text.isEmpty then .empty
  else
    match Json.read? text with
    | none | some .null => .text (scanned stdout stderr)
    | some payload =>
      match schemaOf payload with
      | none => .text (scanned stdout stderr)
      | some schema => .structured schema payload

/-- The note about a JSON document of no known schema. -/
def remarkJson (checkName : String) (schemaOf : Value → Option String) (stdout _stderr : String) :
    Option String :=
  match Json.read? (Text.trim stdout.toList) with
  | none | some .null => none
  | some payload =>
    if (schemaOf payload).isNone then
      some (checkName ++ ": unrecognised JSON shape, scanning text")
    else none

/-- The first stream alone. -/
def stdoutOnly (stdout _stderr : String) : String := stdout

/-- Both streams, one after the other. -/
def bothStreams (stdout stderr : String) : String := stdout ++ stderr

/-- What the issue about unread findings says unless a tool has words of its own. -/
def unreadDefault (count : Nat) : String :=
  toString count ++ " findings reported but not parsed (see rawOutput in the JSON report)"

/-- Numbers of errors and warnings. -/
def summaryDefault (issues : List Issue) : String :=
  toString (Issue.count .error issues) ++ " errors, " ++ toString (Issue.count .warning issues) ++
    " warnings"

/-- A dialect that knows nothing: no structure, no issues and no announcements. -/
def blank : Dialect Value where
  checkName := ""
  ruleStem := ""
  read stdout stderr := .ok (readJson (fun _ => none) stdoutOnly stdout stderr)
  remark := remarkJson "" fun _ => none
  scanned := stdoutOnly
  ofStructured _ _ := .ok []
  ofText _ := .ok []
  announcement _ _ := none
  unreadMessage := unreadDefault
  unreadSeverity := .warning
  summary := summaryDefault

end Dialect

namespace Value

/-- The whole number that a value stands for: whole part of a number, number
that a text writes. -/
def toWhole : Value → Outcome Int
  | .int n => .ok n
  | .bool value => .ok (if value then 1 else 0)
  | .float .nan => .error .noNumber
  | .float number =>
    match number.truncate? with
    | some n => .ok n
    | none => .error .infiniteNumber
  | .text written =>
    match Text.toInt? written.toList with
    | some n => .ok n
    | none => .error (.notWhole written)
  | value =>
    .error (.wrongKind ("int() argument must be a string, a bytes-like object or a real number, not '" ++
      value.kindName ++ "'"))

/-- A reported line as a positive number, or nothing; an infinite one is a fault. -/
def toLine (value : Value) : Outcome (Option Int) :=
  match toWhole value with
  | .ok n => .ok (if 0 < n then some n else none)
  | .error .infiniteNumber => .error .infiniteNumber
  | .error _ => .ok none

/-- A line of an issue. -/
def ofLine? : Option Int → Value
  | some n => .int n
  | none => .null

/-- The severity under a label in a table; texts are looked up in small letters. -/
def toSeverity (table : List (Scalar × Severity)) (default : Severity) : Value → Outcome Severity
  | .list _ => .error (.unhashable "list")
  | .mapping _ => .error (.unhashable "dict")
  | .scalar (.text label) =>
    .ok ((table.lookup (.text (String.ofList (Text.lower label.toList)))).getD default)
  | .scalar label =>
    .ok (((table.find? fun row => row.1.sameKey label).map (·.2)).getD default)

/-- Backslashes as slashes. -/
def slashed (path : List Char) : List Char := path.map fun c => if c = '\\' then '/' else c

/-- A root folder as the start of the paths below it. -/
def rootStart (root : String) : List Char :=
  ((slashed root.toList).reverse.dropWhile (· = '/')).reverse ++ ['/']

/-- A path below the root without the root, and any other path as it is. -/
def withoutRoot (root : Option String) (path : List Char) : List Char :=
  match root with
  | none => path
  | some root => Text.afterOptional (rootStart root) path

/-- A root folder that no file system admits. -/
def isBadRoot (root : Option String) : Bool := root.any fun root => root.contains '\x00'

/-- A reported path with slashes, relative to the root; absent for an absent or
an empty one. -/
def toPath (root : Option String) : Value → Outcome Value
  | .null => .ok .null
  | .text "" => .ok .null
  | value =>
    if isBadRoot root then .error .nullCharacter
    else
      let shown := withoutRoot root (Text.trim (slashed value.display.toList))
      .ok (if shown.isEmpty then .null else .text (String.ofList shown))

end Value

end Checkup
