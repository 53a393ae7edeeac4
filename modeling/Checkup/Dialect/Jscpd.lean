import Checkup.Dialect
import Checkup.Text.Lines

/-!
# jscpd

jscpd prints a block for every piece of code that occurs twice: a header, the
first place with the number of lines, and the second place. The text is
coloured, and other lines may stand between those of a block. If every header
has its three lines next to each other the blocks are the structure of the
output; otherwise each block is searched for its two places.
-/

namespace Checkup.Jscpd

open Checkup.Text

/-- The name of the check. -/
def checkName : String := "Duplicate Code (jscpd)"

/-- What every block starts with. -/
def header : List Char := "Clone found".toList

/-- A colour parameter: a digit or a semicolon. -/
def isParameter (c : Char) : Bool := ('0' ≤ c && c ≤ '9') || c = ';'

/-- The text after a colour sequence that starts it: the parameters and a letter. -/
def afterColour? (text : List Char) : Option (List Char) :=
  match text.dropWhile isParameter with
  | c :: rest => if c.isAlpha then some rest else none
  | [] => none

/-- The rest after a colour sequence is shorter. -/
theorem length_afterColour? {text rest : List Char} (h : afterColour? text = some rest) :
    rest.length < text.length := by
  unfold afterColour? at h
  split at h
  · next c tail hd =>
    split at h
    · cases h
      have hle := (text.dropWhile_suffix isParameter).length_le
      rw [hd] at hle
      simp only [List.length_cons] at hle
      omega
    · simp at h
  · simp at h

/-- The text without its colour sequences. -/
def uncoloured : List Char → List Char
  | [] => []
  | '\x1b' :: '[' :: rest =>
    match h : afterColour? rest with
    | some tail =>
      have := length_afterColour? h
      uncoloured tail
    | none => '\x1b' :: uncoloured ('[' :: rest)
  | c :: rest => c :: uncoloured rest
termination_by text => text.length
decreasing_by all_goals simp only [List.length_cons]; omega

/-- The first and the last line of a place. -/
structure Span where
  first : List Char
  last : List Char

/-- Line and column. -/
def takePosition? (text : List Char) : Option (List Char × List Char) := do
  let (line, rest) ← takeDigits? text
  let (_, rest) ← takeDigits? (← after? [':'] rest)
  some (line, rest)

/-- A span in brackets: two positions with a hyphen between them. -/
def takeSpan? (text : List Char) : Option (Span × List Char) := do
  let (first, rest) ← takePosition? (← after? ['['] text)
  let rest ← after? ['-'] (trimStart rest)
  let (last, rest) ← takePosition? (trimStart rest)
  some (⟨first, last⟩, ← after? [']'] rest)

/-- A number of lines after an opening bracket. -/
def takeLineCount? (text : List Char) : Option (List Char × List Char) := do
  let (count, rest) ← takeDigits? (← after? ['('] (trimStart text))
  some (count, ← after? "lines".toList (trimStart rest))

/-- Two places with the same code, and its number of lines. -/
structure Clone where
  first : List Char
  firstSpan : Span
  second : List Char
  secondSpan : Span
  count : List Char

/-- A character that stays on its line. -/
def staysOnLine (c : Char) : Bool := c != '\n'

/-- A second place: a file up to the first span behind it. -/
def secondPlace? (text : List Char) : Option (List Char × Span) :=
  shortest staysOnLine (fun rest => (takeSpan? (trimStart rest)).map (·.1)) text

/-- Blanks with a line feed among them, in front of a second place. Blanks
after the line feed may belong to the file if nothing else does. -/
def nextLine? (text : List Char) : Option (List Char × Span) :=
  match after? ['\n'] (text.dropWhile fun c => isBlank c && c != '\n') with
  | some rest => (longest isBlank secondPlace? rest).map (·.2)
  | none => none

/-- What follows the first file: its span, the number of lines, and the second place. -/
def firstTail? (text : List Char) : Option (Span × List Char × List Char × Span) := do
  let (span, rest) ← takeSpan? (trimStart text)
  let (count, rest) ← takeLineCount? rest
  let rest ← after? [')'] (rest.dropWhile (· != ')'))
  let (second, secondSpan) ← nextLine? rest
  some (span, count, second, secondSpan)

/-- A whole block with its three lines next to each other. -/
def block? (text : List Char) : Option Clone := do
  let (_, rest) ← run? isWord (← after? "Clone found (".toList text)
  let rest ← after? "):".toList rest
  let blanks := rest.takeWhile isBlank
  let rest ← if blanks.contains '\n' then after? ['-'] (trimStart rest) else none
  let (_, first, firstSpan, count, second, secondSpan) ←
    longest isBlank (shortest staysOnLine firstTail?) rest
  some { first, firstSpan, second, secondSpan, count }

/-- What follows the first file of a block that is searched line by line. -/
def looseTail? (text : List Char) : Option (Span × List Char) := do
  let (span, rest) ← takeSpan? (trimStart text)
  let (count, _) ← takeLineCount? rest
  some (span, count)

/-- A first place behind a hyphen: file, span and number of lines. -/
def firstPlace? (text : List Char) : Option (List Char × Span × List Char) := do
  let rest ← after? ['-'] text
  let (_, found) ← longest isBlank (shortest (fun _ => true) looseTail?) rest
  some found

/-- A second place on a line of its own; a hyphen and a blank start no file. -/
def secondLine? (line : List Char) : Option (List Char × Span) :=
  match trimStart line with
  | '-' :: c :: rest => if isBlank c then none else place ('-' :: c :: rest)
  | text => place text
where
  /-- A file on the line, and its span. -/
  place (text : List Char) : Option (List Char × Span) :=
    shortest (fun _ => true) (fun rest => (takeSpan? (trimStart rest)).map (·.1)) text

/-- The two places of a block, wherever they stand among its lines. -/
def searchBlock : Option (List Char × Span × List Char) → List (List Char) → Option Clone
  | _, [] => none
  | none, line :: rest => searchBlock (firstSighting (fun _ text => firstPlace? text) none line) rest
  | some (first, firstSpan, count), line :: rest =>
    match secondLine? line with
    | some (second, secondSpan) =>
      some { first := trim first, firstSpan, second := trim second, secondSpan, count }
    | none => searchBlock (some (first, firstSpan, count)) rest

/-- The lines of a span as numbers. -/
structure LineRange where
  first : Nat
  last : Nat

/-- A number that output writes. -/
def number (digits : List Char) : Outcome Nat :=
  match toNat? digits with
  | some n => .ok n
  | none => .error (.tooManyDigits digits.length)

/-- The line numbers of a span. -/
def Span.numbers (span : Span) : Outcome LineRange := do
  .ok ⟨← number span.first, ← number span.last⟩

/-- A clone with its numbers read. -/
structure Duplicate where
  first : List Char
  firstRange : LineRange
  second : List Char
  secondRange : LineRange
  lines : Nat

/-- Read the numbers of a clone. -/
def Clone.read (clone : Clone) : Outcome Duplicate := do
  let firstRange ← clone.firstSpan.numbers
  let secondRange ← clone.secondSpan.numbers
  let lines ← number clone.count
  .ok { first := clone.first, firstRange, second := clone.second, secondRange, lines }

/-- A range of lines as a message shows it. -/
def rangeWord (range : LineRange) : String :=
  "L" ++ toString range.first ++ "-" ++ toString range.last

/-- The issue of a duplicate. -/
def issueOf (root : Option String) (duplicate : Duplicate) : Outcome Issue := do
  let first ← (Value.text (String.ofList duplicate.first)).toPath root
  let second ← (Value.text (String.ofList duplicate.second)).toPath root
  .ok {
    severity := .warning
    message := .text ("Duplicate code (" ++ toString duplicate.lines ++ " lines): " ++ first.display ++
      " " ++ rangeWord duplicate.firstRange ++ " also in " ++ second.display ++ " " ++
      rangeWord duplicate.secondRange)
    file := first
    line := .int duplicate.firstRange.first
    rule := .text "jscpd/duplicate" }

/-- Both streams without colours. -/
def scanned (stdout stderr : String) : String := String.ofList (uncoloured (stdout ++ stderr).toList)

/-- Number of headers in a text. -/
def headerCount (text : List Char) : Nat := (sightings (following header) none text).length

/-- The whole blocks of a text. -/
def blocks (text : List Char) : List Clone := sightings (fun _ text => block? text) none text

/-- Recognise output: empty without a header, and structured if every header has its block. -/
def read (stdout stderr : String) : Outcome (Reading (List Duplicate)) := do
  let text := (scanned stdout stderr).toList
  let headers := headerCount text
  if headers = 0 then .ok .empty
  else
    let clones ← (blocks text).mapM Clone.read
    .ok (if clones.length = headers then .structured "console" clones
      else .text (scanned stdout stderr))

/-- The note about headers without their blocks. -/
def remark (stdout stderr : String) : Option String :=
  let text := (scanned stdout stderr).toList
  some ("jscpd: " ++ toString (blocks text).length ++ " of " ++ toString (headerCount text) ++
    " blocks contiguous, scanning per block")

/-- The issues of the blocks of a text, each searched by itself. -/
def issuesOfText (root : Option String) (text : String) : Outcome (List Issue) := do
  let found := (partsAfter header text.toList).filterMap fun part =>
    searchBlock none ((lines part).drop 1)
  (← found.mapM Clone.read).mapM (issueOf root)

/-- A percentage as a number; whatever writes no number is none. -/
def percentage? : Value → Outcome (Option Binary64)
  | .int n =>
    match Binary64.ofInt? n with
    | some number => .ok (some number)
    | none => .error .hugeNumber
  | .bool value => .ok (Binary64.ofInt? (if value then 1 else 0))
  | .float number => .ok (some number)
  | .text text => .ok (toBinary64? text.toList)
  | _ => .ok none

/-- The total of the statistics of a document. -/
def statisticsTotal? (document : Value) : Option Entries := do
  let statistics ← (Entries.get (← document.entries?) "statistics").entries?
  (Entries.get statistics "total").entries?

/-- The issue about the overall duplication, if the statistics tell of any. -/
def statisticsIssues (text : String) : Outcome (List Issue) := do
  match (Json.read? text.toList) >>= statisticsTotal? with
  | none => .ok []
  | some total =>
    match ← percentage? (Entries.get total "percentage") with
    | none => .ok []
    | some percentage =>
      if percentage.isZero then .ok []
      else
        let shown (key : String) := ((Entries.find? total key).getD (.text "?")).display
        .ok [{
          severity := .info
          message := .text ("Overall duplication: " ++ String.ofList percentage.onePlace ++
            "% of codebase (" ++ shown "clones" ++ " clones, " ++ shown "duplicatedLines" ++
            " duplicated lines)")
          rule := .text "jscpd/stats" }]

/-- Number of warnings. -/
def summary (issues : List Issue) : String :=
  toString (Issue.count .warning issues) ++ " duplicate blocks found"

/-- The dialect, for paths below the given root. -/
def dialect (root : Option String) : Dialect (List Duplicate) where
  checkName
  ruleStem := "jscpd"
  read
  remark
  scanned
  ofStructured _ clones := clones.mapM (issueOf root)
  ofText := issuesOfText root
  announcement _ text := (after? header text).map fun _ => none
  unreadMessage count :=
    "Found " ++ toString count ++ " code duplications (see rawOutput in the JSON report)"
  unreadSeverity := .warning
  summary

end Checkup.Jscpd
