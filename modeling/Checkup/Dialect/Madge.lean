import Checkup.Dialect
import Checkup.Text.Lines

/-!
# madge

madge is asked twice: for files that nothing imports, and for modules whose
imports form a circle. Both answers make up one check.
-/

namespace Checkup.Madge

open Checkup.Text

/-- The name of the check. -/
def checkName : String := "Dependency Graph (madge)"

/-- The ends of the names of source files. -/
def sourceSuffixes : List String := [".ts", ".tsx", ".js", ".jsx", ".mjs", ".cjs"]

/-- What lines start with that list no file. -/
def noiseStarts : List String := ["Using", "Processed", "Finding", "Skipped"]

/-- The text after the last slash. -/
def lastName (path : List Char) : List Char :=
  match cutLast? '/' path with
  | some (_, name) => name
  | none => path

/-- A file that nothing has to import: a configuration or generated code. -/
def isExpectedOrphan (path : List Char) : Bool :=
  occurs "config.".toList (lastName path) || occurs "_generated".toList path

/-- The folder that orphans are listed from, without slashes around it and
without a dot before it. -/
def orphanBase (base : String) : List Char :=
  let slashed := Value.slashed base.toList
  let inner := ((slashed.dropWhile (· = '/')).reverse.dropWhile (· = '/')).reverse
  afterOptional "./".toList inner

/-- An orphan below the folder it is listed from. -/
def orphanPath (base : List Char) (orphan : List Char) : List Char :=
  if base.isEmpty then orphan else base ++ '/' :: orphan

/-- The issue about an orphan. -/
def orphanIssue (base : List Char) (root : Option String) (orphan : List Char) : Outcome Issue := do
  let expected := isExpectedOrphan orphan
  let file ← (Value.text (String.ofList (orphanPath base orphan))).toPath root
  .ok {
    severity := if expected then .info else .warning
    message := .text (if expected then "Config file (expected to be standalone)"
      else "Orphan file - nothing imports this")
    file
    rule := .text "madge/orphan" }

/-- A list of texts. -/
def orphanSchemaOf : Value → Option String
  | .list items => if items.all Value.isText then some "json" else none
  | _ => none

/-- A line that lists an orphan. -/
def isOrphanLine (line : List Char) : Bool :=
  !line.isEmpty && !occurs "No orphans".toList line &&
    !(noiseStarts.any fun start => start.toList.isPrefixOf line) &&
    !occurs "files (".toList line &&
    sourceSuffixes.any fun suffix => suffix.toList.isSuffixOf line

/-- The orphans that a text lists. -/
def orphansOfText (text : String) : List (List Char) :=
  ((lines text.toList).map trim).filter isOrphanLine

/-- The dialect of orphans, listed from a base folder. -/
def orphans (base : String) (root : Option String) : Dialect Value where
  checkName
  ruleStem := "madge/orphan"
  read stdout stderr := .ok (Dialect.readJson orphanSchemaOf Dialect.stdoutOnly stdout stderr)
  remark := Dialect.remarkJson checkName orphanSchemaOf
  scanned := Dialect.stdoutOnly
  ofStructured _ payload :=
    payload.items.mapM fun item => orphanIssue (orphanBase base) root item.display.toList
  ofText text := (orphansOfText text).mapM (orphanIssue (orphanBase base) root)
  announcement _ _ := none
  unreadMessage := Dialect.unreadDefault
  unreadSeverity := .warning
  summary := Dialect.summaryDefault

/-- The issue about a circle. -/
def circleIssue (circle : String) : Issue where
  severity := .error
  message := .text ("Circular: " ++ circle)
  rule := .text "madge/circular"

/-- A list of lists. -/
def circularSchemaOf : Value → Option String
  | .list items => if items.all Value.isList then some "json" else none
  | _ => none

/-- The circles of a document that are not empty. -/
def circlesOf (payload : Value) : List String :=
  (payload.items.filter fun circle => !circle.items.isEmpty).map fun circle =>
    String.intercalate " → " (circle.items.map Value.display)

/-- The circle of a numbered row. -/
def numberedCircle? (line : List Char) : Option (List Char) := do
  let (_, rest) ← takeDigits? (trimStart line)
  let rest ← after? [')'] rest
  let (_, circle, _) ←
    longestSome isBlank
      (shortest (fun _ => true) fun text => if allBlank text then some () else none) rest
  some circle

/-- The circle of a line: a numbered row, or a line with an arrow. -/
def circleOfLine? (line : List Char) : Option (List Char) :=
  if "Processed".toList.isPrefixOf line then none
  else
    match numberedCircle? line with
    | some circle => some circle
    | none =>
      if occurs ['→'] line || occurs ['-', '>'] line then some (trim line) else none

/-- The dialect of circles. -/
def circular : Dialect Value where
  checkName
  ruleStem := "madge/circular"
  read stdout stderr := .ok (Dialect.readJson circularSchemaOf Dialect.stdoutOnly stdout stderr)
  remark := Dialect.remarkJson checkName circularSchemaOf
  scanned := Dialect.stdoutOnly
  ofStructured _ payload := .ok ((circlesOf payload).map circleIssue)
  ofText text := .ok (((lines text.toList).filterMap circleOfLine?).map fun circle =>
    circleIssue (String.ofList circle))
  announcement := foundCountCaseless " circular dependenc"
  unreadMessage count := toString count ++ " circular dependency report(s) could not be parsed"
  unreadSeverity := .error
  summary := Dialect.summaryDefault

/-- Numbers of circles and of orphans. -/
def summary (issues : List Issue) : String :=
  toString (Issue.count .error issues) ++ " circular deps, " ++
    toString (Issue.count .warning issues) ++ " orphan files"

/-- The check that both answers give together. -/
def check (orphansOutput circularOutput : String) (duration : Int) (base : String)
    (root : Option String) : Outcome Check := do
  let found := (← (orphans base root).issues orphansOutput "") ++ (← circular.issues circularOutput "")
  .ok (.ofIssues checkName found duration (summary found)
    (some (orphansOutput ++ "\n---\n" ++ circularOutput)))

end Checkup.Madge
