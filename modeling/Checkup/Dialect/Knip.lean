import Checkup.Dialect
import Checkup.Text.Lines

/-!
# knip

knip reports dead code as JSON in one of two schemas, or as text in sections:
a title with a number, and rows below it up to a blank line.
-/

namespace Checkup.Knip

open Checkup.Text

/-- The name of the check. -/
def checkName : String := "Dead Code (knip)"

/-- A kind of finding. -/
structure Category where
  severity : Severity
  /-- What the message starts with. -/
  words : String
  rule : String
  deriving DecidableEq, Repr

/-- The rule of the only findings that are files. -/
def unusedFileRule : String := "knip/unused-file"

/-- Files that nothing imports. -/
def unusedFile : Category := ⟨.warning, "Unused file - not imported anywhere", unusedFileRule⟩

/-- Dependencies that nothing imports. -/
def unusedDependency : Category := ⟨.warning, "Unused dependency", "knip/unused-dependency"⟩

/-- The same of dependencies for development. -/
def unusedDevDependency : Category := ⟨.info, "Unused devDependency", "knip/unused-devdep"⟩

/-- Exports that nothing imports. -/
def unusedExport : Category := ⟨.info, "Unused export", "knip/unused-export"⟩

/-- The same of types. -/
def unusedType : Category := ⟨.info, "Unused type", "knip/unused-type"⟩

/-- Imports that lead nowhere. -/
def unresolvedImport : Category := ⟨.error, "Unresolved import", "knip/unresolved"⟩

/-- Dependencies that are used without being declared. -/
def unlistedDependency : Category :=
  ⟨.error, "Unlisted dependency used", "knip/unlisted-dependency"⟩

/-- The keys of an entry of the newer schema, in the order of their issues. -/
def entryCategories : List (String × Category) :=
  [("dependencies", unusedDependency), ("devDependencies", unusedDevDependency),
   ("exports", unusedExport), ("types", unusedType), ("unresolved", unresolvedImport)]

/-- The titles of the sections of a text, in small letters. -/
def sectionCategories : List (String × Category) :=
  [("unused files", unusedFile), ("unused dependencies", unusedDependency),
   ("unused devdependencies", unusedDevDependency), ("unused exports", unusedExport),
   ("unused exported types", unusedType), ("unused types", unusedType),
   ("unresolved imports", unresolvedImport), ("unlisted dependencies", unlistedDependency)]

/-- The schema of a document: the newer one holds issues, the older one any of its keys. -/
def schemaOf : Value → Option String
  | .mapping entries =>
    if (Entries.get entries "issues").isList then some "v5"
    else if ["files", "exports", "dependencies", "unlisted"].any fun key =>
      (Entries.find? entries key).isSome then some "legacy"
    else none
  | _ => none

/-- The issue of a category about something. -/
def Category.about (category : Category) (subject : String) : String := category.words ++ ": " ++ subject

/-- The issues about unused files. -/
def fileIssues (root : Option String) (payload : Entries) : Outcome (List Issue) :=
  (Entries.get payload "files").items.mapM fun file => do
    .ok {
      severity := unusedFile.severity
      message := .text unusedFile.words
      file := ← file.toPath root
      rule := .text unusedFile.rule }

/-- The issues of one category about one file. -/
def categoryIssues (file : Value) (entry : Entries) (key : String) (category : Category) :
    Outcome (List Issue) :=
  (Entries.get entry key).mappings.mapM fun item => do
    let line ← (Entries.get item "line").toLine
    .ok {
      severity := category.severity
      message := .text (category.about (Entries.get item "name").display)
      file
      line := .ofLine? line
      rule := .text category.rule }

/-- The issues about names that a file exports twice. -/
def duplicateIssues (file : Value) (entry : Entries) : List Issue :=
  (Entries.get entry "duplicates").items.filterMap fun group =>
    let names := group.mappings.map fun item => (Entries.get item "name").display
    if 1 < names.length then
      some {
        severity := .info
        message := .text ("Duplicate exports: " ++ String.intercalate ", " names)
        file
        rule := .text "knip/duplicate-export" }
    else none

/-- The issues about one file in the newer schema. -/
def entryIssues (root : Option String) (entry : Entries) : Outcome (List Issue) := do
  let file ← (Entries.get entry "file").toPath root
  let found ← entryCategories.mapM fun (key, category) => categoryIssues file entry key category
  .ok (found.flatten ++ duplicateIssues file entry)

/-- The issues about dependencies under a key of the older schema. -/
def dependencyIssues (payload : Entries) (key : String) (category : Category) : List Issue :=
  (Entries.get payload key).items.map fun dependency =>
    { severity := category.severity
      message := .text (category.about dependency.display)
      rule := .text category.rule }

/-- The issues of the older schema other than unused files. -/
def legacyIssues (root : Option String) (payload : Entries) : Outcome (List Issue) := do
  let exports ← (Entries.get payload "exports").mappings.mapM fun item => do
    .ok {
      severity := unusedExport.severity
      message := .text
        (unusedExport.about ((Entries.get item "name").orElse (Entries.get item "symbol")).display)
      file := ← ((Entries.get item "file").orElse (Entries.get item "filename")).toPath root
      rule := .text unusedExport.rule }
  .ok (exports ++ dependencyIssues payload "dependencies" unusedDependency ++
    dependencyIssues payload "unlisted" unlistedDependency)

/-- The issues of a document of a known schema. -/
def issuesOfDocument (root : Option String) (schema : String) (payload : Value) : Outcome (List Issue) :=
  match payload with
  | .mapping entries => do
    let found ← fileIssues root entries
    let further ← if schema = "v5" then
        List.flatten <$> (Entries.get entries "issues").mappings.mapM (entryIssues root)
      else legacyIssues root entries
    .ok (found ++ further)
  | _ => .ok []

/-- A small or a capital letter of ASCII, or a space. -/
def isTitleChar (c : Char) : Bool := c.isAlpha || c = ' '

/-- A number in brackets behind blanks, at the end of a title. -/
def numberEnd? (text : List Char) : Option Unit := do
  let rest ← after? ['('] (← takeBlanks? text)
  let (_, rest) ← takeDigits? rest
  let rest ← after? [')'] rest
  if allBlank rest then some () else none

/-- The title of a section: at least two letters or spaces, and a number in brackets. -/
def title? : List Char → Option (List Char)
  | [] => none
  | c :: rest =>
    if c.isAlpha then (shortest isTitleChar numberEnd? rest).map fun (further, _) => c :: further
    else none

/-- Put a character before the first column. -/
def extendColumn (c : Char) : List (List Char) → List (List Char)
  | [] => [[c]]
  | column :: more => (c :: column) :: more

/-- The columns of a row: what two blanks or more lie between. -/
def columns : List Char → List (List Char)
  | [] => [[]]
  | [c] => [[c]]
  | c :: d :: rest =>
    if isBlank c && isBlank d then [] :: columns (rest.dropWhile isBlank)
    else extendColumn c (columns (d :: rest))
termination_by row => row.length
decreasing_by
  · have := (rest.dropWhile_suffix isBlank).length_le
    simp only [List.length_cons]
    omega
  · simp

/-- A file with a line, and a column maybe. -/
structure Location where
  file : List Char
  line : Option (List Char)

/-- Digits after a colon, and the text after them. -/
def colonDigits? (text : List Char) : Option (List Char × List Char) := do
  takeDigits? (← after? [':'] text)

/-- A location: a file without blanks and colons, alone or with line and column. -/
def location? (text : List Char) : Option Location := do
  let (file, rest) ← run? (fun c => !isBlank c && c != ':') text
  if rest.isEmpty then some ⟨file, none⟩
  else
    let (line, rest) ← colonDigits? rest
    if rest.isEmpty then some ⟨file, some line⟩
    else
      let (_, rest) ← colonDigits? rest
      if rest.isEmpty then some ⟨file, some line⟩ else none

/-- The issue of a row of a section. -/
def rowIssue (root : Option String) (category : Category) (row : List Char) : Outcome Issue := do
  let columns := columns row
  let first := String.ofList (columns.headD [])
  let issue : Issue :=
    { severity := category.severity, message := .text (category.about first), rule := .text category.rule }
  if category.rule = unusedFileRule then
    .ok { issue with message := .text category.words, file := ← (Value.text first).toPath root }
  else
    match columns with
    | _ :: second :: more =>
      match location? ((second :: more).getLastD []) with
      | some location =>
        let file ← (Value.text (String.ofList location.file)).toPath root
        let line ← (Value.ofText? (location.line.map String.ofList)).toLine
        .ok { issue with file, line := .ofLine? line }
      | none => .ok issue
    | _ => .ok issue

/-- The issues of the rows of a text, below the section that was last opened. -/
def sectionIssues (root : Option String) : Option Category → List (List Char) → Outcome (List Issue)
  | _, [] => .ok []
  | category, line :: rest =>
    let row := trim line
    match title? row with
    | some title => sectionIssues root (sectionCategories.lookup (String.ofList (lower title))) rest
    | none =>
      if row.isEmpty then sectionIssues root none rest
      else
        match category with
        | none => sectionIssues root none rest
        | some known => do
          let issue ← rowIssue root known row
          .ok (issue :: (← sectionIssues root category rest))

/-- A line that speaks of something unused. -/
def speaksOfUnused (line : List Char) : Bool := occurs "unused".toList (lower line)

/-- The issues of a text: of its sections, or of its lines if it has none. -/
def issuesOfText (root : Option String) (text : String) : Outcome (List Issue) := do
  let lines := lines text.toList
  let found ← sectionIssues root none lines
  .ok (if found.isEmpty then
    (lines.filter speaksOfUnused).map fun line =>
      { severity := .warning, message := .text (String.ofList (trim line)) }
    else found)

/-- Numbers of errors, of unused files and dependencies, and of unused exports. -/
def summary (issues : List Issue) : String :=
  toString (Issue.count .error issues) ++ " errors, " ++ toString (Issue.count .warning issues) ++
    " unused files/deps, " ++ toString (Issue.count .info issues) ++ " unused exports"

/-- The dialect, for paths below the given root. -/
def dialect (root : Option String) : Dialect Value where
  checkName
  ruleStem := "knip"
  read stdout stderr := .ok (Dialect.readJson schemaOf Dialect.stdoutOnly stdout stderr)
  remark := Dialect.remarkJson checkName schemaOf
  scanned := Dialect.stdoutOnly
  ofStructured := issuesOfDocument root
  ofText := issuesOfText root
  announcement := wholeWordCaseless "unused"
  unreadMessage := Dialect.unreadDefault
  unreadSeverity := .warning
  summary

end Checkup.Knip
