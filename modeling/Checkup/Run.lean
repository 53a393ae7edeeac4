import Checkup.Attempt
import Checkup.Dialect.Architecture
import Checkup.Dialect.Eslint
import Checkup.Dialect.Jscpd
import Checkup.Dialect.Knip
import Checkup.Dialect.Madge
import Checkup.Dialect.Oxlint
import Checkup.Dialect.TypeScript
import Checkup.Folder.Survey
import Checkup.Report
import Checkup.Settings
import Checkup.Source.Survey

/-!
# Runs

A run makes nine checks in a fixed order. Some ask a tool and some look at the
source files. A check that fails on the way becomes a failed check that says
why, so that every run ends with a report.
-/

namespace Checkup

/-- The checks of a run. -/
inductive CheckKind where
  | oxlint
  | eslint
  | knip
  | jscpd
  | madge
  | typeScript
  | complexity
  | architecture
  | folders
  deriving DecidableEq, Repr

namespace CheckKind

/-- All checks in the order of the report. -/
def all : List CheckKind :=
  [oxlint, eslint, knip, jscpd, madge, typeScript, complexity, architecture, folders]

/-- The name of a check. -/
def name : CheckKind → String
  | oxlint => Oxlint.checkName
  | eslint => Eslint.checkName
  | knip => Knip.checkName
  | jscpd => Jscpd.checkName
  | madge => Madge.checkName
  | typeScript => TypeScript.checkName
  | complexity => Source.checkName
  | architecture => Architecture.checkName
  | folders => Folder.checkName

/-- A check that a quick run leaves out. -/
def isSlow : CheckKind → Bool
  | jscpd | madge | architecture => true
  | _ => false

end CheckKind

/-- The flags of a run. -/
structure RunFlags where
  /-- Leave the slow checks out. -/
  quick : Bool := false
  /-- Let the fast linter mend what it can. -/
  fix : Bool := false
  deriving DecidableEq, Repr

/-- What a run finds around it. -/
structure Workplace where
  tree : FileTree
  tools : Tools
  /-- What every measured piece of work takes, in milliseconds. -/
  elapsed : Int := 0

namespace Workplace

variable (place : Workplace) (settings : Settings)

/-- The root folder as tools write it in front of their paths. -/
def rootText : Option String := some (settings.rootPath.absolute place.tree.workingFolder)

/-- The check that some output gives. -/
def interpret {Payload : Type} (dialect : Dialect Payload) (output : ToolOutput) : Attempt Check := do
  .noteAll .debug (dialect.notes output.stdout output.stderr)
  .ofOutcome (dialect.check output.stdout output.stderr place.elapsed)

/-- Ask a tool and read what it answers. -/
def ask {Payload : Type} (announcement tool : String) (arguments : List String)
    (dialect : Dialect Payload) : Attempt Check := do
  .note .info announcement
  place.interpret dialect (← .call place.tools tool arguments)

/-- The arguments of the fast linter. -/
def oxlintArguments (fix : Bool) : List String :=
  ["--format", "json"] ++ if fix then ["--fix"] else []

/-- The arguments of the linter of modules. -/
def eslintArguments : List String :=
  [".", "--ext", ".ts,.tsx", "--format", "json", "--max-warnings", "0"]

/-- Files in which duplicates are not looked for. -/
def jscpdIgnored : String := "**/node_modules/**,**/*.test.*,**/_generated/**,**/routeTree.gen.ts"

/-- The arguments of the search for duplicates. -/
def jscpdArguments : Outcome (List String) := do
  .ok (settings.duplicateTargets ++
    ["--min-lines", ← writeWhole settings.duplicateMinLines,
     "--reporters", "json,console",
     "--ignore", jscpdIgnored])

/-- The text of the statistics of duplicates, empty if there is no such file. -/
def statisticsText : Attempt String :=
  let path := settings.below settings.duplicateStatistics
  match place.tree.readText path with
  | .ok text => .pure (String.ofList text)
  | .error (.file fault) => do
    .note .debug ("No jscpd statistics at " ++ path.toString ++ ": " ++ fault.message)
    .pure ""
  | .error fault => .ofOutcome (.error fault)

/-- Look for duplicates. -/
def findDuplicates : Attempt Check := do
  .note .info "Running jscpd (duplicate detection)..."
  let arguments ← .ofOutcome (jscpdArguments settings)
  let output ← .call place.tools "jscpd" arguments
  let dialect := Jscpd.dialect (place.rootText settings)
  .noteAll .debug (dialect.notes output.stdout output.stderr)
  let found ← .ofOutcome (dialect.issues output.stdout output.stderr)
  let text ← place.statisticsText settings
  let further ← .ofOutcome (Jscpd.statisticsIssues text)
  let issues := found ++ further
  .pure (.ofIssues Jscpd.checkName issues place.elapsed (Jscpd.summary issues) (some output.combined))

/-- The arguments of a question about dependencies. -/
def madgeArguments (question : String) : List String :=
  [question, "--json", "--extensions", "ts,tsx", settings.dependencyTarget]

/-- Ask for orphans and circles among the dependencies. -/
def lookAtDependencies : Attempt Check := do
  .note .info "Running madge (orphans & circular deps)..."
  let orphans ← .call place.tools "madge" (madgeArguments settings "--orphans")
  let circular ← .call place.tools "madge" (madgeArguments settings "--circular")
  let base := settings.dependencyTarget
  let root := place.rootText settings
  .noteAll .debug ((Madge.orphans base root).notes orphans.stdout "")
  .noteAll .debug (Madge.circular.notes circular.stdout "")
  .ofOutcome (Madge.check orphans.stdout circular.stdout place.elapsed base root)

/-- The arguments of the check of boundaries. -/
def architectureArguments : List String :=
  ["--config", settings.architectureConfig, "--output-type", "json", settings.architectureTarget]

/-- The issue about boundaries that nobody defined. -/
def noBoundariesIssue : Issue where
  severity := .info
  message := .text ("No " ++ settings.architectureConfig ++ " config found - skipping architecture check")
  fix := .text ("Create " ++ settings.architectureConfig ++ " to define module boundaries")

/-- Check the boundaries between modules if they are defined. -/
def checkBoundaries : Attempt Check :=
  if place.tree.hasFile (settings.below settings.architectureConfig) then
    place.ask "Running architecture boundary check..." "dependency-cruiser"
      (architectureArguments settings) (Architecture.dialect (place.rootText settings))
  else
    .pure (.skipped Architecture.checkName "Config not found" [noBoundariesIssue settings]
      (.int place.elapsed))

/-- Measure the source files. -/
def measureSource : Attempt Check := do
  .note .info "Running complexity analysis..."
  let files ← .ofOutcome (Source.files place.tree settings.sourcePath)
  let profiles := Source.profiles place.tree settings.rootPath files
  .noteAll .debug (Source.unreadableNotes place.tree settings.rootPath files)
  .note .debug ("Analyzed " ++ toString profiles.length ++ " source files")
  .pure (Source.check profiles place.elapsed)

/-- Measure the folders. -/
def measureFolders : Attempt Check := do
  .note .info "Running structure analysis..."
  let folders ← .ofOutcome (Folder.survey place.tree settings.rootPath settings.sourcePath)
  .noteAll .debug (Folder.surveyNotes place.tree settings.sourcePath)
  let further := Folder.featureIssues place.tree settings.rootPath settings.sourcePath
  .pure (Folder.check folders further place.elapsed)

/-- What the summary of a check says that a quick run leaves out. -/
def quickReason : String := "Skipped (--quick mode)"

/-- One check, which may fail on the way. -/
def attempt (flags : RunFlags) (kind : CheckKind) : Attempt Check :=
  if flags.quick && kind.isSlow then .pure (.skipped kind.name quickReason [] (.int 0))
  else
    let root := place.rootText settings
    match kind with
    | .oxlint =>
      place.ask "Running oxlint..." "oxlint" (oxlintArguments flags.fix) (Oxlint.dialect root)
    | .eslint =>
      place.ask "Running ESLint (import/complexity rules)..." "eslint" eslintArguments
        (Eslint.dialect root)
    | .knip =>
      place.ask "Running knip (dead code detection)..." "knip" ["--reporter", "json"]
        (Knip.dialect root)
    | .jscpd => place.findDuplicates settings
    | .madge => place.lookAtDependencies settings
    | .typeScript =>
      place.ask "Running TypeScript type check..." "turbo"
        ["check-types", "--output-logs=errors-only"] (TypeScript.dialect root)
    | .complexity => place.measureSource settings
    | .architecture => place.checkBoundaries settings
    | .folders => place.measureFolders settings

end Workplace

/-- The rule of the issue about a check that failed on the way. -/
def crashRule : String := "internal/check-crashed"

/-- The check that stands in the report for one that failed on the way. -/
def Check.crashed (name : String) (elapsed : Int) (fault : Fault) : Check :=
  .ofIssues name
    [{ severity := .error
       message := .text ("Check crashed: " ++ fault.kind ++ ": " ++ fault.message)
       rule := .text crashRule }]
    elapsed "Check failed to run" none

/-- A check that was made, with the calls and the notes on the way. -/
structure CheckRecord where
  check : Check
  calls : List ToolCall
  notes : List Note

/-- The record of an attempt at a check. -/
def CheckRecord.ofAttempt (name : String) (elapsed : Int) (attempt : Attempt Check) : CheckRecord :=
  match attempt.result with
  | .ok check => ⟨check, attempt.calls, attempt.notes⟩
  | .error fault =>
    ⟨.crashed name elapsed fault, attempt.calls,
      attempt.notes ++ [⟨.warning, name ++ " failed: " ++ fault.message⟩]⟩

/-- A finished run. -/
structure Run where
  report : Report
  calls : List ToolCall
  notes : List Note

namespace Workplace

variable (place : Workplace) (settings : Settings)

/-- Make one check. -/
def examine (flags : RunFlags) (kind : CheckKind) : CheckRecord :=
  .ofAttempt kind.name place.elapsed (place.attempt settings flags kind)

/-- Make all checks. -/
def records (flags : RunFlags) : List CheckRecord := CheckKind.all.map (place.examine settings flags)

/-- The note about a quick run. -/
def quickNotes (flags : RunFlags) : List Note :=
  if flags.quick then [⟨.info, "Quick mode: skipping jscpd, madge, and architecture checks"⟩] else []

/-- Make all checks and report on them. -/
def run (flags : RunFlags) (timestamp : String) : Run :=
  let records := place.records settings flags
  { report := .ofChecks (records.map (·.check)) place.elapsed timestamp
    calls := records.flatMap (·.calls)
    notes := quickNotes flags ++ records.flatMap (·.notes) }

end Workplace

end Checkup
