import Checkup.CommandLine.Arguments
import Checkup.Launch
import Checkup.Report.Files
import Checkup.Settings.Template

/-!
# The command

A command reads its settings, makes a run, writes the reports and shows a
summary, or writes a template for settings. It ends with two streams, an exit
code and a changed tree of files.
-/

namespace Checkup

/-- What a command finds around it. -/
structure Surroundings where
  tree : FileTree
  /-- How tools answer once it is known how they are started. -/
  tools : Launch → Tools
  environment : Variables := {}
  /-- What every measured piece of work takes, in milliseconds. -/
  elapsed : Int := 0
  timestamp : String

/-- How a command ends. -/
structure Ending where
  tree : FileTree
  exitCode : Nat
  /-- The lines of the first stream. -/
  stdout : List String := []
  /-- The lines of the second stream. -/
  stderr : List String := []
  /-- How tools were started, if the command got that far. -/
  launch : Option Launch := none
  calls : List ToolCall := []
  /-- A fault that the command does not answer for. -/
  fault : Option Fault := none

namespace Ending

/-- Lines as a text. -/
def linesText (lines : List String) : String := String.join (lines.map (· ++ "\n"))

/-- The text of the first stream. -/
def stdoutText (ending : Ending) : String := linesText ending.stdout

/-- The text of the second stream. -/
def stderrText (ending : Ending) : String := linesText ending.stderr

end Ending

namespace Command

/-- The version of the command. -/
def versionLine : String := "code-health, version 0.1.0"

/-- How the command is used. -/
def usage : List String :=
  ["Usage: code-health [OPTIONS] COMMAND [ARGS]...",
   "",
   "Options:",
   "  --config TEXT  Path to the configuration file.",
   "  --verbose      Enable verbose logging.",
   "  --version      Show the version and exit.",
   "  --help         Show this message and exit.",
   "",
   "Commands:",
   "  init [--output TEXT]                         Write a template for the configuration.",
   "  run [--quick] [--fix] [--report-dir TEXT]    Make all checks and write the reports."]

/-- The line of the log for a note. Details are only shown on request. -/
def logLine? (verbose : Bool) (note : Note) : Option String :=
  if verbose then some ("[" ++ note.level.name ++ "] " ++ note.text)
  else if note.level = .debug then none
  else some ("  " ++ note.text)

/-- A text with spaces behind it up to a width. -/
def padded (width : Nat) (text : String) : String :=
  text ++ String.ofList (List.replicate (width - text.length) ' ')

/-- A line of a sign. -/
def rule (sign : Char) : String := String.ofList (List.replicate 60 sign)

/-- The line of a check in the summary. -/
def checkLine (check : Check) : String :=
  check.status.glyph ++ " " ++ padded 30 check.name ++ " " ++ check.summary

/-- The line of the totals in the summary. -/
def totalsLine (totals : Totals) : String :=
  "Total: " ++ toString totals.errors ++ " errors, " ++ toString totals.warnings ++ " warnings, " ++
    toString totals.infos ++ " info"

/-- The summary of a report. -/
def summary (report : Report) (duration : String) (paths : ReportPaths) : List String :=
  ["", rule '=', "📊 CODE HEALTH SUMMARY", rule '=', ""] ++
    report.checks.map checkLine ++
    ["", rule '-',
     "Grade: " ++ report.grade.name,
     totalsLine report.totals,
     "Duration: " ++ duration,
     rule '-', "",
     "📄 Full report: " ++ paths.markdown.toString,
     "📋 JSON data:   " ++ paths.json.toString]

/-- The file of the settings: the one that is asked for, or the usual one if it is there. -/
def settingsFile (tree : FileTree) (config : Option String) : Option String :=
  match config with
  | some file => some file
  | none =>
    if tree.holds (.ofString Settings.defaultFile) then some Settings.defaultFile else none

/-- Where the settings come from, on request. -/
def sourceLines (verbose : Bool) (file : Option String) : List String :=
  if verbose then ["[verbose] Using configuration from " ++ file.getD "built-in defaults"] else []

/-- The folder of the reports: the one that is asked for, or that of the settings. -/
def reportFolder (settings : Settings) (asked : Option String) : Path :=
  match asked with
  | some folder => if folder.isEmpty then settings.reportPath else .ofString folder
  | none => settings.reportPath

/-- Write the reports of a run and show its summary. -/
def finish (around : Surroundings) (settings : Settings) (run : Run) (log : List String)
    (folder : Path) : Ending :=
  let (tree, outcome) := run.report.writeFiles around.tree folder
  let launch := some settings.launch
  let shown : Outcome (List String) := do
    let paths ← outcome
    .ok (summary run.report (← showMilliseconds run.report.duration) paths)
  match shown with
  | .ok stdout =>
    { tree, exitCode := run.report.exitCode, stdout, stderr := log, launch, calls := run.calls }
  | .error (.file fault) =>
    let line := "Failed to write reports to '" ++ folder.toString ++ "': " ++ fault.message
    { tree, exitCode := 2, stderr := log ++ [line], launch, calls := run.calls }
  | .error fault =>
    { tree, exitCode := 1, stderr := log, launch, calls := run.calls, fault := some fault }

/-- Make a run. -/
def executeRun (around : Surroundings) (config : Option String) (verbose : Bool) (flags : RunFlags)
    (asked : Option String) : Ending :=
  let file := settingsFile around.tree config
  match Settings.load around.tree file around.environment with
  | .error (.config message) =>
    { tree := around.tree, exitCode := 1, stderr := ["Configuration error: " ++ message] }
  | .error fault => { tree := around.tree, exitCode := 1, fault := some fault }
  | .ok settings =>
    let place : Workplace :=
      { tree := around.tree, tools := around.tools settings.launch, elapsed := around.elapsed }
    let run := place.run settings flags around.timestamp
    let log := sourceLines verbose file ++ ["🏥 Running Code Health Check..."] ++
      run.notes.filterMap (logLine? verbose)
    finish around settings run log (reportFolder settings asked)

/-- Write a template. -/
def executeTemplate (tree : FileTree) (file : String) : Ending :=
  match Settings.writeTemplate tree file with
  | .ok tree =>
    { tree, exitCode := 0
      stdout := ["Template written to '" ++ file ++ "'.",
        "Edit it with your source directory and tool targets."] }
  | .error (.config message) => { tree, exitCode := 1, stderr := ["Error: " ++ message] }
  | .error fault => { tree, exitCode := 1, fault := some fault }

/-- Do what a command asks for. -/
def execute (around : Surroundings) : Command → Ending
  | help => { tree := around.tree, exitCode := 0, stdout := usage }
  | mistake => { tree := around.tree, exitCode := 2, stderr := usage }
  | version => { tree := around.tree, exitCode := 0, stdout := [versionLine] }
  | template file => executeTemplate around.tree file
  | run config verbose flags asked => executeRun around config verbose flags asked

end Command

end Checkup
