import Checkup.FileTree
import Checkup.Settings
import Checkup.Text.Blank
import Checkup.Value.Display
import Checkup.Yaml.Reader

/-!
# Loading settings

Settings are read from a YAML file. Every value may be left out, and two of
them may be set by variables of the surroundings. What is given is checked, and
all that is wrong is reported at once.
-/

namespace Checkup

/-- Variables of the surroundings that take precedence over the file, if they
are not empty. -/
structure Variables where
  source : Option String := none
  reportFolder : Option String := none

namespace Settings

/-- What is said about a file that is not there. -/
def missingMessage (file : String) : String :=
  "Config file not found: '" ++ file ++ "'\nRun `code-health init` to generate a template."

/-- What is said about a file that is no YAML. -/
def malformedMessage (file : String) : String := "Failed to parse '" ++ file ++ "'"

/-- What is said about a file that holds no mapping. -/
def noMappingMessage (file : String) : String :=
  "'" ++ file ++ "' must be a YAML mapping at the top level."

/-- The mapping that a file holds; nothing if it holds nothing. -/
def readMapping (tree : FileTree) (file : String) : Outcome (Option Yaml.Item) :=
  let path := Path.ofString file
  if !tree.holds path then .error (.config (missingMessage file))
  else
    match tree.readBytes path with
    | .error fault => .error (.file fault)
    | .ok bytes =>
      match Yaml.read (.ofBytes bytes) with
      | .error (.fault fault) => .error fault
      | .error _ => .error (.config (malformedMessage file))
      | .ok none => .ok none
      | .ok (some item) =>
        if item.isMapping then .ok (some item)
        else if item.isNull then .ok none
        else .error (.config (noMappingMessage file))

/-- A section of a mapping; there is none if it is not given. -/
def section? (mapping : Option Yaml.Item) (name : String) : Outcome (Option Yaml.Item) :=
  match mapping.bind fun mapping => mapping.find? name with
  | none => .ok none
  | some item =>
    if !item.isGiven then .ok none
    else if item.isMapping then .ok (some item)
    else .error (.config ("'" ++ name ++ "' must be a mapping, got " ++ item.kindName))

/-- Settings as they are given, before they are checked. What a file does not
give of those that may be unusable is absent. -/
structure Draft where
  root : String
  source : String
  reportFolder : String
  launcher : Option Yaml.Item
  timeout : Option Yaml.Item
  duplicateTargets : Option Yaml.Item
  duplicateMinLines : Option Yaml.Item
  duplicateStatistics : String
  dependencyTarget : String
  architectureConfig : String
  architectureTarget : String

/-- The item under a key of a section. -/
def entry? (part : Option Yaml.Item) (key : String) : Option Yaml.Item :=
  part.bind fun item => item.find? key

/-- The text of an entry, which may be a value of any kind. -/
def textOr (part : Option Yaml.Item) (key default : String) : Outcome String :=
  match entry? part key with
  | some item => item.display
  | none => .ok default

/-- The text of a variable if it is not empty, and otherwise that of an entry. -/
def override (text? : Option String) (otherwise : Outcome String) : Outcome String :=
  match text? with
  | some text => if text.isEmpty then otherwise else .ok text
  | none => otherwise

/-- The settings that a mapping and variables give. -/
def draft (mapping : Option Yaml.Item) (environment : Variables) : Outcome Draft := do
  let standard : Settings := {}
  let paths ← section? mapping "paths"
  let tools ← section? mapping "tools"
  let duplicates ← section? mapping "duplicates"
  let dependencies ← section? mapping "dependencies"
  let architecture ← section? mapping "architecture"
  let root ← textOr paths "root" standard.root
  let source ← override environment.source (textOr paths "source" standard.source)
  let reportFolder ←
    override environment.reportFolder (textOr paths "report_dir" standard.reportFolder)
  let duplicateStatistics ← textOr duplicates "stats_file" standard.duplicateStatistics
  let dependencyTarget ← textOr dependencies "target" standard.dependencyTarget
  let architectureConfig ← textOr architecture "config" standard.architectureConfig
  let architectureTarget ← textOr architecture "target" standard.architectureTarget
  .ok {
    root
    source
    reportFolder
    launcher := entry? tools "launcher"
    timeout := entry? tools "timeout"
    duplicateTargets := entry? duplicates "targets"
    duplicateMinLines := entry? duplicates "min_lines"
    duplicateStatistics
    dependencyTarget
    architectureConfig
    architectureTarget }

/-- The words of a text. -/
def words (text : List Char) : List String :=
  go [] text
where
  /-- The words of a text behind the start of one, given last letter first. -/
  go (word : List Char) : List Char → List String
    | [] => if word.isEmpty then [] else [String.ofList word.reverse]
    | c :: rest =>
      if Text.isBlank c then
        (if word.isEmpty then [] else [String.ofList word.reverse]) ++ go [] rest
      else go (c :: word) rest

/-- A list of texts. -/
def texts? (item : Yaml.Item) : Option (List String) :=
  item.items?.bind fun items => items.mapM Yaml.Item.text?

/-- A launcher: a list of texts, or a text that is cut into words. -/
def launcher? : Option Yaml.Item → Option (List String)
  | none => some ({} : Settings).launcher
  | some item =>
    match item.text? with
    | some text => some (words text.toList)
    | none => texts? item

/-- A timeout: none, or a number above zero. -/
def timeout? : Option Yaml.Item → Option (Option Seconds)
  | none => some none
  | some item =>
    match item.scalar? with
    | some .null => some none
    | some (.int n) => if 0 < n then some (some (.whole n)) else none
    | some (.float number) =>
      if number.isPositive || number = .nan then some (some (.fraction number)) else none
    | _ => none

/-- A text with more than blanks. -/
def isFilled (text : String) : Bool := !Text.allBlank text.toList

/-- Targets: a list of texts, not empty and none of them blank. -/
def targets? : Option Yaml.Item → Option (List String)
  | none => some ({} : Settings).duplicateTargets
  | some item =>
    match texts? item with
    | some targets => if !targets.isEmpty && targets.all isFilled then some targets else none
    | none => none

/-- A least number of lines: a whole number above zero. -/
def minLines? : Option Yaml.Item → Option Int
  | none => some ({} : Settings).duplicateMinLines
  | some item =>
    match item.scalar? with
    | some (.int n) => if 0 < n then some n else none
    | _ => none

/-- A part of a draft that may be unusable. -/
inductive Part where
  | source
  | reportFolder
  | launcher
  | timeout
  | duplicateTargets
  | duplicateMinLines
  deriving DecidableEq, Repr

namespace Part

/-- All parts in the order in which they are reported. -/
def all : List Part := [source, reportFolder, launcher, timeout, duplicateTargets, duplicateMinLines]

/-- What is said about an unusable part. -/
def complaint : Part → String
  | source => "  - 'paths.source' is empty (or set the CODE_HEALTH_SOURCE environment variable)"
  | reportFolder => "  - 'paths.report_dir' is empty"
  | launcher => "  - 'tools.launcher' must be a list of strings"
  | timeout => "  - 'tools.timeout' must be a positive number of seconds or null"
  | duplicateTargets => "  - 'duplicates.targets' must list at least one directory (as strings)"
  | duplicateMinLines => "  - 'duplicates.min_lines' must be a positive integer"

/-- A part of a draft is usable. -/
def isUsable (draft : Draft) : Part → Bool
  | source => isFilled draft.source
  | reportFolder => isFilled draft.reportFolder
  | launcher => (launcher? draft.launcher).isSome
  | timeout => (timeout? draft.timeout).isSome
  | duplicateTargets => (targets? draft.duplicateTargets).isSome
  | duplicateMinLines => (minLines? draft.duplicateMinLines).isSome

end Part

/-- The parts of a draft that are not usable. -/
def Draft.unusable (draft : Draft) : List Part :=
  Part.all.filter fun part => !part.isUsable draft

/-- What is said about unusable parts. -/
def invalidMessage (parts : List Part) : String :=
  "Invalid configuration:\n" ++ String.intercalate "\n" (parts.map Part.complaint)

/-- The settings of a draft whose parts are all usable. -/
def Draft.check (draft : Draft) : Outcome Settings :=
  match draft.unusable, launcher? draft.launcher, timeout? draft.timeout,
    targets? draft.duplicateTargets, minLines? draft.duplicateMinLines with
  | [], some launcher, some timeout, some duplicateTargets, some duplicateMinLines =>
    .ok {
      root := draft.root
      source := draft.source
      reportFolder := draft.reportFolder
      launcher
      timeout
      duplicateTargets
      duplicateMinLines
      duplicateStatistics := draft.duplicateStatistics
      dependencyTarget := draft.dependencyTarget
      architectureConfig := draft.architectureConfig
      architectureTarget := draft.architectureTarget }
  | parts, _, _, _, _ => .error (.config (invalidMessage parts))

/-- Load settings from a file, or without one take the standard ones. -/
def load (tree : FileTree) (file : Option String) (environment : Variables) : Outcome Settings := do
  let mapping ← match file with
    | some file => readMapping tree file
    | none => .ok none
  (← draft mapping environment).check

end Settings

end Checkup
