import Checkup.Check
import Checkup.Text.Occurrence

/-!
# Action items

What to do first, drawn from the issues of all checks. Every group of issues
gives at most one item, and the order of the groups is the order of the items.
-/

namespace Checkup

/-- A thing to do, with its number unless it stands for nothing to do. -/
structure ActionItem where
  number : Option Nat
  icon : String
  title : String
  details : List String
  deriving DecidableEq, Repr

/-- A group of issues that are acted on together. -/
structure ActionGroup where
  icon : String
  /-- The issues of the group. -/
  selects : Issue → Bool
  /-- What to do about so many issues. -/
  title : Nat → String
  /-- How many issues the details come from. -/
  shown : Nat
  /-- The details about one issue. -/
  detail : Issue → List String

namespace ActionGroup

/-- The rule of an issue starts with `start`. -/
def ruleStarts (start : String) (issue : Issue) : Bool :=
  match issue.rule with
  | .text rule => start.toList.isPrefixOf rule.toList
  | _ => false

/-- The rule of an issue holds `mark`. -/
def ruleHolds (mark : String) (issue : Issue) : Bool :=
  match issue.rule with
  | .text rule => Text.occurs mark.toList rule.toList
  | _ => false

/-- The file of an issue between backquotes. -/
def fileDetail (issue : Issue) : String := "`" ++ issue.file.display ++ "`"

/-- The fix of an issue, or what to do without one. -/
def fixOr (default : String) (issue : Issue) : String :=
  if issue.fix.isGiven then issue.fix.display else default

/-- The fix of an issue on a line of its own, if there is one. -/
def fixDetail (issue : Issue) : List String :=
  if issue.fix.isGiven then ["  - 💡 " ++ issue.fix.display] else []

/-- Files that are too large. -/
def oversizedFiles : ActionGroup where
  icon := "🔴"
  selects issue := issue.hasRule "complexity/file-size" && issue.severity = .error
  title n := "Split " ++ toString n ++ " oversized file(s) - These are too large to maintain"
  shown := 5
  detail issue := [fileDetail issue ++ " - " ++ fixOr "Split into smaller modules" issue]

/-- Components with too many hooks. -/
def complexComponents : ActionGroup where
  icon := "🔴"
  selects issue := issue.hasRule "complexity/too-many-hooks" && issue.severity = .error
  title n := "Simplify " ++ toString n ++
    " complex component(s) - Too many hooks indicate the component is doing too much"
  shown := 3
  detail issue := fileDetail issue :: ("  - " ++ issue.message.display) :: fixDetail issue

/-- Folders with too many files. -/
def crowdedFolders : ActionGroup where
  icon := "📁"
  selects issue := issue.hasRule "structure/crowded-folder"
  title n := "Organize " ++ toString n ++ " crowded folder(s) - Too many files in one place"
  shown := 3
  detail issue := [fileDetail issue ++ " - " ++ fixOr "Split into subfolders" issue]

/-- Imports across module boundaries. -/
def architectureErrors : ActionGroup where
  icon := "🏗️"
  selects issue := ruleStarts "architecture/" issue && issue.severity = .error
  title n := "Fix " ++ toString n ++ " architecture violation(s) - Clean module boundaries"
  shown := 3
  detail issue := (fileDetail issue ++ " - " ++ issue.message.display) :: fixDetail issue

/-- Blocks of code that occur twice. -/
def duplicateBlocks : ActionGroup where
  icon := "📋"
  selects issue := ruleStarts "jscpd/" issue && issue.severity = .warning
  title n := "Consolidate " ++ toString n ++ " duplicate code block(s) - DRY principle"
  shown := 1
  detail _ := ["Extract shared logic into utilities or shared components"]

/-- Files that nothing imports. -/
def unusedFiles : ActionGroup where
  icon := "🗑️"
  selects issue := issue.hasRule "knip/unused-file"
  title n := "Delete " ++ toString n ++ " unused file(s) - Dead code"
  shown := 5
  detail issue := [fileDetail issue]

/-- Exports that nothing uses. -/
def unusedExports : ActionGroup where
  icon := "🧹"
  selects issue := ruleHolds "unused-export" issue
  title n := "Clean up " ++ toString n ++ " unused export(s) - Remove or use them"
  shown := 0
  detail _ := []

/-- Modules that import each other. -/
def circularDependencies : ActionGroup where
  icon := "🔄"
  selects issue := ruleStarts "madge/circular" issue
  title n := "Fix " ++ toString n ++ " circular dependenc" ++ (if n = 1 then "y" else "ies") ++
    " - These can cause bundling issues"
  shown := 3
  detail issue :=
    [String.ofList (Text.afterOptional "Circular: ".toList issue.message.display.toList)]

/-- All groups, in the order of their items. -/
def all : List ActionGroup :=
  [oversizedFiles, complexComponents, crowdedFolders, architectureErrors, duplicateBlocks,
   unusedFiles, unusedExports, circularDependencies]

/-- The item of a group without its number; none if no issue is of the group. -/
def draft (group : ActionGroup) (issues : List Issue) : Option (Nat → ActionItem) :=
  match issues.filter group.selects with
  | [] => none
  | selected => some fun number =>
    { number := some number
      icon := group.icon
      title := group.title selected.length
      details := (selected.take group.shown).flatMap group.detail }

end ActionGroup

namespace ActionItem

/-- What stands where there is nothing to do. -/
def nothing : ActionItem where
  number := none
  icon := "🎉"
  title := "No critical issues found! Keep up the good work."
  details := []

/-- The items of some issues whose rules are texts. -/
def ofIssues (issues : List Issue) : List ActionItem :=
  match ActionGroup.all.filterMap (·.draft issues) with
  | [] => [nothing]
  | drafts => drafts.mapIdx fun index draft => draft (index + 1)

/-- A rule that has to be compared as a text but is something else. -/
def offendingRule? (issues : List Issue) : Option Value :=
  (issues.map (·.rule)).find? fun rule => rule.isGiven && !rule.isText

/-- The message of a circle that has to be shown without its beginning but is no text. -/
def offendingMessage? (issues : List Issue) : Option Value :=
  let group := ActionGroup.circularDependencies
  (((issues.filter group.selects).take group.shown).map (·.message)).find? fun message =>
    !message.isText

/-- A value that lacks an operation of texts. -/
def lacks {α : Type} (value : Value) (operation : String) : Outcome α :=
  .error (.notText ("'" ++ value.kindName ++ "' object has no attribute '" ++ operation ++ "'"))

/-- The items of all issues of some checks. -/
def ofChecks (checks : List Check) : Outcome (List ActionItem) :=
  let issues := checks.flatMap (·.issues)
  match offendingRule? issues, offendingMessage? issues with
  | some rule, _ => lacks rule "startswith"
  | none, some message => lacks message "removeprefix"
  | none, none => .ok (ofIssues issues)

end ActionItem

end Checkup
