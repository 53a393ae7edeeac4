import Checkup.Check
import Checkup.Source.Marker
import Checkup.Source.Pattern
import Checkup.Text.Lines

/-!
# Profiles of source files

What is measured about one source file, the issues that follow, and the check
over all files.
-/

namespace Checkup.Source

open Checkup.Text

/-- The measurements of one file. -/
structure Profile where
  path : String
  lineCount : Nat
  markers : List MarkerKind
  patterns : List Pattern
  longFunctions : List FunctionLength
  deriving DecidableEq, Repr

namespace Profile

/-- Measure a file by its text. -/
def ofText (path : String) (content : List Char) : Profile :=
  let lines := sourceLines content
  { path
    lineCount := lines.length
    markers := Source.markers content
    patterns := Source.patterns content
    longFunctions := Source.longFunctions functionLimit lines }

/-- Number of hook calls of a kind. -/
def count (profile : Profile) (kind : MarkerKind) : Nat := profile.markers.count kind

/-- Number of hook calls that make a component complex. -/
def componentCount (profile : Profile) : Nat :=
  (MarkerKind.ofComponent.map profile.count).foldl (· + ·) 0

/-- From so many lines on a file is warned about. -/
def linesWarning : Nat := 300

/-- From so many lines on a file is too large. -/
def linesError : Nat := 500

/-- From so many hook calls on a component is warned about. -/
def hooksWarning : Nat := 6

/-- From so many hook calls on a component is too complex. -/
def hooksError : Nat := 10

/-- From so many effects on a component is warned about. -/
def effectsWarning : Nat := 4

/-- From so many memos and callbacks on a component is warned about. -/
def memosWarning : Nat := 6

/-- So many long functions of a file are reported. -/
def longFunctionsReported : Nat := 3

/-- The rule about the size of files. -/
def fileSizeRule : String := "complexity/file-size"

/-- The rule about the number of hook calls. -/
def hooksRule : String := "complexity/too-many-hooks"

/-- An issue about a file. -/
def issue (profile : Profile) (severity : Severity) (message rule fix : String) : Issue :=
  { severity, message := .text message, file := .text profile.path, rule := .text rule, fix := .text fix }

/-- The issue about the size of a file. -/
def sizeIssues (profile : Profile) : List Issue :=
  if linesError ≤ profile.lineCount then
    [profile.issue .error
      ("File has " ++ toString profile.lineCount ++ " lines (max " ++ toString linesError ++ ")")
      fileSizeRule
      "Split into smaller, focused modules. Extract hooks, utilities, and sub-components."]
  else if linesWarning ≤ profile.lineCount then
    [profile.issue .warning
      ("File has " ++ toString profile.lineCount ++ " lines (consider splitting at " ++
        toString linesWarning ++ "+)")
      fileSizeRule
      "Consider extracting reusable logic into hooks or utilities."]
  else []

/-- The issue about the number of hook calls. -/
def hookIssues (profile : Profile) : List Issue :=
  let total := profile.componentCount
  let number (kind : MarkerKind) := toString (profile.count kind)
  if hooksError ≤ total then
    [profile.issue .error
      ("Component uses " ++ toString total ++ " hooks (useState: " ++ number .state ++
        ", useEffect: " ++ number .effect ++ ", useMemo: " ++ number .memo ++ ", useCallback: " ++
        number .callback ++ ", custom: " ++ number .custom ++ ")")
      hooksRule
      ("Extract related hooks into a custom hook (e.g., useComponentNameState). " ++
        "Split component into smaller pieces.")]
  else if hooksWarning ≤ total then
    [profile.issue .warning
      ("Component uses " ++ toString total ++ " hooks - getting complex")
      hooksRule
      "Consider extracting related state and effects into a custom hook."]
  else []

/-- The issue about effects. -/
def effectIssues (profile : Profile) : List Issue :=
  if effectsWarning ≤ profile.count .effect then
    [profile.issue .warning
      ("Component has " ++ toString (profile.count .effect) ++
        " useEffect calls - side-effect sprawl")
      "complexity/effect-sprawl"
      ("Consolidate related effects or extract to custom hooks. " ++
        "Consider if effects can be replaced with event handlers.")]
  else []

/-- The issue about memos and callbacks. -/
def memoIssues (profile : Profile) : List Issue :=
  if memosWarning ≤ profile.count .memo + profile.count .callback then
    [profile.issue .warning
      ("Component has " ++ toString (profile.count .memo) ++ " useMemo and " ++
        toString (profile.count .callback) ++ " useCallback - possible over-optimization")
      "complexity/over-memoization"
      "Review if all memos are necessary. The React compiler handles most memoization automatically."]
  else []

/-- A file that holds components. -/
def holdsComponents (profile : Profile) : Bool := ".tsx".toList.isSuffixOf profile.path.toList

/-- The issues about components. -/
def componentIssues (profile : Profile) : List Issue :=
  if profile.holdsComponents then
    profile.hookIssues ++ profile.effectIssues ++ profile.memoIssues
  else []

/-- The issue about a pattern. -/
def patternIssues (profile : Profile) (pattern : Pattern) : List Issue :=
  if profile.patterns.contains pattern then
    match pattern with
    | .inlineErrorBoundary =>
      [profile.issue .warning "Inline error boundary class in component file"
        "pattern/inline-error-boundary"
        "Move error boundary to shared/components/ErrorBoundary.tsx and import it."]
    | .multipleComponents =>
      [profile.issue .info "Multiple exported components in one file" "pattern/multiple-components"
        "Consider splitting each component into its own file for better organization."]
    | .deepNesting =>
      [profile.issue .info "Deeply nested markup" "pattern/deep-jsx-nesting"
        "Extract nested blocks into sub-components."]
    | .mixedConcerns =>
      [profile.issue .info "File appears to mix business logic with UI rendering"
        "pattern/mixed-concerns"
        "Extract business logic to hooks/utilities. Keep components focused on rendering."]
  else []

/-- The issues about the first of the long functions. -/
def functionIssues (profile : Profile) : List Issue :=
  (profile.longFunctions.take longFunctionsReported).map fun found =>
    profile.issue .warning
      ("Long function: " ++ found.name ++ " (" ++ toString found.length ++ " lines)")
      "complexity/long-function"
      "Break down into smaller functions. Extract logic into utilities or hooks."

/-- The issues about a file. -/
def issues (profile : Profile) : List Issue :=
  profile.sizeIssues ++ profile.componentIssues ++ profile.patternIssues .inlineErrorBoundary ++
    profile.patternIssues .multipleComponents ++ profile.functionIssues ++
    profile.patternIssues .deepNesting ++ profile.patternIssues .mixedConcerns

end Profile

/-- The name of the check. -/
def checkName : String := "Complexity Analysis"

/-- The issue is an error of a rule. -/
def isErrorOf (rule : String) (issue : Issue) : Bool :=
  issue.hasRule rule && issue.severity = .error

/-- Numbers of files that are too large, of components that are too complex, and of warnings. -/
def summary (issues : List Issue) : String :=
  toString (issues.countP (isErrorOf Profile.fileSizeRule)) ++ " oversized files, " ++
    toString (issues.countP (isErrorOf Profile.hooksRule)) ++ " complex components, " ++
    toString (Issue.count .warning issues) ++ " warnings"

/-- The check over some files. -/
def check (profiles : List Profile) (duration : Int) : Check :=
  let issues := profiles.flatMap Profile.issues
  .ofIssues checkName issues duration (summary issues) none

end Checkup.Source
