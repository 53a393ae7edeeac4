import Checkup.Check
import Checkup.Text.Occurrence

/-!
# Profiles of folders

What is measured about one folder: how deep it lies, how many files it holds,
and whether it mixes components with hooks or utilities. The issues that
follow, and the check over all folders.
-/

namespace Checkup

/-- The measurements of one folder. -/
structure Folder where
  path : String
  /-- Number of names below the base folder. -/
  depth : Int
  fileCount : Int
  hasIndexFile : Bool
  mixedContent : Bool
  deriving DecidableEq, Repr

namespace Folder

/-- A name ends in the given way. -/
def endsWith (suffix name : String) : Bool := suffix.toList.isSuffixOf name.toList

/-- A name holds a mark. -/
def holds (mark name : String) : Bool := Text.occurs mark.toList name.toList

/-- A module that declares more than types. -/
def isModule (name : String) : Bool := endsWith ".ts" name && !endsWith ".d.ts" name

/-- A module of utilities. -/
def isUtility (name : String) : Bool :=
  isModule name && ["util", "helper", "service"].any fun mark => holds mark name

/-- A module of a hook. -/
def isHook (name : String) : Bool := isModule name && "use".toList.isPrefixOf name.toList

/-- More files than this may be mixed. -/
def mixedLimit : Nat := 5

/-- Measure a folder by the names of its files and of the folders in it. -/
def ofNames (path : String) (depth : Int) (files folders : List String) : Folder where
  path
  depth
  fileCount := files.length
  hasIndexFile := files.any fun name => name = "index.ts" || name = "index.tsx"
  mixedContent := files.any (endsWith ".tsx") && (files.any isUtility || files.any isHook) &&
    folders.isEmpty && decide (mixedLimit < files.length)

/-- From this depth on a folder is warned about. -/
def depthWarning : Int := 5

/-- From this depth on a folder is too deep. -/
def depthError : Int := 7

/-- From so many files on a folder is warned about. -/
def filesWarning : Int := 15

/-- From so many files on a folder is too crowded. -/
def filesError : Int := 25

/-- An issue about a folder. -/
def issue (folder : Folder) (severity : Severity) (message rule fix : String) : Issue :=
  { severity, message := .text message, file := .text folder.path, rule := .text rule, fix := .text fix }

/-- The issue about the depth of a folder. -/
def depthIssues (folder : Folder) : List Issue :=
  if depthError ≤ folder.depth then
    [folder.issue .error
      ("Folder depth " ++ toString folder.depth ++ " exceeds maximum (" ++ toString depthError ++ ")")
      "structure/deep-nesting"
      "Flatten the structure. Consider co-locating related files or using a flatter hierarchy."]
  else if depthWarning ≤ folder.depth then
    [folder.issue .warning
      ("Folder depth " ++ toString folder.depth ++ " is getting deep")
      "structure/deep-nesting"
      "Consider flattening nested folders."]
  else []

/-- The issue about the number of files in a folder. -/
def crowdIssues (folder : Folder) : List Issue :=
  if filesError ≤ folder.fileCount then
    [folder.issue .error
      ("Folder has " ++ toString folder.fileCount ++ " files (max " ++ toString filesError ++ ")")
      "structure/crowded-folder"
      "Split into subfolders by domain or feature (e.g., /messages, /input, /sidebar)."]
  else if filesWarning ≤ folder.fileCount then
    [folder.issue .warning
      ("Folder has " ++ toString folder.fileCount ++ " files - consider organizing")
      "structure/crowded-folder"
      "Consider grouping related files into subfolders."]
  else []

/-- The issue about mixed content. -/
def mixedIssues (folder : Folder) : List Issue :=
  if folder.mixedContent then
    [folder.issue .info "Folder mixes components, hooks, and utilities without subfolders"
      "structure/mixed-content"
      "Organize into /components, /hooks, /utils subfolders or co-locate with features."]
  else []

/-- The issues about a folder. -/
def issues (folder : Folder) : List Issue :=
  folder.depthIssues ++ folder.crowdIssues ++ folder.mixedIssues

/-- More components than this in one folder of a feature are warned about. -/
def componentsLimit : Nat := 20

/-- The issue about the components of a feature. -/
def featureIssue (path feature : String) (count : Nat) : Issue where
  severity := .warning
  message := .text ("Feature has " ++ toString count ++ " components in one folder")
  file := .text path
  rule := .text "structure/feature-organization"
  fix := .text ("Group related components: e.g., /messages, /input, /sidebar within features/" ++
    feature ++ "/components")

/-- The name of the check. -/
def checkName : String := "Structure Analysis"

/-- Numbers of folders that are too deep and too crowded, and of warnings. -/
def summary (folders : List Folder) (issues : List Issue) : String :=
  toString (folders.countP fun folder => depthError ≤ folder.depth) ++ " deep folders, " ++
    toString (folders.countP fun folder => filesError ≤ folder.fileCount) ++ " crowded folders, " ++
    toString (Issue.count .warning issues) ++ " warnings"

/-- The check over some folders and further issues. -/
def check (folders : List Folder) (further : List Issue) (duration : Int) : Check :=
  let issues := folders.flatMap Folder.issues ++ further
  .ofIssues checkName issues duration (summary folders issues) none

end Folder

end Checkup
