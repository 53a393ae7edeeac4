import Checkup.FileTree.Walk
import Checkup.Folder

/-!
# Folders of a tree

The profiles of the folders below a base folder, and the features whose
components lie in one crowded folder.
-/

namespace Checkup.Folder

/-- Folders that are not entered. -/
def ignoredNames : List String := ["node_modules", "_generated", ".git"]

/-- The profile of a visited folder. The base folder itself has none. -/
def ofVisit (tree : FileTree) (root base : Path) (visit : Visit) : Option Folder :=
  if visit.names.isEmpty then none
  else
    some (.ofNames (Path.shown tree.workingFolder root (base.descend visit.names))
      visit.names.length visit.files visit.folders)

/-- The profiles of the folders below a base folder. -/
def survey (tree : FileTree) (root base : Path) : Outcome (List Folder) := do
  match tree.walk (fun name => !ignoredNames.contains name) (← FileTree.accept base) with
  | .ok visits => .ok (visits.filterMap (ofVisit tree root base))
  | .error _ => .ok []

/-- The note about a base folder that cannot be walked. -/
def surveyNotes (tree : FileTree) (base : Path) : List String :=
  match tree.list base with
  | .ok _ => []
  | .error fault => ["Skipping unreadable directory: " ++ fault.message]

/-- Number of components among some entries. -/
def componentCount (entries : List (String × Node)) : Nat :=
  entries.countP fun entry => endsWith ".tsx" entry.1

/-- The issue about one feature, if it has too many components. -/
def featureIssue? (tree : FileTree) (root features : Path) (name : String) : Option Issue :=
  let components := (features.child name).child "components"
  match tree.list components with
  | .ok entries =>
    let count := componentCount entries
    if componentsLimit < count then
      some (featureIssue (Path.shown tree.workingFolder root components) name count)
    else none
  | .error _ => none

/-- The issues about the features of a base folder. -/
def featureIssues (tree : FileTree) (root base : Path) : List Issue :=
  let features := base.child "features"
  match tree.list features with
  | .ok entries => (Node.folderNames entries).filterMap (featureIssue? tree root features)
  | .error _ => []

end Checkup.Folder
