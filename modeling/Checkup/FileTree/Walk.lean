import Checkup.FileTree

/-!
# Walks

A walk visits a folder and then, in the order of their names, the folders in
it. Folders that are not to be entered are seen in the folder that holds them
but not visited themselves.
-/

namespace Checkup

/-- What a walk sees in one folder. -/
structure Visit where
  /-- The names that lead to the folder, from where the walk starts. -/
  names : List String
  /-- The names of the files in it. -/
  files : List String
  /-- The names of the folders in it. -/
  folders : List String

namespace Node

/-- The names of the files among some entries. -/
def fileNames (entries : List (String × Node)) : List String :=
  (entries.filter fun entry => !entry.2.isFolder).map Prod.fst

/-- The names of the folders among some entries. -/
def folderNames (entries : List (String × Node)) : List String :=
  (entries.filter fun entry => entry.2.isFolder).map Prod.fst

mutual

/-- The visits of a walk that starts at a node. -/
def visits (enters : String → Bool) (names : List String) : Node → List Visit
  | file _ => []
  | folder entries =>
    ⟨names, fileNames entries, folderNames entries⟩ :: visitsBelow enters names entries

/-- The visits of a walk to those of some entries that are entered. -/
def visitsBelow (enters : String → Bool) (names : List String) : List (String × Node) → List Visit
  | [] => []
  | (name, node) :: rest =>
    (if enters name then visits enters (names ++ [name]) node else []) ++
      visitsBelow enters names rest

end

end Node

namespace FileTree

/-- The visits of a walk that starts at a path. -/
def walk (tree : FileTree) (enters : String → Bool) (base : Path) : Except FileFault (List Visit) :=
  match tree.list base with
  | .ok entries => .ok (Node.visits enters [] (.folder entries))
  | .error fault => .error fault

end FileTree

namespace Path

/-- A path with further names. -/
def descend (base : Path) (names : List String) : Path := { base with names := base.names ++ names }

end Path

end Checkup
