import Checkup.FileTree.Walk
import Checkup.Folder
import Checkup.Source.Profile

/-!
# Source files of a tree

The source files below a folder, and their profiles. Generated files, tests and
installed packages are left out. A file that cannot be read is passed over with
a note.
-/

namespace Checkup.Source

/-- Marks of names that are left out. -/
def ignoredMarks : List String := ["node_modules", "_generated", ".test.", ".spec.", "routeTree.gen"]

/-- A name of a file or folder that is left out. -/
def isIgnored (name : String) : Bool := ignoredMarks.any fun mark => Folder.holds mark name

/-- A name of a source file that is not left out. -/
def isSourceName (name : String) : Bool :=
  (Folder.endsWith ".ts" name || Folder.endsWith ".tsx" name) && !isIgnored name

/-- The source files of some visits below a folder. -/
def filesOfVisits (base : Path) (visits : List Visit) : List Path :=
  visits.flatMap fun visit =>
    (visit.files.filter isSourceName).map fun file => (base.descend visit.names).child file

/-- The source files below a folder: its own before those of the folders in it.
A folder that is not there has none. -/
def files (tree : FileTree) (base : Path) : Outcome (List Path) := do
  match tree.walk (fun name => !isIgnored name) (← FileTree.accept base) with
  | .ok visits => .ok (filesOfVisits base visits)
  | .error _ => .ok []

/-- The profile of a file, which is shown relative to the root folder. -/
def profileOf (tree : FileTree) (root file : Path) : Outcome Profile := do
  let text ← tree.readText file
  .ok (.ofText (Path.shown tree.workingFolder root file) text)

/-- The profile of a file that can be read. -/
def profile? (tree : FileTree) (root file : Path) : Outcome (Option Profile) := do
  .ok (profileOf tree root (← FileTree.accept file)).toOption

/-- The profiles of those files that can be read. -/
def profiles (tree : FileTree) (root : Path) (files : List Path) : List Profile :=
  files.filterMap fun file => (profileOf tree root file).toOption

/-- The profiles of the readable source files below a folder. -/
def survey (tree : FileTree) (root base : Path) : Outcome (List Profile) := do
  .ok (profiles tree root (← files tree base))

/-- The note about a file that cannot be read. -/
def unreadableNote (file : Path) (fault : Fault) : String :=
  "Skipping unreadable file " ++ file.toString ++ ": " ++ fault.message

/-- The notes about those files that cannot be read. -/
def unreadableNotes (tree : FileTree) (root : Path) (files : List Path) : List String :=
  files.filterMap fun file =>
    match profileOf tree root file with
    | .ok _ => none
    | .error fault => some (unreadableNote file fault)

end Checkup.Source
