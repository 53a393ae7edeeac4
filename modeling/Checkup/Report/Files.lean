import Checkup.FileTree
import Checkup.Report.Archive
import Checkup.Report.Markdown

/-!
# Report files

A report is written to a folder as two files: markdown to be read, and the
archive. The folder is made if it is missing.
-/

namespace Checkup

/-- The paths of the two files of a report. -/
structure ReportPaths where
  markdown : Path
  json : Path

/-- The files of a report in a folder. -/
def ReportPaths.within (folder : Path) : ReportPaths where
  markdown := folder.child "code-health-report.md"
  json := folder.child "code-health-report.json"

namespace Report

/-- The tree with the two files of a report in a folder. What was written
before a fault stays. -/
def writeFiles (tree : FileTree) (report : Report) (folder : Path) : FileTree × Outcome ReportPaths :=
  let paths := ReportPaths.within folder
  match tree.ensureFolders folder with
  | (tree, .error fault) => (tree, .error fault)
  | (tree, .ok ()) =>
    match Markdown.render report paths.json.toString with
    | .error fault => (tree, .error fault)
    | .ok markdown =>
      match tree.writeText paths.markdown markdown with
      | .error fault => (tree, .error (.file fault))
      | .ok tree =>
        match tree.writeText paths.json (Archive.ofReport report).write with
        | .error fault => (tree, .error (.file fault))
        | .ok tree => (tree, .ok paths)

end Report

end Checkup
