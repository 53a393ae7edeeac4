import Checkup.Settings.Load

/-!
# A template for settings

The file that a project starts from. It says what the standard settings are
and what each of them is for.
-/

namespace Checkup.Settings

/-- The text of the template. -/
def template : String :=
  "paths:
  root: \".\"                   # Project root; every other path is relative to it
  source: \"apps/web/src\"      # Analyzed by the complexity and structure checks
  report_dir: \"logs\"          # code-health-report.md / .json are written here

tools:
  launcher: [\"bunx\"]          # Prefix for every tool invocation
  timeout: null               # Seconds per tool; null waits forever

duplicates:
  targets: [\"./packages\", \"./apps\"]
  min_lines: 10
  stats_file: \"report/jscpd-report.json\"

dependencies:
  target: \"./packages/backend/convex\"

architecture:
  config: \".dependency-cruiser.cjs\"
  target: \"./apps/web/src\"
"

/-- What is said about a file that is already there. -/
def takenMessage (file : String) : String :=
  "'" ++ file ++ "' already exists. Remove it first or choose a different path."

/-- The tree with the template written to a file that was not there. -/
def writeTemplate (tree : FileTree) (file : String) : Outcome FileTree :=
  let path := Path.ofString file
  if tree.holds path then .error (.config (takenMessage file))
  else
    do
      match tree.writeText (← FileTree.accept path) template with
      | .ok tree => .ok tree
      | .error fault => .error (.file fault)

end Checkup.Settings
