import Checkup.Path
import Checkup.Value

/-!
# Settings

What a run is told about the project: its folders, how tools are started, and
what each tool is asked to look at.
-/

namespace Checkup

/-- A number of seconds as it is written, whole or not. -/
inductive Seconds where
  | whole (seconds : Int)
  | fraction (seconds : Binary64)
  deriving DecidableEq, Repr

/-- The value that writes a number of seconds. -/
def Seconds.toValue : Seconds → Value
  | whole seconds => .int seconds
  | fraction seconds => .float seconds

/-- The settings of a run. Paths are relative to the root folder. -/
structure Settings where
  root : String := "."
  source : String := "apps/web/src"
  reportFolder : String := "logs"
  /-- What every tool call starts with. -/
  launcher : List String := ["bunx"]
  /-- How long a tool may take; without it a tool may take forever. -/
  timeout : Option Seconds := none
  duplicateTargets : List String := ["./packages", "./apps"]
  duplicateMinLines : Int := 10
  duplicateStatistics : String := "report/jscpd-report.json"
  dependencyTarget : String := "./packages/backend/convex"
  architectureConfig : String := ".dependency-cruiser.cjs"
  architectureTarget : String := "./apps/web/src"
  deriving DecidableEq, Repr

namespace Settings

/-- The file that settings are read from unless said otherwise. -/
def defaultFile : String := "code-health.yaml"

/-- The root folder of the project. -/
def rootPath (settings : Settings) : Path := .ofString settings.root

/-- A path below the root folder. -/
def below (settings : Settings) (path : String) : Path := settings.rootPath.join (.ofString path)

/-- The folder with the source files. -/
def sourcePath (settings : Settings) : Path := settings.below settings.source

/-- The folder that the reports are written to. -/
def reportPath (settings : Settings) : Path := settings.below settings.reportFolder

end Settings

end Checkup
