import Checkup.Settings

/-!
# Launching tools

What a run says about how its tools are started: the words in front of every
call, the folder to work in, and how long a tool may take.
-/

namespace Checkup

/-- How tools are started. -/
structure Launch where
  launcher : List String
  folder : String
  timeout : Option Seconds
  deriving DecidableEq, Repr

/-- How some settings have tools started. -/
def Settings.launch (settings : Settings) : Launch where
  launcher := settings.launcher
  folder := settings.root
  timeout := settings.timeout

end Checkup
