import Checkup.Fault

/-!
# Tools

A run asks tools for their findings. Here a tool is what it answers: output, or
the fault of the call.
-/

namespace Checkup

/-- What a tool wrote to its two streams, and how it ended. -/
structure ToolOutput where
  stdout : String := ""
  stderr : String := ""
  exitCode : Int := 0
  deriving DecidableEq, Repr, Inhabited

namespace ToolOutput

/-- Both streams, one after the other. -/
def combined (output : ToolOutput) : String := output.stdout ++ output.stderr

end ToolOutput

/-- A call of a tool. -/
structure ToolCall where
  tool : String
  arguments : List String
  deriving DecidableEq, Repr

/-- How tools answer calls. -/
abbrev Tools := ToolCall → Outcome ToolOutput

end Checkup
