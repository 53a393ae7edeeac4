import Checkup.Launch
import Checkup.Shell.Program
import Checkup.Tool
import Checkup.Value.Display

/-!
# Starting tools

A tool is started behind the words of its launcher, in the folder that the
launch names. A launcher that is not there and a tool that takes too long are
faults; how a tool ends is up to those who called it.
-/

namespace Checkup

/-- A number of seconds in microseconds, none for what never ends. -/
def Seconds.microseconds? : Seconds → Option Nat
  | whole seconds => some (1000000 * seconds).toNat
  | fraction seconds => ((seconds.mul (.ofRatio false 1000000 1)).truncate?).map Int.toNat

namespace Launch

/-- The words of a call. -/
def command (launch : Launch) (call : ToolCall) : String × List String :=
  match launch.launcher with
  | [] => (call.tool, call.arguments)
  | head :: rest => (head, rest ++ call.tool :: call.arguments)

/-- The program at the head of a command: one that is named by its place is
taken as it is, and any other has to be found. -/
def resolve (head : String) : Outcome String :=
  if (Path.ofString head).isAbsolute then .ok head
  else match Shell.findProgram? head with
    | some place => .ok place
    | none => .error (.toolNotFound ("Executable '" ++ head ++ "' was not found on PATH"))

/-- A program that cannot be started. -/
def unable {α : Type} (head : String) (fault : FileFault) : Outcome α :=
  if fault.trouble = .missing then
    .error (.toolNotFound ("Unable to start '" ++ head ++ "': " ++ fault.message))
  else .error (.file fault)

/-- The output of a tool as text: flaws are replaced, and line ends are line feeds. -/
def outputText (bytes : List UInt8) : String :=
  String.ofList (Text.unifyLineEnds (Text.decodeLenient bytes))

/-- Text that cannot be handed to a program. -/
def hasNull (text : String) : Bool := text.contains (Char.ofNat 0)

/-- The tree with the folder of the launch as its working folder. -/
def enter (launch : Launch) (tree : FileTree) : Except FileFault FileTree :=
  let path := Path.ofString launch.folder
  match tree.locate path with
  | .error trouble => .error ⟨trouble, path.toString⟩
  | .ok place =>
    if tree.hasFolder path then .ok { tree with workingFolder := place }
    else .error ⟨.notFolder, path.toString⟩

/-- Start a tool and wait for its end. What it did to the files stays. -/
def start (launch : Launch) (tree : FileTree) (call : ToolCall) : Outcome ToolOutput × FileTree :=
  let (head, arguments) := launch.command call
  match resolve head with
  | .error fault => (.error fault, tree)
  | .ok head =>
    if (launch.folder :: head :: arguments).any hasNull then
      (.error .nullCharacter, tree)
    else match launch.enter tree with
      | .error fault => (unable head fault, tree)
      | .ok inside =>
        if !Shell.hasProgram head then
          (unable head ⟨.missing, head⟩, tree)
        else
          let (ending, after) :=
            Shell.runProgram inside head arguments (launch.timeout.bind Seconds.microseconds?)
          let tree := { after with workingFolder := tree.workingFolder }
          match ending with
          | some ending =>
            (.ok ⟨outputText ending.stdout, outputText ending.stderr, ending.code⟩, tree)
          | none =>
            let timeout := ((launch.timeout.map Seconds.toValue).getD .null).display
            (.error (.toolTimeout ("'" ++ call.tool ++ "' did not finish within " ++ timeout ++ "s")), tree)

/-- The tools of a launch, which find the files of a tree. -/
def tools (launch : Launch) (tree : FileTree) : Tools := fun call => (launch.start tree call).1

end Launch

end Checkup
