import Checkup.Shell.Launcher

/-!
# Programs

A program is started with arguments in the folder of a file tree. It ends with
two streams and a code, or it is cut off when its time is up.
-/

namespace Checkup.Shell

/-- How a program ends. -/
structure ProgramEnd where
  stdout : List UInt8
  stderr : List UInt8
  /-- The status; of a program that was killed, the signal with a minus. -/
  code : Int
  deriving DecidableEq, Repr

/-- How deep scripts may be nested. -/
def taskDepth : Nat := 1000

/-- The number of the first process. -/
def firstProcess : Nat := 4711

/-- A program is at a place. -/
def hasProgram (place : String) : Bool := (systemProgram? (ofText place)).isSome

/-- The place of a program that is named. -/
def findProgram? (name : String) : Option String :=
  if systemPrograms.contains name then some (systemFolder ++ name) else none

/-- The tree with the folders of the system. -/
def withSystemFolders (tree : FileTree) : FileTree :=
  systemFolders.foldl (fun tree folder => (tree.makeFolders (.ofString ("/" ++ folder))).1) tree

/-- The tree without the folders of the system that it did not have before. -/
def withoutSystemFolders (before after : FileTree) : FileTree :=
  let kept := after.top.entries.filter fun (name, _) =>
    !systemFolders.contains name || (before.top.entries.lookup name).isSome
  { before with top := .folder kept }

/-- The machine on which a program starts in the working folder of a tree. The limit is in
microseconds. The process that starts the program is alive, and so is the first of all. -/
def startMachine (tree : FileTree) (limit : Option Nat) : Machine :=
  let file (medium : Medium) : OpenFile := { medium }
  let environment : List (String × String) :=
    [("PATH", String.intercalate ":" programFolders), ("HOME", "/root")]
  { world :=
      { tree := withSystemFolders tree
        opened := [(0, { medium := .nothing }), (1, file (.output 1)), (2, file (.output 2))]
        nextOpened := 3, outputs := [(1, {}), (2, {})], nextOutput := 3, limit
        nextProcess := firstProcess + 1, alive := [firstProcess, firstProcess - 1, 1] }
    shell :=
      { name := [], number := firstProcess, process := firstProcess, parent := firstProcess - 1
        group := firstProcess, streams := [(0, 0), (1, 1), (2, 2)], folder := tree.workingFolder
        bindings := environment.map fun (name, value) =>
          (name.toList, { value := some value.toList, exported := true }) } }

/-- Carry out a program to its end, and yield how it ends and what it wrote. -/
def carryOut (name : List Char) (arguments : List (List Char)) : Act (Ending × List Char × List Char) := do
  let go := doTask taskDepth
  let ending ← finish go (← attempt (go (.program name name arguments)))
  let (first, _) ← collect 1
  let (second, _) ← collect 2
  pure (ending, first, second)

/-- How often everything may be done anew because a signal went astray. -/
def renewals : Nat := 60

/-- Carry out a program, and do so anew as long as signals go astray. -/
def carryOutAnew (name : List Char) (arguments : List (List Char)) (start : Machine) :
    (count : Nat) → Except Departure (Ending × List Char × List Char) × Machine
  | 0 => carryOut name arguments start
  | count + 1 =>
    match carryOut name arguments start with
    | (.error (.astray sending), _) =>
      let coming := sending :: start.world.coming
      carryOutAnew name arguments { start with world := { start.world with coming } } count
    | result => result

/-- Start a program in the working folder of a tree, with a limit in microseconds. What it
did to the files stays, whether it ends or not; without an end it was cut off. -/
def runProgram (tree : FileTree) (name : String) (arguments : List String) (limit : Option Nat) :
    Option ProgramEnd × FileTree :=
  let (result, machine) :=
    carryOutAnew (ofText name) (arguments.map ofText) (startMachine tree limit) renewals
  let after := withoutSystemFolders tree machine.world.tree
  match result with
  | .error _ => (none, after)
  | .ok (ending, first, second) =>
    let code : Int := match ending.signal with
      | some signal => -(signal : Int)
      | none => ending.status
    (some ⟨toBytes first, toBytes second, code⟩, after)

end Checkup.Shell
