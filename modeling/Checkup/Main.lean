import Checkup.CommandLine
import Checkup.Launch.Start
import Std.Time.DateTime.Timestamp

/-!
# The program

The files of the working folder are loaded, a command does its work on them,
and the files that it made or changed are written back.
-/

namespace Checkup

/-- A file or a folder; what cannot be read is left out. -/
partial def loadNode? (entry : IO.FS.DirEntry) : IO (Option Node) := do
  try
    if ← entry.path.isDir then
      let mut entries := []
      for below in ← entry.path.readDir do
        if let some node ← loadNode? below then
          entries := Node.insert below.fileName node entries
      return some (.folder entries)
    else return some (.file (← IO.FS.readBinFile entry.path).toList)
  catch _ => return none

/-- The tree of the working folder. -/
def loadTree : IO FileTree := do
  let folder ← IO.currentDir
  let mut entries := []
  for entry in ← folder.readDir do
    if let some node ← loadNode? entry then
      entries := Node.insert entry.fileName node entries
  let names := Path.namesOf folder.toString.toList
  return ⟨names.foldr (fun name node => .folder [(name, node)]) (.folder entries), names⟩

/-- Write what a node has beyond what was there before. -/
partial def storeNode (place : String) (before : Option Node) : Node → IO Unit
  | .file bytes => do
    let same : Bool := match before with
      | some (.file held) => held = bytes
      | _ => false
    unless same do IO.FS.writeBinFile place ⟨bytes.toArray⟩
  | .folder entries => do
    unless (before.map Node.isFolder).getD false do IO.FS.createDirAll place
    let held := (before.map Node.entries).getD []
    for (name, node) in entries do
      storeNode (place ++ "/" ++ name) (held.lookup name) node

/-- What is said about a fault that nothing answers for. -/
def faultLine (fault : Fault) : String := fault.kind ++ ": " ++ fault.message

end Checkup

open Checkup in
/-- Do the command that the arguments ask for. -/
def main (arguments : List String) : IO UInt32 := do
  let tree ← loadTree
  let moment : Moment := .ofEpoch ((← Std.Time.Timestamp.now).toNanosecondsSinceUnixEpoch.val / 1000).toNat
  let around : Surroundings :=
    { tree
      tools := fun launch => launch.tools tree
      environment := ⟨← IO.getEnv "CODE_HEALTH_SOURCE", ← IO.getEnv "CODE_HEALTH_REPORT_DIR"⟩
      timestamp := moment.stamp }
  let ending := (Command.ofArguments arguments).execute around
  storeNode "" (some tree.top) ending.tree.top
  (← IO.getStdout).putStr ending.stdoutText
  (← IO.getStderr).putStr ending.stderrText
  if let some fault := ending.fault then (← IO.getStderr).putStrLn (faultLine fault)
  return UInt32.ofNat ending.exitCode
