import Checkup.Shell.Streams

/-!
# Programs and where they are

Programs that are named without a place are looked for in some folders. Those of
the system are there by their names; others are files that may be started.
-/

namespace Checkup.Shell

/-- The programs of the system. -/
def systemPrograms : List String :=
  ["sh", "dash", "[", "basename", "cat", "chmod", "cmp", "comm", "cp", "cut", "date", "diff",
   "dirname", "echo", "env", "expand", "expr", "false", "find", "fold", "grep", "egrep", "fgrep",
   "head", "hostname", "id", "kill", "ln", "ls", "mkdir", "mktemp", "mv", "nice", "nl", "nohup",
   "od", "paste", "printenv", "printf", "pwd", "readlink", "realpath", "rev", "rm", "rmdir", "sed",
   "seq", "sleep", "sort", "split", "stat", "tac", "tail", "tee", "test", "timeout", "touch", "tr",
   "true", "uname", "uniq", "wc", "which", "whoami", "xargs", "yes"]

/-- The folders in which programs are looked for. -/
def programFolders : List String :=
  ["/usr/local/sbin", "/usr/local/bin", "/usr/sbin", "/usr/bin", "/sbin", "/bin"]

/-- The folder of the programs of the system. -/
def systemFolder : String := "/usr/bin/"

/-- The program of the system that a path names. -/
def systemProgram? (path : List Char) : Option String :=
  (["/usr/bin/", "/bin/"].find? fun folder => folder.toList.isPrefixOf path).bind fun folder =>
    let name := String.ofList (path.drop folder.length)
    if systemPrograms.contains name then some name else none

/-- What a name leads to. -/
inductive Found where
  | system (name : String)
  | device
  | folder
  /-- A file, with the mark that it may be started. -/
  | file (place : List String) (runs : Bool) (bytes : List UInt8)

/-- What a name leads to. -/
def findNode (name : List Char) : Act (Except FileTrouble Found) := do
  match systemProgram? name with
  | some program => return .ok (.system program)
  | none => pure ()
  let path := namedPath name
  if (device? path).isSome then return .ok .device
  let tree ← theTree
  match lookAt tree name, tree.locate path with
  | .ok (.folder _), _ => pure (.ok .folder)
  | .ok (.file bytes), .ok place => do
    pure (.ok (.file place ((← theWorld).programs.contains place) bytes))
  | .ok _, .error trouble | .error trouble, _ => pure (.error trouble)

/-- The folders that a list of paths names. -/
def pathFolders (paths : List Char) : List (List Char) := splitAt ':' paths

/-- A name behind a folder. -/
def inFolder (folder name : List Char) : List Char :=
  if folder.isEmpty then name else folder ++ '/' :: name

/-- A program that cannot be started. -/
inductive Missing where
  | notFound
  | denied
  deriving DecidableEq

/-- The place of a program that some folders hold. -/
def searchProgram (name : List Char) : (folders : List (List Char)) → (denied : Bool) →
    Act (Except Missing (List Char))
  | [], denied => pure (.error (if denied then .denied else .notFound))
  | folder :: folders, denied => do
    let place := inFolder folder name
    match ← findNode place with
    | .ok (.system _) => pure (.ok place)
    | .ok (.file _ true _) => pure (.ok place)
    | .ok (.file _ false _) | .ok .folder => searchProgram name folders true
    | _ => searchProgram name folders denied

/-- The place of a program. A name with a slash is a place already. -/
def locateProgram (name : List Char) (folders : List (List Char)) :
    Act (Except Missing (List Char)) := do
  if name.contains '/' then
    match ← findNode name with
    | .ok (.system _) | .ok (.file _ true _) => pure (.ok name)
    | .ok (.file _ false _) | .ok .folder | .ok .device => pure (.error .denied)
    | .error _ => pure (.error .notFound)
  else searchProgram name folders false

/-- The folders of the shell. -/
def theFolders : Act (List (List Char)) := do pure (pathFolders ((← theShell).valueOf "PATH"))

end Checkup.Shell
