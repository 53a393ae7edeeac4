import Checkup.Shell.Machine

/-!
# Streams

Redirections open files, and streams lead to them until the redirection is over.
-/

namespace Checkup.Shell

/-- Where a path leads that names a device. -/
inductive Device where
  | medium (medium : Medium)
  /-- Where a stream leads. -/
  | stream (number : Nat)

/-- The device that a path names. -/
def device? (path : Path) : Option Device :=
  if !path.isAbsolute then none
  else match path.names with
    | ["dev", "null"] => some (.medium .nothing)
    | ["dev", "zero"] => some (.medium .zeros)
    | ["dev", "stdin"] => some (.stream 0)
    | ["dev", "stdout"] => some (.stream 1)
    | ["dev", "stderr"] => some (.stream 2)
    | ["dev", "fd", number] => number.toNat?.map .stream
    | _ => none

/-- Folders that are there wherever programs run. -/
def systemFolders : List String :=
  ["tmp", "bin", "usr", "usr/bin", "usr/local", "usr/local/bin", "etc", "dev", "root", "home",
   "var", "lib", "proc", "opt"]

/-- What a name leads to. A name that ends with a slash has to lead to a folder. -/
def lookAt (tree : FileTree) (name : List Char) : Except FileTrouble Node :=
  if name.isEmpty then .error .missing
  else match tree.find (namedPath name) with
    | .ok node => if !node.isFolder && name.getLast? = some '/' then .error .notFolder else .ok node
    | .error trouble => .error trouble

/-- Open a file by its name. With `keeps` a file that is there is not overwritten. -/
def openByName (use : FileUse) (keeps : Bool) (name : List Char) :
    Act (Except FileTrouble Nat) := do
  let path := namedPath name
  let fresh (medium : Medium) : OpenFile :=
    { medium
      appends := use = .append
      readable := use = .read || use = .readWrite
      writable := use != .read }
  match device? path with
  | some (.medium medium) => return .ok (← openAs (fresh medium))
  | some (.stream number) =>
    match (← theShell).streams.lookup number with
    | some number => return .ok number
    | none => return .error .missing
  | none => pure ()
  let tree ← theTree
  match lookAt tree name with
  | .ok (.folder _) =>
    if use = .read then
      match tree.locate path with
      | .ok place => pure (.ok (← openAs (fresh (.folder place))))
      | .error trouble => pure (.error trouble)
    else pure (.error .isFolder)
  | .ok (.file _) =>
    if keeps && use = .write then return .error .exists
    match tree.locate path with
    | .ok place => do
      if use = .write || use = .overwrite then changeTree (withBytes tree place [])
      pure (.ok (← openAs (fresh (.file place))))
    | .error trouble => pure (.error trouble)
  | .error .missing =>
    if use = .read || name.isEmpty then return .error .missing
    if name.getLast? = some '/' then return .error .isFolder
    match tree.writeBytes path [] with
    | .ok tree => do
      changeTree tree
      match tree.locate path with
      | .ok place => pure (.ok (← openAs (fresh (.file place))))
      | .error trouble => pure (.error trouble)
    | .error fault => pure (.error fault.trouble)
  | .error trouble => pure (.error trouble)

/-- What is wrong with a file that cannot be opened, or made. -/
def openingTrouble (making : Bool) (trouble : FileTrouble) : String :=
  match trouble with
  | .missing | .notFolder => if making then "Directory nonexistent" else "No such file"
  | trouble => trouble.words

/-- A redirection whose words are expanded. -/
inductive Opening where
  | file (use : FileUse) (name : List Char)
  | stream (number : Option Nat)
  | text (text : List Char)

/-- Where a stream leads is changed. -/
def ShellState.lead (shell : ShellState) (stream : Nat) (opened : Option Nat) : ShellState :=
  let others := shell.streams.filter fun entry => entry.1 != stream
  { shell with
    streams := match opened with
      | some number => (stream, number) :: others
      | none => others }

/-- The words of a stream that is not open. -/
def notOpen : List Char := "Bad file descriptor".toList

/-- Redirect a stream, or complain. -/
def redirect (stream : Nat) (opening : Opening) : Act Bool := do
  let shell ← theShell
  let lead (opened : Option Nat) : Act Bool := do
    changeShell fun shell => shell.lead stream opened
    pure true
  match opening with
  | .file use name =>
    match ← openByName use (shell.settings.contains .noclobber) name with
    | .ok number => lead (some number)
    | .error trouble => do
      let making := use != .read
      complain ((if making then "cannot create " else "cannot open ").toList ++ name ++
        ofText (": " ++ openingTrouble making trouble))
      pure false
  | .stream none => lead none
  | .stream (some other) =>
    match shell.streams.lookup other with
    | some number => lead (some number)
    | none => do
      complain (showNumber other ++ [':', ' '] ++ notOpen)
      pure false
  | .text text => do lead (some (← openAs { medium := .supply text, writable := false }))

/-- Where some streams lead. -/
def ShellState.leads (shell : ShellState) (streams : List Nat) : List (Nat × Option Nat) :=
  streams.eraseDups.map fun stream => (stream, shell.streams.lookup stream)

/-- Streams lead where they led before. Files that nothing leads to any more are closed
if they were opened since. -/
def restoreStreams (leads : List (Nat × Option Nat)) (since : Nat) : Act Unit := do
  changeShell fun shell => leads.foldl (fun shell (stream, opened) => shell.lead stream opened) shell
  modify fun machine =>
    let kept (entry : Nat × OpenFile) : Bool :=
      entry.1 < since || machine.shell.streams.any (·.2 = entry.1) ||
        machine.shell.traceStream = some entry.1
    { machine with world :=
        { machine.world with opened := machine.world.opened.filter kept } }

/-- The number of an output that nothing was written to. Another process reads it if
its room is bounded. -/
def newOutput (room : Option Nat) : Act Nat := do
  let number := (← theWorld).nextOutput
  changeWorld fun world => { world with
    nextOutput := number + 1, outputs := (number, { room }) :: world.outputs }
  pure number

/-- How much may be written to a pipe that nobody reads from before the writer has to wait. -/
def pipeRoom : Nat := 65536

/-- The time when more was written than a pipe holds, or else when something was written
once more. -/
def overflowTime? (notes : List Note) : Option Nat :=
  let (_, time?) := notes.foldl (fun (size, time?) note =>
    let size := size + note.text.length
    (size, time?.or (if pipeRoom < size then some note.time else none))) (0, none)
  time?.or (notes[1]?.map Note.time)

/-- What was written to an output, in the order of time, and whether it was too much. The
output is gone then; processes in the background that may write to it are waited for. -/
def collect (number : Nat) : Act (List Char × Bool) := do
  let world ← theWorld
  let sink := (world.outputs.lookup number).getD {}
  let ends := (world.holders.filter fun holder => holder.output = number).map Holder.ends
  let overflown := sink.room.any (· < sink.size)
  let time := ends.foldl max world.time
  changeWorld fun world => { world with
    outputs := world.outputs.filter fun entry => entry.1 != number
    holders := world.holders.filter fun holder => holder.output != number
    time := if overflown then (overflowTime? sink.notes.reverse).getD time else time }
  pass 0
  let notes := sink.notes.reverse.mergeSort fun a b => a.time ≤ b.time
  pure (notes.flatMap Note.text, overflown)

end Checkup.Shell
