import Checkup.FileTree
import Checkup.Shell.Reader

/-!
# The machine

What all shells share is the machine: files, what is open, what was written, and
the time. What a shell has of its own is its variables, functions, streams and
settings. A shell inside another starts with a copy of them, and what it does to
its copy is gone at its end.
-/

namespace Checkup.Shell

/-- The settings of a shell, in the order in which they are listed. -/
inductive Setting where
  | errexit | noglob | ignoreeof | interactive | monitor | noexec | stdin | xtrace | verbose
  | vi | emacs | noclobber | allexport | notify | nounset | privileged | nolog | debug
  deriving DecidableEq, Repr

namespace Setting

/-- All settings, each with its name and its letter if it has one. -/
def table : List (Setting × String × Option Char) :=
  [(errexit, "errexit", some 'e'), (noglob, "noglob", some 'f'),
   (ignoreeof, "ignoreeof", some 'I'), (interactive, "interactive", some 'i'),
   (monitor, "monitor", some 'm'), (noexec, "noexec", some 'n'), (stdin, "stdin", some 's'),
   (xtrace, "xtrace", some 'x'), (verbose, "verbose", some 'v'), (vi, "vi", some 'V'),
   (emacs, "emacs", some 'E'), (noclobber, "noclobber", some 'C'),
   (allexport, "allexport", some 'a'), (notify, "notify", some 'b'),
   (nounset, "nounset", some 'u'), (privileged, "privileged", some 'p'), (nolog, "nolog", none),
   (debug, "debug", none)]

/-- The setting of a letter. -/
def ofLetter? (letter : Char) : Option Setting :=
  (table.find? fun entry => entry.2.2 = some letter).map Prod.fst

/-- The setting of a name. -/
def ofName? (name : List Char) : Option Setting :=
  (table.find? fun entry => entry.2.1.toList = name).map Prod.fst

end Setting

/-- Where an open file reads from and writes to. -/
inductive Medium where
  /-- What is written is kept under a number. -/
  | output (number : Nat)
  | file (place : List String)
  | folder (place : List String)
  /-- A text, which is used up as it is read. -/
  | supply (text : List Char)
  /-- A file that has been removed. -/
  | removed (text : List Char)
  | nothing
  /-- Null characters without end. -/
  | zeros

/-- An open file. -/
structure OpenFile where
  medium : Medium
  position : Nat := 0
  /-- More could be read than is there, without end. -/
  endless : Bool := false
  appends : Bool := false
  readable : Bool := true
  writable : Bool := true

/-- A text that was written, and when. -/
structure Note where
  time : Nat
  text : List Char

/-- What was written to an output, the latest first, and how much it takes to keep that. An
output that others read takes so much and no more. -/
structure Sink where
  notes : List Note := []
  size : Nat := 0
  room : Option Nat := none

/-- A process in the background that may write to an output until some time. -/
structure Holder where
  output : Nat
  ends : Nat

/-- A signal that is sent to a process, or to all processes of a group. -/
structure Sending where
  time : Nat
  target : Nat
  toGroup : Bool
  signal : Nat
  deriving DecidableEq, Repr

/-- What all shells share. -/
structure World where
  tree : FileTree
  /-- Files that may be started. -/
  programs : List (List String) := []
  /-- The files that are open, by number. -/
  opened : List (Nat × OpenFile)
  nextOpened : Nat
  outputs : List (Nat × Sink) := []
  nextOutput : Nat
  /-- The time that went by, in microseconds. -/
  time : Nat := 0
  /-- The time when everything is over, in microseconds. -/
  limit : Option Nat := none
  holders : List Holder := []
  documents : List (Nat × Word) := []
  nextDocument : Nat := 0
  nextProcess : Nat
  /-- Processes that are not at their end: the one in hand, and all that wait for it. -/
  alive : List Nat := []
  /-- The times when processes ended. -/
  ended : List (Nat × Nat) := []
  /-- Signals that were sent, or are known to be sent. -/
  coming : List Sending := []

/-- A variable. -/
structure Variable where
  value : Option (List Char)
  exported : Bool := false
  readOnly : Bool := false
  deriving DecidableEq, Repr

/-- A process in the background. -/
structure Job where
  /-- The number that the shell lists it by. -/
  number : Nat
  process : Nat
  status : Nat
  /-- The time of its end. -/
  ends : Nat
  /-- A signal ended it. -/
  killed : Bool := false
  /-- Its status has been asked for. -/
  known : Bool := false

/-- Commands that are passed over until the shell is where it goes on. -/
inductive Skip where
  | nothing
  | breakOut
  | nextRound
  /-- Back to the caller of a function, with a status of its own or without. -/
  | goBack (ownStatus : Bool)
  deriving DecidableEq, Repr

/-- What a function or a command hides, and how it was. -/
structure Layer where
  bindings : List (List Char × Option Variable) := []
  settings : Option (List Setting) := none

/-- What a shell has of its own. -/
structure ShellState where
  /-- What the shell goes by. -/
  name : List Char
  /-- The number that the shell goes by. -/
  number : Nat
  /-- The number of the process, which a shell inside another has of its own. -/
  process : Nat
  /-- The process that started this one. -/
  parent : Nat
  /-- The group that the process belongs to. -/
  group : Nat
  /-- Another process does not wait for this one. -/
  inBackground : Bool := false
  /-- Signals up to this time have been taken notice of. -/
  heard : Nat := 0
  /-- The time when the shell last waited for a process. -/
  waited : Nat := 0
  arguments : List (List Char) := []
  /-- The argument that is looked at next for options, and the letter in it. -/
  nextOption : Nat := 1
  nextLetter : Option Nat := none
  bindings : List (List Char × Variable) := []
  functions : List (List Char × Script) := []
  aliases : List (List Char × List Char) := []
  settings : List Setting := []
  /-- The open file of each stream. -/
  streams : List (Nat × Nat)
  /-- The stream for messages as it was before the redirections of the command in hand. -/
  traceStream : Option Nat := none
  /-- What to do on signals, and at the end, which counts as the signal zero. -/
  traps : List (Nat × List Char) := []
  /-- The rights that new files do not have. -/
  mask : Nat := 18
  /-- The folder that the shell is in. -/
  folder : List String
  status : Nat := 0
  /-- The status of the last command whose output became a part of a word. -/
  wordStatus : Nat := 0
  /-- The status that an exit asks for, or that was before the action of a trap. -/
  keptStatus : Option Nat := none
  line : Nat := 1
  /-- The command of the shell that messages name. -/
  command : Option (List Char) := none
  skip : Skip := .nothing
  /-- How many loops are left or gone on with. -/
  skipLoops : Nat := 0
  /-- Number of loops around the command in hand. -/
  loops : Nat := 0
  /-- What is hidden by the functions and commands in hand, the innermost first. -/
  hidden : List Layer := []
  jobs : List Job := []
  lastJob : Option Nat := none
  /-- Signals that wait for the action of their traps. -/
  pending : List Nat := []
  /-- The places of programs that were found. -/
  found : List (List Char) := []

/-- Everything. -/
structure Machine where
  world : World
  shell : ShellState

/-- Why a shell stops what it does. -/
inductive Departure where
  /-- A command failed in a way that ends a script. -/
  | failed
  /-- A script is left because it asks for that. -/
  | leave
  /-- A script is at its end. -/
  | stop
  /-- A process was killed by a signal. -/
  | killed (process signal : Nat)
  /-- Nobody reads what is written. -/
  | unread
  /-- Out of time. -/
  | late
  /-- A signal was sent to a process whose work is done already, further than to the time of
  the signal. -/
  | astray (sending : Sending)
  deriving DecidableEq, Repr

/-- Work of a shell, which may stop before its end. -/
abbrev Act := ExceptT Departure (StateM Machine)

/-- The shell. -/
def theShell : Act ShellState := do pure (← get).shell

/-- The world. -/
def theWorld : Act World := do pure (← get).world

/-- Change the shell. -/
def changeShell (change : ShellState → ShellState) : Act Unit :=
  modify fun machine => { machine with shell := change machine.shell }

/-- Change the world. -/
def changeWorld (change : World → World) : Act Unit :=
  modify fun machine => { machine with world := change machine.world }

/-- Do something, and tell why it stopped before its end if it did. -/
def attempt {α : Type} (work : Act α) : Act (Except Departure α) := fun machine =>
  match work machine with
  | (.ok value, machine) => (.ok (.ok value), machine)
  | (.error departure, machine) => (.ok (.error departure), machine)

/-- Do something, and something else behind it in any case. -/
def ensuring {α : Type} (work : Act α) (after : Act Unit) : Act α := fun machine =>
  let (result, machine) := work machine
  match after machine with
  | (.ok (), machine) => (result, machine)
  | (.error departure, machine) => (.error departure, machine)

/-- Let time go by. -/
def pass (microseconds : Nat) : Act Unit := do
  changeWorld fun world => { world with time := world.time + microseconds }
  let world ← theWorld
  if world.limit.any (· ≤ world.time) then throw .late

/-- A setting is on. -/
def isOn (setting : Setting) : Act Bool := do pure ((← theShell).settings.contains setting)

/-- Set the status. -/
def setStatus (status : Nat) : Act Unit := changeShell fun shell => { shell with status }

/-- The path of a name, seen from the folder of the shell. -/
def namedPath (name : List Char) : Path := .ofString (toText name)

namespace ShellState

/-- The value of a variable. -/
def value? (shell : ShellState) (name : List Char) : Option (List Char) :=
  (shell.bindings.lookup name).bind (·.value)

/-- The value of a variable, empty if it has none. -/
def valueOf (shell : ShellState) (name : String) : List Char := (shell.value? name.toList).getD []

/-- Put a variable in place of what it was. -/
def putVariable (shell : ShellState) (name : List Char) (held? : Option Variable) : ShellState :=
  let others := shell.bindings.filter fun entry => entry.1 != name
  { shell with
    bindings := match held? with
      | some held => (name, held) :: others
      | none => others }

/-- The separators of fields. -/
def separators (shell : ShellState) : List Char :=
  (shell.value? "IFS".toList).getD standardBlanks
where
  /-- The separators of a shell that has none of its own. -/
  standardBlanks : List Char := [' ', '\t', '\n']

/-- The variables that a command sees, with their values. -/
def environment (shell : ShellState) : List (List Char × List Char) :=
  shell.bindings.filterMap fun (name, held) =>
    if held.exported then held.value.map (name, ·) else none

end ShellState

/-- The tree as it is seen from the folder of the shell. -/
def theTree : Act FileTree := do
  let machine ← get
  pure { machine.world.tree with workingFolder := machine.shell.folder }

/-- Change the tree. -/
def changeTree (tree : FileTree) : Act Unit := changeWorld fun world => { world with tree }

/-- A number that no open file has. -/
def openAs (file : OpenFile) : Act Nat := do
  let number := (← theWorld).nextOpened
  changeWorld fun world => { world with
    opened := (number, file) :: world.opened, nextOpened := number + 1 }
  pure number

/-- The open file of a stream. -/
def fileOf? (stream : Nat) : Act (Option (Nat × OpenFile)) := do
  let machine ← get
  pure do
    let number ← machine.shell.streams.lookup stream
    let file ← machine.world.opened.lookup number
    some (number, file)

/-- An entry of a list changed. -/
def changeEntry {α : Type} (number : Nat) (change : α → α) : List (Nat × α) → List (Nat × α)
  | [] => []
  | (other, value) :: rest =>
    if other = number then (other, change value) :: rest
    else (other, value) :: changeEntry number change rest

/-- Change an open file. -/
def changeFile (number : Nat) (change : OpenFile → OpenFile) : Act Unit :=
  changeWorld fun world => { world with opened := changeEntry number change world.opened }

/-- A text put into another from a position on; what lacks is filled with null characters. -/
def overwrite (text : List Char) (position : Nat) (new : List Char) : List Char :=
  let before := text.take position
  before ++ List.replicate (position - before.length) null ++ new ++ text.drop (position + new.length)

/-- The bytes of the file at a place. -/
def bytesAt (tree : FileTree) (place : List String) : List Char :=
  match tree.top.at? place with
  | some (.file bytes) => ofBytes bytes
  | _ => []

/-- The tree with other bytes in the file at a place. -/
def withBytes (tree : FileTree) (place : List String) (text : List Char) : FileTree :=
  match place.getLast? with
  | some name => tree.put place.dropLast name (.file (toBytes text))
  | none => tree

/-- What it takes to keep a note, apart from its text. -/
def noteSize : Nat := 40

/-- One more note. -/
def Sink.add (sink : Sink) (note : Note) : Sink :=
  { sink with notes := note :: sink.notes, size := sink.size + note.text.length + noteSize }

/-- An entry of a list in place of another, or one more. -/
def replaceEntry {α : Type} (number : Nat) (value : α) : List (Nat × α) → List (Nat × α)
  | [] => [(number, value)]
  | (other, held) :: rest =>
    if other = number then (number, value) :: rest
    else (other, held) :: replaceEntry number value rest

/-- Write a text to an open file; there may be none, and it may not be open for writing. -/
def writeTo (opened? : Option (Nat × OpenFile)) (text : List Char) : Act Bool := do
  match opened? with
  | none => pure false
  | some (number, file) =>
    if !file.writable then return false
    if text.isEmpty then return true
    match file.medium with
    | .output number => do
      let machine ← get
      let note : Note := ⟨machine.world.time, text⟩
      let sink := ((machine.world.outputs.lookup number).getD {}).add note
      changeWorld fun world => { world with outputs := replaceEntry number sink world.outputs }
      if sink.room.any (· < sink.size) then throw .unread
      pure true
    | .file place => do
      let tree := (← theWorld).tree
      let held := bytesAt tree place
      let position := if file.appends then held.length else file.position
      changeTree (withBytes tree place (overwrite held position text))
      changeFile number fun file => { file with position := position + text.length }
      pure true
    | .removed held => do
      changeFile number fun file => { file with
        medium := .removed (overwrite held file.position text)
        position := file.position + text.length }
      pure true
    | .nothing | .zeros => pure true
    | .supply _ | .folder _ => pure false
/-- Write a text to a stream. -/
def write (stream : Nat) (text : List Char) : Act Bool := do writeTo (← fileOf? stream) text

/-- Write a text to a stream, wherever it leads. -/
def say (stream : Nat) (text : List Char) : Act Unit := do
  let _ ← write stream text

/-- Who speaks, on which line, and for which command. -/
def ShellState.speaker (shell : ShellState) : List Char :=
  shell.name ++ ofText (": " ++ toString shell.line ++ ": ") ++
    (match shell.command with
    | some command => command ++ [':', ' ']
    | none => [])

/-- Write a complaint. -/
def complain (words : List Char) : Act Unit := do
  say 2 ((← theShell).speaker ++ words ++ ['\n'])

/-- Complain, and fail. -/
def refuse {α : Type} (words : List Char) : Act α := do
  complain words
  setStatus 2
  throw .failed

/-- What is left to read of an open file, and whether reading may be taken back. -/
def remaining (file : OpenFile) : Act (List Char × Bool) := do
  match file.medium with
  | .file place => pure ((bytesAt (← theWorld).tree place).drop file.position, true)
  | .removed text => pure (text.drop file.position, true)
  | .supply text => pure (text, false)
  | _ => pure ([], false)

/-- Use up characters of an open file. -/
def consume (number : Nat) (count : Nat) : Act Unit :=
  changeFile number fun file => match file.medium with
    | .supply text => { file with medium := .supply (text.drop count) }
    | .file _ | .removed _ => { file with position := file.position + count }
    | _ => file

end Checkup.Shell
