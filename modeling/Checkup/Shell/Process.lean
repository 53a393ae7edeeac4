import Checkup.Shell.Machine
import Checkup.Shell.Builtin.Control

/-!
# Processes

A process is a copy of the shell that does something and ends. What it wrote and
did to files stays; everything else is as it was before.
-/

namespace Checkup.Shell

/-- What a shell is asked to do. -/
inductive Task where
  /-- Carry out a script. Its status may be looked at, so it may fail; and nothing may be
  left to do behind it. -/
  | script (script : Script) (tested last : Bool)
  | text (text : List Char) (tested last : Bool)
  /-- Carry out the lines of a file. -/
  | lines (text : List Char)
  /-- Become a program: its place, what it goes by, and its arguments. -/
  | program (place name : List Char) (arguments : List (List Char))

/-- How tasks are done. Each yields a status. -/
abbrev Doer := Task → Act Nat

/-- How a process ends. -/
structure Ending where
  status : Nat
  /-- The signal that killed it. -/
  signal : Option Nat := none

/-- The end by a signal. -/
def Ending.by (signal : Nat) : Ending := ⟨128 + signal, some signal⟩

/-- Do what is to be done on some signals. -/
def runActions (go : Doer) (status : Nat) : List Nat → Act Unit
  | [] => pure ()
  | signal :: rest => do
    let shell ← theShell
    if shell.skip != .nothing then
      changeShell fun shell => { shell with pending := signal :: rest }
    else
      match shell.traps.lookup signal with
      | none => runActions go status rest
      | some action => do
        let _ ← go (.text action false false)
        if (← theShell).skip != .goBack true then setStatus status
        runActions go status rest

/-- Do what is to be done on the signals that came. -/
def runTraps (go : Doer) : Act Unit := do
  takeSignals
  let shell ← theShell
  if !shell.pending.isEmpty then
    let status := shell.keptStatus.getD shell.status
    changeShell fun shell => { shell with pending := [], keptStatus := some status }
    runActions go status (shell.pending.eraseDups.mergeSort fun a b => a ≤ b)
    changeShell fun after => { after with keptStatus := shell.keptStatus }

/-- The status of a shell that ends in some way. -/
def settle (departure? : Option Departure) : Act Unit :=
  changeShell fun shell =>
    let status := match shell.keptStatus with
      | some status =>
        if departure? = some .leave || shell.skip = .goBack false then status else shell.status
      | none => shell.status
    { shell with status, keptStatus := none, skip := .nothing, loops := 0 }

/-- The end of a shell, which may have something to do before. -/
def finish (go : Doer) (result : Except Departure Nat) : Act Ending := do
  let departure? : Option Departure := match result with
    | .ok _ => none
    | .error departure => some departure
  match departure? with
  | some (.killed process signal) => do
    if process = (← theShell).process then return .by signal
    throw (.killed process signal)
  | some .late => do
    let machine ← get
    let last := if machine.shell.inBackground then never else machine.world.time
    match machine.deadlySignal? last with
    | some sending => do
      leaveBehind sending.time
      return .by sending.signal
    | none => throw .late
  | some (.astray sending) => throw (.astray sending)
  | some .unread => return .by 13
  | departure? => settle departure?
  let shell ← theShell
  match shell.traps.lookup 0 with
  | none => pure ⟨shell.status % 256, none⟩
  | some action => do
    changeShell fun shell => { shell with
      keptStatus := some shell.status, traps := shell.traps.filter fun entry => entry.1 != 0 }
    match ← attempt (go (.text action false false)) with
    | .ok _ => do
      changeShell fun shell => { shell with skip := .goBack false }
      settle none
    | .error (.killed process signal) => do
      if process = (← theShell).process then return .by signal
      throw (.killed process signal)
    | .error .late => throw .late
    | .error (.astray sending) => throw (.astray sending)
    | .error .unread => return .by 13
    | .error departure => settle (some departure)
    pure ⟨(← theShell).status % 256, none⟩

/-- Time that it takes to start a process, in microseconds. -/
def processTime : Nat := 500

/-- A number that no process has. -/
def newProcess : Act Nat := do
  let number := (← theWorld).nextProcess
  changeWorld fun world => { world with nextProcess := number + 1 }
  pure number

/-- Do something in a process of its own, and tell its number and how it ends. The shell is
as it was before. -/
def fork (go : Doer) (work : Act Nat) : Act (Nat × Except Departure Ending) := do
  let before ← theShell
  let number ← newProcess
  let start := (← theWorld).time
  changeWorld fun world => { world with alive := number :: world.alive }
  changeShell fun shell => { shell with
    process := number, parent := before.process, heard := start, jobs := [], pending := []
    keptStatus := none, traps := shell.traps.filter fun entry => entry.2.isEmpty }
  let result ← attempt do
    finish go (← attempt do
      pass processTime
      work)
  changeShell fun _ => before
  changeWorld fun world => { world with
    alive := world.alive.filter (· != number), ended := (number, world.time) :: world.ended }
  pure (number, result)

/-- The signal that tells that a process has ended. -/
def childSignal : Nat := 17

/-- Do something in a process of its own, wait for its end, and tell that. -/
def inProcess (go : Doer) (work : Act Nat) : Act Ending := do
  match (← fork go work).2 with
  | .error departure => throw departure
  | .ok ending => do
    let now := (← theWorld).time
    changeShell fun shell => { shell with waited := now }
    receive { time := now, target := (← theShell).process, toGroup := false, signal := childSignal }
    takeSignals
    pure ending

/-- Say by which signal a command ended, unless that is nothing to speak of. -/
def tellSignal (ending : Ending) : Act Unit := do
  match ending.signal with
  | some signal => if signal != 2 && signal != 13 then say 2 (signalWords signal ++ ['\n'])
  | none => pure ()

/-- The shell has actions for signals, or for its end. -/
def ShellState.hasActions (shell : ShellState) : Bool := shell.traps.any fun entry => !entry.2.isEmpty

/-- The status of a process that the shell waits for. With nothing left to do the shell
ends as the process does. -/
def await (last : Bool) (ending : Ending) : Act Nat := do
  let shell ← theShell
  match ending.signal with
  | some signal =>
    if last && !shell.hasActions then throw (.killed shell.process signal)
    tellSignal ending
    pure ending.status
  | none => pure ending.status

/-- How much may be written to an output before it is read. -/
def outputRoom : Nat := 8000000

/-- The output of a script. -/
def capture (go : Doer) (script : Script) : Act (List Char) := do
  let number ← newOutput none
  let ending ← inProcess go do
    let opened ← openAs { medium := .output number, readable := false }
    changeShell fun shell => shell.lead 1 (some opened)
    go (.script script false true)
  let (text, _) ← collect number
  tellSignal ending
  changeShell fun shell => { shell with wordStatus := ending.status }
  pure text

/-- The least time that a process in the background takes, in microseconds. -/
def shortestTime : Nat := 1000

/-- Do something in the background. It is done at once, and the clock goes back to the
time when it began. -/
def inBackgroundProcess (go : Doer) (work : Act Nat) : Act Unit := do
  let start := (← theWorld).time
  let outputs ← heldOutputs
  let (number, result) ← fork go do
    changeShell fun shell => { shell with inBackground := true }
    work
  let world ← theWorld
  let (ending, ends) ← match result with
    | .ok ending => pure (ending, max world.time (start + shortestTime))
    | .error .late => pure (.by 9, max world.time (world.limit.getD never))
    | .error departure => throw departure
  let told : Sending :=
    { time := ends, target := (← theShell).process, toGroup := false, signal := childSignal }
  changeWorld fun world => { world with
    time := start, ended := (number, ends) :: world.ended, coming := told :: world.coming
    holders := outputs.map (⟨·, ends⟩) ++ world.holders }
  changeShell fun shell =>
    let free (slot : Nat) : Bool := shell.jobs.all fun job =>
      job.number != slot || (job.known && job.ends ≤ start)
    let slot := (((List.range (shell.jobs.length + 1)).map (· + 1)).find? free).getD 1
    let job : Job :=
      { number := slot, process := number, status := ending.status, ends
        killed := ending.signal.isSome }
    { shell with
      lastJob := some number
      jobs := (shell.jobs.filter fun job => job.number != slot) ++ [job] }

/-- The standard input is empty. -/
def withoutInput : Act Unit := do
  let opened ← openAs { medium := .nothing }
  changeShell fun shell => shell.lead 0 (some opened)

/-- Do something whose output others read. A writer that would go on until time is up is
one that nobody reads from in the end, if it has written more than once. -/
def writingTo (number : Nat) (work : Act Ending) : Act Ending := do
  match ← attempt work with
  | .ok ending => pure ending
  | .error .late => do
    let sink := ((← theWorld).outputs.lookup number).getD {}
    if (overflowTime? sink.notes.reverse).isNone then throw .late
    changeWorld fun world => { world with
      outputs := replaceEntry number { sink with room := some (sink.size - 1) } world.outputs }
    pure (.by 13)
  | .error departure => throw departure

/-- Do some things side by side, each with the output of the one before as its input, and
tell how the last of them ends. -/
def pipeThrough (go : Doer) (input : Option (List Char × Bool)) : List (Act Nat) → Act Nat
  | [] => pure 0
  | work :: rest => do
    let output? ← if rest.isEmpty then pure none else some <$> newOutput (some outputRoom)
    let guarded (work : Act Ending) : Act Ending := match output? with
      | some number => writingTo number work
      | none => work
    let ending ← guarded <| inProcess go do
      match input with
      | some (text, endless) => do
        let opened ← openAs { medium := .supply text, endless, writable := false }
        changeShell fun shell => shell.lead 0 (some opened)
      | none => pure ()
      match output? with
      | some number => do
        let opened ← openAs { medium := .output number, readable := false }
        changeShell fun shell => shell.lead 1 (some opened)
      | none => pure ()
      work
    tellSignal ending
    match output? with
    | some number => do pipeThrough go (some (← collect number)) rest
    | none => pure ending.status

end Checkup.Shell
