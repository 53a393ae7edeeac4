import Checkup.Shell.Bytes
import Checkup.Shell.Machine

/-!
# Signals and their delivery

Signals have numbers and names. The end of a shell counts as the signal zero.
A signal reaches a process at the time when it is sent, but a shell takes notice of
it only between two commands. What a process in the background does is done at
once, up to its end. So a signal to it may come when its work is done already; it
goes astray then, and everything has to be done anew with the signal known.
-/

namespace Checkup.Shell

/-- The names of the signals, from zero on. -/
def signalNames : List String :=
  ["EXIT", "HUP", "INT", "QUIT", "ILL", "TRAP", "ABRT", "BUS", "FPE", "KILL", "USR1", "SEGV",
   "USR2", "PIPE", "ALRM", "TERM", "16", "CHLD", "CONT", "STOP", "TSTP", "TTIN", "TTOU", "URG",
   "XCPU", "XFSZ", "VTALRM", "PROF", "WINCH", "IO", "PWR", "SYS", "32", "33", "RTMIN"] ++
  ((List.range 15).map fun i => "RTMIN+" ++ toString (i + 1)) ++
  ((List.range 14).map fun i => "RTMAX-" ++ toString (14 - i)) ++ ["RTMAX"]

/-- The name of a signal. -/
def signalName (signal : Nat) : List Char := ((signalNames[signal]?).getD "").toList

/-- The signal that a number is. -/
def signalNumber? (text : List Char) : Option Nat :=
  if text.isEmpty || !text.all Char.isDigit then none
  else
    let number := digitsValue 10 text
    if number < signalNames.length then some number else none

/-- The signal of a number or a name, from a least one on. -/
def signal? (least : Nat) (text : List Char) : Option Nat :=
  match signalNumber? text with
  | some number => some number
  | none =>
    let upper := String.ofList (text.map Char.toUpper)
    match signalNames.findIdx? (· = upper) with
    | some number => if least ≤ number then some number else none
    | none => none

/-- What a shell says when a signal has ended a command. -/
def signalWords (signal : Nat) : List Char :=
  let words := match signal with
    | 1 => "Hangup"
    | 3 => "Quit"
    | 4 => "Illegal instruction"
    | 5 => "Trace/breakpoint trap"
    | 6 => "Aborted"
    | 7 => "Bus error"
    | 8 => "Floating point exception"
    | 9 => "Killed"
    | 10 => "User defined signal 1"
    | 11 => "Segmentation fault"
    | 12 => "User defined signal 2"
    | 14 => "Alarm clock"
    | 15 => "Terminated"
    | 16 => "Stack fault"
    | 24 => "CPU time limit exceeded"
    | 25 => "File size limit exceeded"
    | 26 => "Virtual timer expired"
    | 27 => "Profiling timer expired"
    | 29 => "I/O possible"
    | 30 => "Power failure"
    | 31 => "Bad system call"
    | number => "Signal " ++ toString number
  words.toList

/-- A signal that nothing comes of unless a trap is set for it. -/
def isIdle (signal : Nat) : Bool := [0, 17, 18, 23, 28].contains signal

/-- A signal that no trap can hold off. -/
def isFinal (signal : Nat) : Bool := signal = 9 || signal = 19

/-! ## Delivery -/

/-- What a process does on a signal. -/
inductive Response where
  | nothing
  /-- The action of a trap is to be carried out. -/
  | action
  | death
  deriving DecidableEq, Repr

/-- What the shell does on a signal. -/
def ShellState.response (shell : ShellState) (signal : Nat) : Response :=
  match if isFinal signal then none else shell.traps.lookup signal with
  | some [] => .nothing
  | some _ => .action
  | none => if isIdle signal then .nothing else .death

/-- The signals that the shell in hand has not taken notice of up to a time, the first of
them first. -/
def Machine.signalsUntil (machine : Machine) (time : Nat) : List Sending :=
  let shell := machine.shell
  let isMeant (sending : Sending) : Bool :=
    shell.heard < sending.time && sending.time ≤ time &&
      sending.target = if sending.toGroup then shell.group else shell.process
  (machine.world.coming.filter isMeant).mergeSort fun a b => a.time ≤ b.time

/-- The first signal up to a time that kills the process in hand. -/
def Machine.deadlySignal? (machine : Machine) (time : Nat) : Option Sending :=
  (machine.signalsUntil time).find? fun sending => machine.shell.response sending.signal = .death

/-- The outputs that the streams of a shell lead to. -/
def heldOutputs : Act (List Nat) := do
  let machine ← get
  pure (machine.shell.streams.filterMap fun (_, number) =>
    match machine.world.opened.lookup number with
    | some { medium := .output sink, .. } => some sink
    | _ => none)

/-- The clock is set to the time of the end of the process in hand. What it started may go
on up to now. -/
def leaveBehind (time : Nat) : Act Unit := do
  let outputs ← heldOutputs
  changeWorld fun world =>
    let left := if time < world.time then outputs.map (⟨·, world.time⟩) else []
    { world with time, holders := left ++ world.holders }

/-- A time that does not come. -/
def never : Nat := 1000000000000000

/-- The process in hand gets a signal. -/
def receive (sending : Sending) : Act Unit := do
  let shell ← theShell
  match shell.response sending.signal with
  | .nothing => pure ()
  | .action => changeShell fun shell => { shell with pending := shell.pending ++ [sending.signal] }
  | .death => do
    leaveBehind sending.time
    throw (.killed shell.process sending.signal)

/-- The signals that came are taken notice of. -/
def takeSignals : Act Unit := do
  let machine ← get
  if !machine.world.coming.isEmpty then
    let now := machine.world.time
    changeShell fun shell => { shell with heard := max shell.heard now }
    (machine.signalsUntil now).forM receive

/-- The process in hand is busy for some time, if no signal kills it before. -/
def spend (microseconds : Nat) : Act Unit := do
  let machine ← get
  match machine.deadlySignal? (machine.world.time + microseconds) with
  | some sending => do
    changeWorld fun world => { world with time := sending.time }
    throw (.killed machine.shell.process sending.signal)
  | none => pass microseconds

/-- Nothing more happens until time is up, or a signal comes. -/
def stall : Act Unit := do
  let world ← theWorld
  let last := world.limit.getD (world.coming.foldl (fun time sending => max time sending.time) world.time)
  spend (last - world.time)
  throw .late

/-- Wait until a time. If a signal comes before that the shell does something about, tell
the status for it. -/
def waitUntil (time : Nat) : Act (Option Nat) := do
  let machine ← get
  let now := machine.world.time
  let stops (sending : Sending) : Bool :=
    sending.time < time && machine.shell.response sending.signal != .nothing
  match (machine.signalsUntil time).find? stops with
  | some sending => do
    pass (sending.time - now)
    takeSignals
    pure (some (128 + sending.signal))
  | none => do
    pass (time - now)
    pure none

/-- Send a signal to a process, if it is there. The signal zero only asks for that. -/
def sendSignal (process signal : Nat) : Act Bool := do
  let machine ← get
  let world := machine.world
  let shell := machine.shell
  let sending : Sending := { time := world.time, target := process, toGroup := false, signal }
  if world.alive.contains process then
    if signal != 0 then
      if process = shell.process then receive sending
      else changeWorld fun world => { world with coming := sending :: world.coming }
    pure true
  else match world.ended.lookup process with
    | none => pure false
    | some ends =>
      if world.coming.contains sending then pure true
      else if world.time < ends then do
        if signal != 0 then throw (.astray sending)
        pure true
      else pure (shell.waited < ends &&
        shell.jobs.any fun job => job.process = process && !job.known)

end Checkup.Shell
