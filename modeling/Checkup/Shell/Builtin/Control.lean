import Checkup.Shell.Builtin
import Checkup.Shell.Delivery

/-!
# Loops, ends and signals

Commands that say where a script goes on, and what it does on signals.
-/

namespace Checkup.Shell

/-- Leave loops, or go on with their next round. -/
def leaveLoops (skip : Skip) : Builtin := fun _ arguments => do
  let count ← match arguments with
    | [] => pure 1
    | text :: _ => do
      let count ← countOf text
      if count = 0 then refuse ("Illegal number: ".toList ++ text)
      pure count
  changeShell fun shell =>
    let count := min count shell.loops
    if count = 0 then shell else { shell with skip, skipLoops := count }
  pure 0

/-- Go back to the caller of a function, or leave a script. -/
def goBack : Builtin := fun _ arguments => do
  match arguments with
  | [] => do
    changeShell fun shell => { shell with skip := .goBack false }
    pure (← theShell).status
  | text :: _ => do
    let status ← countOf text
    changeShell fun shell => { shell with skip := .goBack true }
    pure status

/-- End the shell. -/
def exit : Builtin := fun _ arguments => do
  match arguments with
  | [] => throw .leave
  | text :: _ => do
    let status ← countOf text
    changeShell fun shell => { shell with keptStatus := some status }
    throw .leave

/-- Set what is done on signals, or list it. -/
def trap : Builtin := fun name arguments => do
  let (_, operands) ← takeOptions [] arguments
  let (action?, signals) := match operands with
    | [] => (none, [])
    | [signal] => (none, [signal])
    | first :: rest =>
      if (signalNumber? first).isSome then (none, operands)
      else (if first = ['-'] then none else some first, rest)
  if operands.isEmpty then
    let traps := (← theShell).traps.mergeSort fun a b => a.1 ≤ b.1
    put name (traps.flatMap fun (signal, action) =>
      "trap -- ".toList ++ singleQuoted action ++ ' ' :: signalName signal ++ ['\n'])
  else
    for text in signals do
      match signal? 0 text with
      | none =>
        say 2 ("trap: ".toList ++ text ++ ": bad trap\n".toList)
        return 1
      | some signal =>
        changeShell fun shell =>
          let others := shell.traps.filter fun entry => entry.1 != signal
          { shell with
            traps := match action? with
              | some action => (signal, action) :: others
              | none => others }
    pure 0

/-- The job that a text names. -/
def jobOf (text : List Char) : Act Job := do
  let jobs := (← theShell).jobs
  let found := match text.drop 1 with
    | [] | ['%'] | ['+'] => jobs.getLast?
    | ['-'] => jobs.dropLast.getLast?
    | number => jobs.find? fun job => number.all Char.isDigit && job.number = digitsValue 10 number
  match found with
  | some job => pure job
  | none => refuse ("No such job: ".toList ++ text)

/-- How signals are sent. -/
def killUsage : List Char :=
  "Usage: kill [-s sigspec | -signum | -sigspec] [pid | job]... or\nkill -l [exitstatus]".toList

/-- Send signals to processes, or list the signals. -/
def kill : Builtin := fun name arguments => do
  let (list, signal?, operands) ← match arguments with
    | [] => refuse killUsage
    | ('-' :: text) :: rest =>
      match signal? 1 text with
      | some signal => pure (false, some signal, rest)
      | none => do
        let (options, operands) ← takeOptions "ls:".toList arguments
        let named := (options.filter fun option => option.1 = 's').getLast?
        let signal? ← match named with
          | none => pure none
          | some (_, text) =>
            match signal? 1 text with
            | some signal => pure (some signal)
            | none => refuse ("invalid signal number or name: ".toList ++ text)
        pure (options.any (·.1 = 'l'), signal?, operands)
    | arguments => pure (false, none, arguments)
  if list then
    if signal?.isSome then refuse killUsage
    match operands with
    | [] => put name (("0" :: signalNames.drop 1).flatMap fun name => name.toList ++ ['\n'])
    | text :: _ => do
      let number ← countOf text
      let signal := if 128 < number then number - 128 else number
      if 0 < signal && signal < signalNames.length then put name (signalName signal ++ ['\n'])
      else refuse ("invalid signal number or exit status: ".toList ++ text)
  else
    if operands.isEmpty then refuse killUsage
    let mut status := 0
    for text in operands do
      let process? ← match text with
        | '%' :: _ => do
          let _ ← jobOf text
          pure none
        | '-' :: number => some <$> countOf number
        | number => some <$> countOf number
      let sent ← match process? with
        | some process => sendSignal process (signal?.getD 15)
        | none => pure false
      if !sent then
        complain "No such process\n".toList
        status := 1
    pure status

/-- Wait for processes in the background, and tell how the last of them ended. -/
def wait : Builtin := fun _ arguments => do
  let (_, operands) ← takeOptions [] arguments
  if operands.isEmpty then
    for job in (← theShell).jobs do
      if let some interrupted ← waitUntil job.ends then return interrupted
    changeShell fun shell => { shell with
      jobs := shell.jobs.map fun job => { job with known := true } }
    pure 0
  else
    let mut status := 127
    for text in operands do
      let jobs := (← theShell).jobs
      let job? ← match text with
        | '%' :: _ => some <$> jobOf text
        | text => do
          let process ← countOf text
          pure (jobs.find? fun job => job.process = process)
      status := 127
      if let some job := job? then
        if let some interrupted ← waitUntil job.ends then return interrupted
        if 128 < job.status && job.killed && !job.known && (← theShell).waited < job.ends then
          say 2 (signalWords (job.status - 128) ++ ['\n'])
        changeShell fun shell => { shell with
          jobs := shell.jobs.map fun other =>
            if other.process = job.process then { other with known := true } else other }
        status := job.status
    pure status

/-- Time until the end of a process that was killed is known, in microseconds. -/
def killTime : Nat := 300

/-- As far as is known at some time a job runs. -/
def Job.runs (job : Job) (now : Nat) : Bool :=
  !job.known && now < job.ends + if job.killed then killTime else 0

/-- The lines for jobs, the last one first. Those that are over are not counted any more. -/
def jobLines (now : Nat) : (count : Nat) → List Job → List (List Char)
  | _, [] => []
  | count, job :: rest =>
    let sign := if count = 0 then '+' else if count = 1 then '-' else ' '
    let runs := job.runs now
    let words := if runs then "Running"
      else if job.killed then String.ofList (signalWords (job.status - 128))
      else if job.status = 0 then "Done"
      else "Done(" ++ toString job.status ++ ")"
    (ofText ("[" ++ toString job.number ++ "] " ++ sign.toString ++ " " ++ words) ++
      List.replicate (27 - words.length) ' ' ++ ['\n']) ::
      jobLines now (if runs then count + 1 else count) rest

/-- List the processes in the background. -/
def listJobs : Builtin := fun name arguments => do
  let (options, operands) ← takeOptions ['l', 'p'] arguments
  let now := (← theWorld).time
  let jobs ← if operands.isEmpty then pure (← theShell).jobs.reverse else operands.mapM jobOf
  changeShell fun shell => { shell with
    jobs := shell.jobs.filter fun job =>
      job.runs now || !jobs.any fun other => other.number = job.number }
  if (options.getLast?).any (·.1 = 'p') then
    put name (linesOf (jobs.map fun job => showNumber job.process))
  else put name (jobLines now 0 jobs).flatten
where
  /-- Lines with line feeds. -/
  linesOf (lines : List (List Char)) : List Char := lines.flatMap (· ++ ['\n'])

/-- Bring a job to the foreground or on in the background, which only shells do that control
their jobs. -/
def resumeJob : Builtin := fun _ arguments => do
  let text := arguments.headD []
  let jobs := (← theShell).jobs
  if text.isEmpty then
    if jobs.isEmpty then refuse "No current job".toList
    refuse "job (null) not created under job control".toList
  let _ ← jobOf text
  refuse ("job ".toList ++ text ++ " not created under job control".toList)

/-- Tell a limit, of which there are none. -/
def limits : Builtin := fun name arguments => do
  let _ ← takeOptions "HSatfdsmclpnvwr".toList arguments
  put name "unlimited\n".toList

/-- How long everything took. -/
def times : Builtin := fun name _ => do
  let line := "0m0.000000s 0m0.000000s\n".toList
  put name (line ++ line)

end Checkup.Shell
