import Checkup.Shell.Command

/-!
# Carrying out scripts

The status of each command decides what comes next. How the tasks inside a task
are done is given, so that one step of it can be understood by itself.
-/

namespace Checkup.Shell

/-- How many commands a text may hold, and how many rounds a loop may go. -/
def loopFuel : Nat := 1000000000

/-- How many rounds a loop may go in the background, where it counts as endless then. -/
def backgroundFuel : Nat := 50000

/-- Time that a command takes, in microseconds. -/
def commandTime : Nat := 10

/-- Where a loop goes on behind its body: whether it is over, and whether that is for the
return of a function. -/
def endRound : Act Bool := do
  let shell ← theShell
  match shell.skip with
  | .nothing => pure false
  | .goBack _ => pure true
  | skip =>
    let left := shell.skipLoops - 1
    if left = 0 then
      changeShell fun shell => { shell with skip := .nothing, skipLoops := 0 }
      pure (skip = .breakOut)
    else
      changeShell fun shell => { shell with skipLoops := left }
      pure true

/-- The rounds of a loop. -/
def runRounds (fuel : Nat) (go : Doer) (untilTrue tested : Bool) (condition body : Script)
    (status : Nat) : Act Nat :=
  match fuel with
  | 0 => throw .late
  | fuel + 1 => do
    pass commandTime
    let holds ← go (.script condition true false)
    let skipping := (← theShell).skip
    if skipping != .nothing then
      let isOver ← endRound
      let status := if skipping = .goBack true then holds else status
      if isOver then pure status else runRounds fuel go untilTrue tested condition body status
    else if (holds = 0) = untilTrue then pure status
    else do
      let status ← go (.script body tested false)
      if ← endRound then pure status
      else runRounds fuel go untilTrue tested condition body status

/-- The rounds of a loop over values. -/
def runEach (go : Doer) (name : List Char) (tested : Bool) (body : Script) (status : Nat) :
    List (List Char) → Act Nat
  | [] => pure status
  | value :: values => do
    pass commandTime
    setVariable name value
    let status ← go (.script body tested false)
    if ← endRound then pure status else runEach go name tested body status values

/-- Do something as a loop does it. -/
def inLoop (work : Act Nat) : Act Nat := do
  changeShell fun shell => { shell with loops := shell.loops + 1 }
  let status ← work
  changeShell fun shell => { shell with loops := shell.loops - 1 }
  pure status

/-- A text matches one of some patterns. -/
def matchesAny (capture : Script → Act (List Char)) (text : List Char) : List Word → Act Bool
  | [] => pure false
  | word :: words => do
    if matchesPattern (← expandPattern capture word) text then pure true
    else matchesAny capture text words

/-- The first branch with a pattern that a text matches. -/
def findBranch (capture : Script → Act (List Char)) (text : List Char) :
    List (List Word × Option Script) → Act (Option Script)
  | [] => pure none
  | (patterns, body) :: branches => do
    if ← matchesAny capture text patterns then pure body else findBranch capture text branches

/-- The status of a script is settled, and the status of the shell with it. -/
def settled (work : Act Nat) : Act Nat := do
  let status ← work
  setStatus status
  pure status

/-- Do what a script says, apart from what happens in front of and behind every script. -/
def perform (go : Doer) (script : Script) (tested last : Bool) : Act Nat := do
  let capture := capture go
  let atLine (line : Nat) : Act Unit := changeShell fun shell => { shell with line }
  match script with
  | .simple line assignments words redirects => settled do
    pass commandTime
    runSimple go line assignments words redirects tested last
  | .pipeline commands background => settled do
    let stages := commands.map fun command => go (.script command tested true)
    if background then
      inBackgroundProcess go do
        withoutInput
        let status ← pipeThrough go none stages
        setStatus status
        pure status
      pure 0
    else pipeThrough go none stages
  | .background body redirects => settled do
    let openings ← openingsOf capture redirects
    inBackgroundProcess go do
      withoutInput
      if ← redirectAll capture openings then go (.script body false true)
      else
        setStatus 2
        throw .failed
    pure 0
  | .subshell line body redirects => settled do
    atLine line
    let openings ← openingsOf capture redirects
    let work : Act Nat := do
      if ← redirectAll capture openings then go (.script body tested true)
      else
        setStatus 2
        throw .failed
    if last && !(← theShell).hasActions then work else await last (← inProcess go work)
  | .redirected line body redirects => settled do
    atLine line
    withStreams capture redirects false (pure 2) (go (.script body tested false))
  | .negated body => settled do
    let status ← go (.script body true false)
    pure (if (← theShell).skip != .nothing then status else if status = 0 then 1 else 0)
  | .both first second => do
    let status ← go (.script first true false)
    if status != 0 || (← theShell).skip != .nothing then pure status
    else settled (go (.script second tested last))
  | .either first second => do
    let status ← go (.script first true false)
    if status = 0 || (← theShell).skip != .nothing then pure status
    else settled (go (.script second tested last))
  | .sequence first second => do
    let status ← go (.script first tested false)
    if (← theShell).skip != .nothing then pure status
    else settled (go (.script second tested last))
  | .choice test body otherwise => do
    let status ← go (.script test true false)
    if (← theShell).skip != .nothing then pure status
    else if status = 0 then settled (go (.script body tested last))
    else match otherwise with
      | some other => settled (go (.script other tested last))
      | none => settled (pure 0)
  | .loop untilTrue test body => settled do
    let fuel := if (← theShell).inBackground then backgroundFuel else loopFuel
    inLoop (runRounds fuel go untilTrue tested test body 0)
  | .each line name words body => settled do
    atLine line
    let values ← expandAll capture words
    inLoop (runEach go name tested body 0 values)
  | .select line word branches => settled do
    atLine line
    let text ← expandText capture .single word
    match ← findBranch capture text branches with
    | some body => go (.script body tested last)
    | none => pure 0
  | .define _ name body => settled do
    changeShell fun shell => { shell with
      functions := (name, body) :: shell.functions.filter fun entry => entry.1 != name }
    pure 0

/-- A failure of the script ends the shell, if it is to stop at failures. -/
def isChecked : Script → Bool
  | .simple .. | .pipeline .. | .background .. | .subshell .. => true
  | _ => false

/-- Carry out a script. -/
def runScript (go : Doer) (script : Script) (tested last : Bool) : Act Nat := do
  if ← isOn .noexec then
    if last then throw .stop
    return 0
  runTraps go
  let status ← perform go script tested last
  runTraps go
  if isChecked script && !tested && status != 0 && (← isOn .errexit) then throw .stop
  if last then throw .stop
  pure status

/-- Read the next command. What the reader learned is kept, and lines are shown. -/
def readNext (reader : Reader) : Act (Option (Option Script) × Reader) := do
  let machine ← get
  let shows := reader.shows
  let (result, reader) := readCommandLine.run.run
    { reader with
      aliases := machine.shell.aliases, nextDocument := machine.world.nextDocument
      documents := [], shows := shows && machine.shell.settings.contains .verbose
      busy := [], leaving := [] }
  changeWorld fun world => { world with
    documents := reader.documents ++ world.documents, nextDocument := reader.nextDocument }
  for line in reader.shown.reverse do
    say 2 line
  match result with
  | .ok script => pure (script, { reader with shown := [], shows })
  | .error fault => do
    changeShell fun shell => { shell with line := fault.line }
    refuse fault.words.toList

/-- Carry out commands one after the other as they are read. The last may have nothing
left to do behind it. -/
def runCommands (fuel : Nat) (go : Doer) (reader : Reader) (tested last : Bool) (status : Nat) :
    Act Nat :=
  match fuel with
  | 0 => throw .late
  | fuel + 1 => do
    let (command, reader) ← readNext reader
    match command with
    | none => pure status
    | some none =>
      if (← theShell).skip != .nothing then pure status
      else runCommands fuel go reader tested last status
    | some (some script) => do
      let isLast := last && reader.again && reader.token = .ending
      let status ← go (.script script tested isLast)
      if (← theShell).skip != .nothing then pure status
      else runCommands fuel go reader tested last status

/-- Carry out a text. -/
def runText (go : Doer) (text : List Char) (tested last : Bool) : Act Nat :=
  runCommands loopFuel go (Reader.ofString text) tested last 0

/-- Carry out the lines of a file. A return only leaves the file. -/
def runLines (go : Doer) (text : List Char) : Act Nat := do
  let status ← runCommands loopFuel go (Reader.ofLines (text.filter (· != null)) true) false false 0
  changeShell fun shell => { shell with
    skip := match shell.skip with
      | .goBack _ => .nothing
      | skip => skip }
  pure status

end Checkup.Shell
