import Checkup.Shell.Evaluation
import Checkup.Shell.Finding
import Checkup.Shell.Utility.Table

/-!
# Starting programs

A process becomes a program: a shell, a utility, a utility that starts programs
itself, or a file that says by which program it is carried out.
-/

namespace Checkup.Shell

/-- A shell's own variables where it starts. -/
def startVariables (environment : List (List Char × List Char)) (parent : Nat)
    (folder : List String) : List (List Char × Variable) :=
  let given := (environment.filter fun entry => isName entry.1).map fun (name, value) =>
    (name, ({ value := some value, exported := true } : Variable))
  let own (name value : String) : List Char × Variable := (name.toList, { value := some value.toList })
  let fixed : List (List Char × Variable) :=
    [own "OPTIND" "1", own "IFS" " \t\n", own "PS4" "+ ", own "PPID" (toString parent),
     ("PWD".toList, { value := some (placeText folder), exported := true })]
  let usual : List (List Char × Variable) :=
    [own "PS1" "# ", own "PS2" "> ",
     own "PATH" "/usr/local/sbin:/usr/local/bin:/usr/sbin:/usr/bin:/sbin:/bin"]
  let names := fixed.map Prod.fst
  fixed ++ given.filter (fun entry => !names.contains entry.1) ++
    usual.filter fun entry => !given.any fun other => other.1 = entry.1

/-- Become a shell. -/
def runShell (go : Doer) (name : List Char) (arguments : List (List Char)) : Act Nat := do
  changeShell fun shell =>
    { name, number := shell.process, process := shell.process, parent := shell.parent
      group := shell.group, inBackground := shell.inBackground, heard := shell.heard
      streams := shell.streams, folder := shell.folder, mask := shell.mask, line := 0
      traps := shell.traps.filter fun entry => entry.2.isEmpty && entry.1 != 0
      bindings := startVariables shell.environment shell.parent shell.folder }
  let asked ← switchSettings (arguments.length + 1) true { rest := arguments }
  if asked.script && asked.rest.isEmpty then refuse "-c requires an argument".toList
  let fromInput := asked.rest.isEmpty || (← isOn .stdin)
  if fromInput then switch .stdin true
  let become (operands : List (List Char)) : Act Unit := do
    match operands with
    | [] => pure ()
    | name :: arguments => changeShell fun shell => { shell with name, arguments }
  let text? ←
    if asked.script then do
      become (asked.rest.drop 1)
      pure none
    else if fromInput then do
      changeShell fun shell => { shell with arguments := asked.rest }
      pure none
    else do
      let file := asked.rest.headD []
      match ← openByName .read false file with
      | .error trouble =>
        refuse ("cannot open ".toList ++ file ++ ": ".toList ++
          (openingTrouble false trouble).toList)
      | .ok number => do
        become asked.rest
        let opened := ((← theWorld).opened.lookup number).getD { medium := .nothing }
        pure (some (← remaining opened).1)
  dropMonitor
  changeShell fun shell => { shell with line := 1 }
  let isStdin ← isOn .stdin
  if asked.script then
    let _ ← go (.text (asked.rest.headD []) false !isStdin)
  match text? with
  | some text => do let _ ← go (.lines text)
  | none =>
    if isStdin && (← theShell).skip = .nothing then
      let text ← match ← fileOf? 0 with
        | some (number, file) => do
          let (text, _) ← remaining file
          consume number text.length
          pure text
        | none => pure []
      let _ ← go (.lines text)
  pure (← theShell).status

/-- The time at which the clock starts, in seconds since the start of 1970. -/
def startOfTime : Nat := 1767225600

/-- The request of a process to a utility. -/
def theRequest (name : List Char) (arguments : List (List Char)) : Act Request := do
  let machine ← get
  let input? ← fileOf? 0
  let (input, seekable) ← match input? with
    | some (_, file) => remaining file
    | none => pure ([], false)
  pure
    { name, arguments, environment := machine.shell.environment, tree := ← theTree
      programs := machine.world.programs, input
      endless := input?.any fun opened => opened.2.endless || opened.2.medium matches .zeros
      seekable, hasInput := input?.isSome
      inputIsFolder := input?.any fun opened => opened.2.medium matches .folder _
      mask := machine.shell.mask, now := startOfTime + machine.world.time / 1000000 }

/-- Write the output of a utility. -/
def writeAll (name : List Char) (output : List (Nat × List Char)) : Act Bool := do
  let mut able := true
  for (stream, text) in output do
    if able && !text.isEmpty then
      if !(← write stream text) && stream = 1 then
        say 2 (name ++ ": write error: Bad file descriptor\n".toList)
        able := false
  pure able

/-- Write the start of a text without end to a pipe, whose reader ends before the writer
does. Anything else takes forever. -/
def writeUnread (text : List Char) : Act Unit := do
  match ← fileOf? 1 with
  | some (_, { medium := .output number, writable := true, .. }) =>
    match (← theWorld).outputs.lookup number with
    | some { room := some _, notes, size } => do
      let sink : Sink := { room := some 0, notes, size }
      changeWorld fun world => { world with outputs := replaceEntry number sink world.outputs }
      say 1 text
      stall
    | _ => stall
  | some (_, { writable := true, .. }) => stall
  | _ => pure ()

/-- So much of an endless text is made before its reader ends. -/
def endlessSize : Nat := 1000000

/-- Utilities that write while they read. -/
def streamingUtilities : List String :=
  ["cat", "cut", "expand", "fold", "grep", "nl", "paste", "rev", "sed", "tee", "tr", "uniq"]

/-- Do what a utility does. -/
def useUtility (utility : Utility) (name : List Char) (arguments : List (List Char)) : Act Nat := do
  let request ← theRequest name arguments
  let answer := utility request
  let used := request.input.length - answer.rest.length
  let text := (answer.output.filter fun part => part.1 = 1).flatMap Prod.snd
  if request.endless && answer.rest.isEmpty && 0 < used then
    if streamingUtilities.contains (toText (lastName name)) then writeUnread text
    stall
  match ← fileOf? 0 with
  | some (number, _) => consume number used
  | none => pure ()
  changeWorld fun world => { world with
    tree := { answer.tree with workingFolder := world.tree.workingFolder }
    programs := answer.programs }
  spend answer.takes
  if answer.endless then
    let text := if text.isEmpty then [null] else text
    writeUnread (List.replicate (endlessSize / text.length + 1) text).flatten
  let able ← writeAll name answer.output
  pure (if able then answer.status else max answer.status 1)

/-- The program that a file names in its first line, with one argument at most. -/
def interpreter? (text : List Char) : Option (List Char × List (List Char)) :=
  match text with
  | '#' :: '!' :: rest =>
    let isBlank (c : Char) : Bool := c = ' ' || c = '\t'
    let line := (rest.takeWhile (· != '\n')).dropWhile isBlank
    let line := (line.reverse.dropWhile isBlank).reverse
    let program := line.takeWhile (!isBlank ·)
    let argument := (line.drop program.length).dropWhile isBlank
    if program.isEmpty then none
    else some (program, if argument.isEmpty then [] else [argument])
  | _ => none

/-- Become a program. -/
def enterProgram (go : Doer) (place name : List Char) (arguments : List (List Char)) : Act Nat := do
  match systemProgram? place with
  | some program => do
    pass processTime
    match program with
    | "sh" | "dash" => runShell go name arguments
    | "env" => runEnv go (arguments.length + 1) name arguments
    | "timeout" => runTimeout go name arguments
    | "xargs" => runXargs go name arguments
    | "find" => runFind go name arguments
    | "nice" => enterOrTell go name (behindAmount arguments) ""
    | "nohup" => enterOrTell go name arguments "failed to run command "
    | "kill" => callPlain kill name arguments
    | "printf" => callPlain printf name arguments
    | "test" | "[" => callPlain test name arguments
    | program =>
      match utilities.lookup program with
      | some utility => useUtility utility name arguments
      | none => pure 127
  | none =>
    match ← findNode place with
    | .ok (.file _ _ bytes) =>
      match interpreter? (ofBytes bytes) with
      | some (program, options) =>
        match ← locateProgram program [] with
        | .ok program => go (.program program program (options ++ place :: arguments))
        | .error _ => do
          complain (name ++ ": not found".toList)
          pure 127
      | none => go (.program "/bin/sh".toList "sh".toList (place :: arguments))
    | _ => pure 127
where
  /-- The words behind the amount by which a program is to be nicer. -/
  behindAmount : List (List Char) → List (List Char)
    | ['-', 'n'] :: _ :: rest => rest
    | ('-' :: _) :: rest => rest
    | words => words
  /-- A command of the shell as a program. -/
  callPlain (builtin : Builtin) (name : List Char) (arguments : List (List Char)) : Act Nat := do
    match ← attempt (builtin name arguments) with
    | .ok status => pure status
    | .error .failed => pure (← theShell).status
    | .error departure => throw departure

/-- One step of doing a task. -/
def step (go : Doer) : Doer
  | .script script tested last => runScript go script tested last
  | .text text tested last => runText go text tested last
  | .lines text => runLines go text
  | .program place name arguments => settled (enterProgram go place name arguments)

/-- Do a task that holds others up to some depth. One that goes deeper overflows. -/
def doTask : (depth : Nat) → Doer
  | 0 => fun _ => do throw (.killed (← theShell).process 11)
  | depth + 1 => step (doTask depth)

end Checkup.Shell
