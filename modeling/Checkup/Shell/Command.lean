import Checkup.Shell.Builtin.Condition
import Checkup.Shell.Builtin.Names
import Checkup.Shell.Builtin.Output
import Checkup.Shell.Builtin.Parameters
import Checkup.Shell.Process
import Checkup.Shell.Reader.Command

/-!
# Simple commands

The words of a command are expanded, its streams are redirected and its
variables are set; then what its name stands for is carried out.
-/

namespace Checkup.Shell

/-- What a name stands for where a command starts. -/
inductive Callee where
  | function (body : Script)
  /-- A command of the shell; one that is special ends a script if it fails. -/
  | builtin (name : String) (special : Bool)
  | program

/-- What a name stands for; functions may be left out. -/
def ShellState.callee (shell : ShellState) (withFunctions : Bool) (name : List Char) : Callee :=
  match if withFunctions then shell.functions.lookup name else none with
  | some body => .function body
  | none =>
    let text := String.ofList name
    if specialCommands.contains text then .builtin text true
    else if plainCommands.contains text then .builtin text false
    else .program

/-- Commands whose arguments may set variables. -/
def takesAssignments (name : String) : Bool :=
  ["export", "readonly", "local", "alias"].contains name

/-- Fields of the first words that have any, and the other words. -/
def expandFirst (capture : Script → Act (List Char)) : List Word → Act (List (List Char) × List Word)
  | [] => pure ([], [])
  | word :: words => do
    let fields ← expandFields capture word
    if fields.isEmpty then expandFirst capture words else pure (fields, words)

/-- The fields of words, some of which may set variables. -/
def expandOthers (capture : Script → Act (List Char)) (assigning : Bool) :
    List Word → Act (List (List Char))
  | [] => pure []
  | word :: words => do
    let fields ←
      if assigning && Word.isAssignment word then do
        pure [← expandText capture .assignment word]
      else expandFields capture word
    pure (fields ++ (← expandOthers capture assigning words))

/-- What a command calls. -/
structure Call where
  callee : Option Callee := none
  /-- The command ends a script if it fails; without words that is left open. -/
  special : Option Bool := none
  fields : List (List Char) := []
  rest : List Word := []
  /-- Programs are looked for in the folders of the system. -/
  standardFolders : Bool := false

/-- What is behind the options of a command that leaves out functions. Its only option
there is `p`; with others the command itself is called, with all fields so far. -/
inductive Behind where
  | itself (fields : List (List Char)) (rest : List Word)
  | another (standardFolders : Bool) (fields : List (List Char)) (rest : List Word)

/-- Find out what is behind the options of a command that leaves out functions. Fields
that were passed are kept. -/
def takeCommandOptions (fuel : Nat) (capture : Script → Act (List Char)) (standard : Bool)
    (passed fields : List (List Char)) (rest : List Word) : Act Behind :=
  match fuel with
  | 0 => pure (.itself (passed ++ fields) rest)
  | fuel + 1 => do
    let (fields, rest) ← if fields.isEmpty then expandFirst capture rest else pure (fields, rest)
    match fields with
    | [] => pure (.itself passed rest)
    | ['-', '-'] :: more => do
      let (more, rest) ← if more.isEmpty then expandFirst capture rest else pure (more, rest)
      pure (if more.isEmpty then .itself (passed ++ fields) rest else .another standard more rest)
    | ('-' :: c :: letters) :: more =>
      if (c :: letters).all (· = 'p') then
        takeCommandOptions fuel capture true (passed ++ fields.take 1) more rest
      else pure (.itself (passed ++ fields) rest)
    | fields => pure (.another standard fields rest)

/-- Find out what a command calls, whose first fields are expanded. -/
def findCall (fuel : Nat) (capture : Script → Act (List Char)) (withFunctions : Bool)
    (call : Call) : Act Call :=
  match fuel with
  | 0 => pure call
  | fuel + 1 => do
    match call.fields with
    | [] => pure call
    | name :: more => do
      match (← theShell).callee withFunctions name with
      | .builtin text special => do
        let call := { call with
          callee := some (.builtin text special), special := call.special.or (some special) }
        if text != "command" then pure call
        else
          match ← takeCommandOptions (more.length + call.rest.length + 2) capture
            call.standardFolders [] more call.rest with
          | .itself fields rest => pure { call with fields := name :: fields, rest }
          | .another standardFolders fields rest =>
            findCall fuel capture false { call with fields, rest, standardFolders }
      | callee => pure { call with callee := some callee }

/-- A redirection with its words expanded. -/
def openingOf (capture : Script → Act (List Char)) : Redirect → Act (Nat × Option Opening × Nat)
  | .of stream target =>
    match target with
    | .file use name => do
      pure (stream, some (.file use (← expandText capture .single name)), 0)
    | .stream number => pure (stream, some (.stream number), 0)
    | .streamNamed word => do
      let text ← expandText capture .single word
      match text with
      | ['-'] => pure (stream, some (.stream none), 0)
      | [c] =>
        if c.isDigit then pure (stream, some (.stream (some (c.toNat - 48))), 0)
        else refuse ("Bad fd number: ".toList ++ text)
      | text => refuse ("Bad fd number: ".toList ++ text)
    | .document number => pure (stream, none, number)

/-- Redirections with their words expanded. -/
def openingsOf (capture : Script → Act (List Char)) :
    List Redirect → Act (List (Nat × Option Opening × Nat))
  | [] => pure []
  | redirect :: rest => do
    let first ← openingOf capture redirect
    pure (first :: (← openingsOf capture rest))

/-- Redirect streams one after the other as long as that is possible. -/
def redirectAll (capture : Script → Act (List Char)) :
    List (Nat × Option Opening × Nat) → Act Bool
  | [] => pure true
  | (stream, opening?, number) :: rest => do
    let able ←
      match opening? with
      | some opening => redirect stream opening
      | none =>
        let word := ((← theWorld).documents.lookup number).getD []
        match ← attempt (expandText capture .text word) with
        | .ok text => redirect stream (.text text)
        | .error .failed => pure false
        | .error departure => throw departure
    if able then redirectAll capture rest else pure false

/-- Do something with streams redirected. If they cannot be, something else is done.
With `lasting` they stay as they are. -/
def withStreams {α : Type} (capture : Script → Act (List Char)) (redirects : List Redirect)
    (lasting : Bool) (unable : Act α) (work : Act α) : Act α := do
  if redirects.isEmpty then return ← work
  let openings ← openingsOf capture redirects
  let leads := (← theShell).leads (openings.map Prod.fst)
  let since := (← theWorld).nextOpened
  let able ← redirectAll capture openings
  if !able then
    restoreStreams leads since
    setStatus 2
    unable
  else if lasting then work
  else ensuring work (restoreStreams leads since)

/-- What the shell puts in front of a command that it shows. -/
def traceStart (capture : Script → Act (List Char)) : Act (List Char) := do
  let shell ← theShell
  let text := shell.valueOf "PS4"
  let (word, _) := readPrompt.run.run (Reader.ofString text)
  match word with
  | .error _ => pure text
  | .ok word => do
    switch .xtrace false
    let shown ← attempt (expandText capture .text word)
    switch .xtrace true
    match shown with
    | .ok shown => pure shown
    | .error _ => pure text

/-- Show a command before it is carried out. -/
def traceCommand (capture : Script → Act (List Char)) (words : List (List Char)) : Act Unit := do
  if ← isOn .xtrace then
    let start ← traceStart capture
    let machine ← get
    let file? := do
      let number ← machine.shell.traceStream
      let file ← machine.world.opened.lookup number
      some (number, file)
    let _ ← writeTo file? (start ++ joinWith [' '] words ++ ['\n'])

/-- The commands of the shell that need no other commands. -/
def builtin? : String → Option Builtin
  | ":" | "true" => some fun _ _ => pure 0
  | "false" => some fun _ _ => pure 1
  | "alias" => some setAliases
  | "bg" | "fg" => some resumeJob
  | "break" => some (leaveLoops .breakOut)
  | "cd" | "chdir" => some changeFolder
  | "continue" => some (leaveLoops .nextRound)
  | "echo" => some echo
  | "exit" => some exit
  | "export" => some exportVariables
  | "getopts" => some getopts
  | "hash" => some hash
  | "jobs" => some listJobs
  | "kill" => some kill
  | "local" => some hideVariables
  | "printf" => some printf
  | "pwd" => some workingFolder
  | "read" => some readFields
  | "readonly" => some freezeVariables
  | "return" => some goBack
  | "set" => some configure
  | "shift" => some shift
  | "test" | "[" => some test
  | "times" => some times
  | "trap" => some trap
  | "type" => some type
  | "ulimit" => some limits
  | "umask" => some rightsMask
  | "unalias" => some unsetAliases
  | "unset" => some unset
  | "wait" => some wait
  | _ => none

/-- The place of a program to start, or the status of a command that has none. The program may
replace the shell. -/
def programPlace (name : List Char) (standardFolders replaces : Bool) : Act (Except Nat (List Char)) := do
  let folders ← if standardFolders then pure (programFolders.map String.toList) else theFolders
  match ← locateProgram name folders with
  | .ok place => do
    if !standardFolders && !name.contains '/' then
      changeShell fun shell => { shell with found := name :: shell.found.erase name }
    pure (.ok place)
  | .error .notFound => do
    complain (name ++ ": not found".toList)
    pure (.error 127)
  | .error .denied => do
    complain (name ++ ": Permission denied".toList)
    pure (.error (if replaces || name.contains '/' then 126 else 127))

/-- A program takes the place of the shell. -/
def replaceBy (go : Doer) (place name : List Char) (arguments : List (List Char)) : Act Nat := do
  changeShell fun shell => { shell with traps := shell.traps.filter fun entry => entry.2.isEmpty }
  let status ← go (.program place name arguments)
  setStatus status
  throw .stop

/-- Become a program. -/
def becomeProgram (go : Doer) (standardFolders : Bool) (words : List (List Char)) : Act Nat := do
  match words with
  | [] => pure 0
  | name :: arguments =>
    match ← programPlace name standardFolders true with
    | .error status => do
      setStatus status
      throw .stop
    | .ok place => replaceBy go place name arguments

/-- Carry out a script that stands in a file. -/
def runFile (go : Doer) (arguments : List (List Char)) : Act Nat := do
  let (_, operands) ← takeOptions [] arguments
  match operands with
  | [] => pure 0
  | name :: _ => do
    let place ←
      if name.contains '/' then pure name
      else do
        let places := (← theFolders).map (inFolder · name)
        match ← places.findM? fun place => do
          pure (match ← findNode place with
            | .ok (.file ..) => true
            | _ => false) with
        | some place => pure place
        | none => refuse (name ++ ": not found".toList)
    match ← openByName .read false place with
    | .error trouble =>
      refuse ("cannot open ".toList ++ place ++ ": ".toList ++
        (openingTrouble false trouble).toList)
    | .ok number => do
      let file := ((← theWorld).opened.lookup number).getD { medium := .nothing }
      let (text, _) ← remaining file
      changeShell fun shell => { shell with command := some place }
      go (.lines text)

/-- Carry out a command of the shell. -/
def runBuiltin (go : Doer) (name : String) (tested : Bool) (standardFolders : Bool)
    (words : List (List Char)) : Act Nat := do
  let called := words.headD []
  let arguments := words.drop 1
  match name with
  | "eval" => if arguments.isEmpty then pure 0 else go (.text (joinWith [' '] arguments) tested false)
  | "." => runFile go arguments
  | "exec" => becomeProgram go standardFolders arguments
  | "command" => do
    let (options, operands) ← takeOptions "pvV".toList arguments
    let verbose := options.any (·.1 = 'V')
    match operands with
    | operand :: _ =>
      if verbose || options.any (·.1 = 'v') then
        let folders? := if options.any (·.1 = 'p') then some (programFolders.map String.toList) else none
        describe operand folders? verbose
      else pure 0
    | [] => pure 0
  | name =>
    match builtin? name with
    | some builtin => builtin called arguments
    | none => pure 0

/-- Carry out a command of the shell. What fails in it ends the script only if the command
is special. -/
def callBuiltin (go : Doer) (name : String) (special tested standardFolders : Bool)
    (words : List (List Char)) : Act Nat := do
  let before := (← theShell).command
  changeShell fun shell => { shell with command := words.head? }
  let result ← attempt (runBuiltin go name tested standardFolders words)
  changeShell fun shell => { shell with command := before }
  match result with
  | .ok status => do
    setStatus status
    pure status
  | .error .failed => do
    if special then throw .failed
    pure (← theShell).status
  | .error departure => throw departure

/-- Call a function. -/
def callFunction (go : Doer) (body : Script) (tested : Bool) (arguments : List (List Char)) :
    Act Nat := do
  let before ← theShell
  changeShell fun shell => { shell with arguments, nextOption := 1, nextLetter := none, loops := 0 }
  ensuring (do let _ ← go (.script body tested false)) do
    changeShell fun shell => { shell with
      arguments := before.arguments, nextOption := before.nextOption
      nextLetter := before.nextLetter, loops := before.loops
      skip := match shell.skip with
        | .goBack _ => .nothing
        | skip => skip }
  pure (← theShell).status

/-- Start a program and wait for its end. With nothing left to do it takes the place of the
shell. -/
def callProgram (go : Doer) (last standardFolders : Bool) (words : List (List Char)) :
    Act Nat := do
  match words with
  | [] => pure 0
  | name :: arguments =>
    match ← programPlace name standardFolders false with
    | .error status => pure status
    | .ok place => do
      let shell ← theShell
      if last && !shell.hasActions then replaceBy go place name arguments
      else await last (← inProcess go (go (.program place name arguments)))

/-- Set the variables in front of a command; those of a command that is not special are
hidden again behind it. The texts are kept to be shown. -/
def assignAll (capture : Script → Act (List Char)) (hides exported : Bool) :
    List Word → Act (List (List Char))
  | [] => pure []
  | word :: words => do
    let text ← expandText capture .assignment word
    let (name, value) := nameAndValue text
    if hides then hide text { exported := true }
    else putValue name (some (some (value.getD []))) { exported }
    pure (text :: (← assignAll capture hides exported words))

/-- Carry out a simple command. -/
def runSimple (go : Doer) (line : Nat) (assignments words : List Word)
    (redirects : List Redirect) (tested last : Bool) : Act Nat := do
  let capture := capture go
  changeShell fun shell => { shell with line, wordStatus := 0 }
  let (fields, rest) ← expandFirst capture words
  let call ← findCall 100 capture true { fields, rest }
  let assigning := match call.callee with
    | some (.builtin name _) => takesAssignments name
    | _ => false
  let words := call.fields ++ (← expandOthers capture assigning call.rest)
  let isExec := match call.callee with
    | some (.builtin "exec" _) => true
    | _ => false
  let special := call.special = some true
  let hides := call.callee.isSome && !special
  let work : Act Nat := do
    let shell ← theShell
    changeShell fun shell => { shell with traceStream := shell.streams.lookup 2 }
    withStreams capture redirects isExec
      (do
        if special then throw .failed
        pure 2)
      (do
        let texts ← assignAll capture hides (isExec && 1 < words.length) assignments
        traceCommand capture (texts ++ words)
        changeShell fun after => { after with traceStream := shell.traceStream }
        match call.callee with
        | none => do pure (← theShell).wordStatus
        | some (.function body) => callFunction go body tested (words.drop 1)
        | some (.builtin name _) => callBuiltin go name special tested call.standardFolders words
        | some .program => callProgram go last call.standardFolders words)
  if hides then withLayer work else work

end Checkup.Shell
