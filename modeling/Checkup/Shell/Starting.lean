import Checkup.Shell.Process
import Checkup.Shell.Programs
import Checkup.Shell.Utility.Numbers

/-!
# Programs that start others

Programs that start another one: with variables of its own, for some time only,
or with the words of the input.
-/

namespace Checkup.Shell

/-- The place of the program that some words start. -/
def programOf (words : List (List Char)) : Act (Except Missing (List Char)) := do
  match words with
  | [] | [] :: _ => pure (.error .notFound)
  | name :: _ =>
    let paths := ((← theShell).value? "PATH".toList).getD "/bin:/usr/bin".toList
    locateProgram name (pathFolders paths)

/-- Be the program that some words start. -/
def startFrom (go : Doer) (place : List Char) (words : List (List Char)) : Act Nat :=
  go (.program place (words.headD []) (words.drop 1))

/-- Start a program for another, and tell how it ends. -/
def launch (go : Doer) (words : List (List Char)) : Act (Except Missing Nat) := do
  match ← programOf words with
  | .error missing => pure (.error missing)
  | .ok place => pure (.ok (← inProcess go (startFrom go place words)).status)

/-- Say that a program cannot be started, and yield the status for it. -/
def launchTrouble (starter : List Char) (program : String) (missing : Missing) : Act Nat := do
  let (trouble, status) := match missing with
    | .notFound => ("No such file or directory", 127)
    | .denied => ("Permission denied", 126)
  say 2 (starter ++ ofText (": " ++ program ++ ": " ++ trouble ++ "\n"))
  pure status

/-- Be the program that some words start, or say why it cannot be started. -/
def enterOrTell (go : Doer) (starter : List Char) (words : List (List Char))
    (lead : String) : Act Nat := do
  match ← programOf words with
  | .ok place => startFrom go place words
  | .error missing => launchTrouble starter (lead ++ quoted (words.headD [])) missing

/-- Start a program with variables of its own. -/
def runEnv (go : Doer) (fuel : Nat) (name : List Char) (arguments : List (List Char)) : Act Nat :=
  match fuel with
  | 0 => pure 125
  | fuel + 1 => do
    let forget (isMeant : List Char → Bool) : Act Unit :=
      changeShell fun shell => { shell with
        bindings := shell.bindings.filter fun entry => !isMeant entry.1 }
    match arguments with
    | ['-'] :: rest | ['-', 'i'] :: rest => do
      forget fun _ => true
      runEnv go fuel name rest
    | ['-', '-'] :: rest => runEnv go fuel name rest
    | ['-', 'u'] :: gone :: rest => do
      forget (· = gone)
      runEnv go fuel name rest
    | word :: rest =>
      match nameAndValue word with
      | (given, some value) => do
        changeShell fun shell =>
          shell.putVariable given (some { value := some value, exported := true })
        runEnv go fuel name rest
      | (_, none) =>
        if word.head? = some '-' then do
          say 2 (name ++ ofText (": invalid option -- " ++ quoted ((word.drop 1).take 1) ++
            "\nTry 'env --help' for more information.\n"))
          pure 125
        else enterOrTell go name arguments ""
    | [] => do
      let environment := (← theShell).environment
      let lines := environment.map fun (name, value) => name ++ '=' :: value
      say 1 (linesText lines)
      pure 0

/-- Start a program, and send it signals at some times. The program has a group of its own,
which gets the signals, or it gets them alone. Tell how it ends. -/
def runTimed (go : Doer) (alone : Bool) (signals : List (Nat × Nat)) (place : List Char)
    (words : List (List Char)) : Act Ending := do
  let leader := (← theShell).process
  changeWorld fun world =>
    let sent := signals.map fun (time, signal) =>
      { time, target := if alone then world.nextProcess else leader, toGroup := !alone, signal : Sending }
    { world with coming := sent ++ world.coming }
  inProcess go do
    if !alone then changeShell fun shell => { shell with group := leader }
    startFrom go place words

/-- Start a program that has so much time and no more. -/
def runTimeout (go : Doer) (name : List Char) (arguments : List (List Char)) : Act Nat := do
  let options := takeArguments "v" "sk"
    [("signal", 's'), ("kill-after", 'k'), ("preserve-status", 'p'), ("foreground", 'f')] true arguments
  let advise (words : String) : Act Nat := do
    say 2 (ofText (words ++ "Try 'timeout --help' for more information.\n"))
    pure 125
  let refuse (words : String) : Act Nat := advise (toText name ++ ": " ++ words ++ "\n")
  if let some words := options.complaint? then return ← refuse words
  match options.operands with
  | duration :: word :: rest =>
    match microseconds? duration, (options.value? 'k').map microseconds? with
    | none, _ => refuse ("invalid time interval " ++ quoted duration)
    | _, some none => refuse ("invalid time interval " ++ quoted ((options.value? 'k').getD []))
    | some duration, grace => do
      let some signal := ((options.value? 's').map (signal? 1)).getD (some 15)
        | refuse (quoted ((options.value? 's').getD []) ++ ": invalid signal")
      match ← programOf (word :: rest) with
      | .error missing => launchTrouble name ("failed to run command " ++ quoted word) missing
      | .ok place => do
        let last := (← theWorld).time + duration
        let grace := grace.join.filter (· != 0)
        let signals := if duration = 0 then [] else (last, signal) :: (grace.map (last + ·, 9)).toList
        let alone := options.has 'f'
        let ending ← runTimed go alone signals place (word :: rest)
        let now := (← theWorld).time
        let sent := signals.filter fun entry => entry.1 ≤ now
        let process := (← theShell).process
        if options.has 'v' then
          for (_, signal) in sent do
            say 2 (name ++ ofText (": sending signal " ++ toText (signalName signal) ++ " to command " ++
              quoted word ++ "\n"))
        if sent.any fun entry => entry.2 = 9 then
          if alone then pure 137 else throw (.killed process 9)
        else if !sent.isEmpty then pure (if options.has 'p' then ending.status else 124)
        else match ending.signal with
          | some signal => throw (.killed process signal)
          | none => pure ending.status
  | _ => advise ""

/-- Start a program for rows of words, and tell whether all went well. -/
def launchRows (go : Doer) (name : List Char) (traces : Bool) :
    List (List (List Char)) → Act Nat
  | [] => pure 0
  | words :: rows => do
    if traces then say 2 (joinWith [' '] words ++ ['\n'])
    match ← launch go words with
    | .error missing => launchTrouble name (toText (words.headD [])) missing
    | .ok status => do
      if status = 255 then
        say 2 (name ++ ofText (": " ++ toText (words.headD []) ++
          ": exited with status 255; aborting\n"))
        return 124
      let others ← launchRows go name traces rows
      pure (if others = 0 && status != 0 then 123 else others)

/-- Words between blanks, with quotes and backslashes around what belongs together. -/
def inputWordsFrom : (word : Option (List Char)) → (quote : Option Char) → List Char → List (List Char)
  | word, _, [] => (word.map List.reverse).toList
  | word, quote, c :: rest =>
    let add (c : Char) : Option (List Char) := some (c :: word.getD [])
    match quote with
    | some mark =>
      if mark = '\\' then inputWordsFrom (add c) none rest
      else if c = mark then inputWordsFrom (some (word.getD [])) none rest
      else inputWordsFrom (add c) quote rest
    | none =>
      if isSpace c then (word.map List.reverse).toList ++ inputWordsFrom none none rest
      else if c = '\x27' || c = '"' || c = '\\' then inputWordsFrom (some (word.getD [])) (some c) rest
      else inputWordsFrom (add c) none rest

/-- The words of a text. -/
def inputWords (text : List Char) : List (List Char) := inputWordsFrom none none text

/-- Start a program with the words of the input. -/
def runXargs (go : Doer) (name : List Char) (arguments : List (List Char)) : Act Nat := do
  let options := takeArguments "0rt" "nILdP"
    [("null", '0'), ("no-run-if-empty", 'r'), ("max-args", 'n'), ("replace", 'I'),
     ("verbose", 't'), ("delimiter", 'd')] true arguments
  let input ← match ← fileOf? 0 with
    | some (number, file) => do
      let (text, _) ← remaining file
      consume number text.length
      pure text
    | none => pure []
  withoutInput
  let words := if options.operands.isEmpty then ["echo".toList] else options.operands
  let rows : List (List (List Char)) := match options.value? 'I' with
    | some mark =>
      ((bareLines input).map fun line => line.dropWhile isSpace).filter (!·.isEmpty) |>.map fun line =>
        words.map fun word => replaceAll mark line word
    | none =>
      let items :=
        if options.has '0' then ((splitAt null input).filter (!·.isEmpty))
        else match options.value? 'd' with
          | some mark =>
            let mark := ((unescape mark).1).headD '\n'
            let pieces := splitAt mark input
            if pieces.getLast? = some [] then pieces.dropLast else pieces
          | none => inputWords input
      match (options.value? 'n').bind count? with
      | some size =>
        let groups := chunks (items.length + 1) (max size 1) items
        (if groups.isEmpty && !options.has 'r' then [[]] else groups).map (words ++ ·)
      | none => if items.isEmpty && options.has 'r' then [] else [words ++ items]
  launchRows go name (options.has 't') rows
where
  /-- A text with another in place of a mark. -/
  replaceAll (mark new : List Char) (text : List Char) : List Char :=
    if mark.isEmpty then text
    else toBytesText ((toText text).replace (toText mark) (toText new))
  /-- The bytes of a text. -/
  toBytesText (text : String) : List Char := ofText text
  /-- Rows of so many items. -/
  chunks (fuel size : Nat) (items : List (List Char)) : List (List (List Char)) :=
    match fuel with
    | 0 => []
    | fuel + 1 => if items.isEmpty then [] else items.take size :: chunks fuel size (items.drop size)

end Checkup.Shell
