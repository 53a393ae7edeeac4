import Checkup.Shell.Builtin
import Checkup.Shell.Programs

/-!
# Places and names

Commands that go to folders and tell what names stand for.
-/

namespace Checkup.Shell

/-- The text of a place. -/
def placeText (place : List String) : List Char := ofText (Path.absoluteText place)

/-- Go to a folder, if it is one. -/
def enter (name : List Char) : Act Bool := do
  let shell ← theShell
  let world ← theWorld
  let place := (namedPath name).resolve shell.folder
  match world.tree.top.at? place with
  | some (.folder _) => do
    let before := placeText shell.folder
    changeShell fun shell => { shell with folder := place }
    putValue "OLDPWD".toList (some (some before)) { exported := true }
    putValue "PWD".toList (some (some (placeText place))) { exported := true }
    pure true
  | _ => pure false

/-- A folder is sought below others only if its name does not begin with dots. -/
def isSought (name : List Char) : Bool :=
  match name with
  | '/' :: _ | ['.'] | '.' :: '/' :: _ | ['.', '.'] | '.' :: '.' :: '/' :: _ => false
  | _ => true

/-- Go to the first of some folders that holds another, and tell whether that has to be
shown. -/
def enterBelow (name : List Char) : List (List Char) → Act (Option Bool)
  | [] => do pure (if ← enter name then some false else none)
  | folder :: folders => do
    if ← enter (inFolder folder name) then pure (some !folder.isEmpty)
    else enterBelow name folders

/-- Go to a folder. -/
def changeFolder : Builtin := fun command arguments => do
  let (_, operands) ← takeOptions ['L', 'P'] arguments
  let shell ← theShell
  let (name, back) := match operands with
    | [] => (shell.valueOf "HOME", false)
    | ['-'] :: _ => (shell.valueOf "OLDPWD", true)
    | name :: _ => (name, false)
  let paths := shell.valueOf "CDPATH"
  let target := if name.isEmpty then ['.'] else name
  let shown ←
    if isSought name && !paths.isEmpty then enterBelow target (pathFolders paths)
    else do pure (if ← enter target then some false else none)
  match shown with
  | none => refuse ("can't cd to ".toList ++ name)
  | some shown => do
    if back || shown then put command (placeText (← theShell).folder ++ ['\n'])
    else pure 0

/-- Write where the shell is. -/
def workingFolder : Builtin := fun name arguments => do
  let _ ← takeOptions ['L', 'P'] arguments
  put name (placeText (← theShell).folder ++ ['\n'])

/-- Where an alias stands in the list of all. -/
def aliasOrder (name : List Char) : Nat :=
  ((name.headD null).toNat * 16 + name.foldl (fun sum c => sum + c.toNat) 0) % 39

/-- An alias as it is listed. -/
def aliasText (entry : List Char × List Char) : List Char :=
  entry.1 ++ '=' :: singleQuoted entry.2 ++ ['\n']

/-- Set aliases, or list them. -/
def setAliases : Builtin := fun name arguments => do
  let aliases := (← theShell).aliases
  if arguments.isEmpty then
    let sorted := aliases.mergeSort fun a b => aliasOrder a.1 ≤ aliasOrder b.1
    put name (sorted.flatMap aliasText)
  else
    let mut status := 0
    for argument in arguments do
      let aliases := (← theShell).aliases
      let before := argument.take 1 ++ (argument.drop 1).takeWhile (· != '=')
      match argument.drop before.length with
      | _ :: text =>
        changeShell fun shell => { shell with
          aliases :=
            if (shell.aliases.lookup before).isSome then
              shell.aliases.map fun entry => if entry.1 = before then (before, text) else entry
            else shell.aliases ++ [(before, text)] }
      | [] =>
        match aliases.lookup argument with
        | some text => say 1 (aliasText (argument, text))
        | none =>
          say 2 ("alias: ".toList ++ argument ++ " not found\n".toList)
          status := 1
    pure status

/-- Take aliases away. -/
def unsetAliases : Builtin := fun _ arguments => do
  let (options, names) ← takeOptions ['a'] arguments
  if !options.isEmpty then
    changeShell fun shell => { shell with aliases := [] }
    pure 0
  else
    let mut status := 0
    for name in names do
      if ((← theShell).aliases.lookup name).isSome then
        changeShell fun shell => { shell with
          aliases := shell.aliases.filter fun entry => entry.1 != name }
      else
        say 2 ("unalias: ".toList ++ name ++ " not found\n".toList)
        status := 1
    pure status

/-- The names of the commands that a shell carries out itself and that may end a script. -/
def specialCommands : List String :=
  [".", ":", "break", "continue", "eval", "exec", "exit", "export", "local", "readonly", "return",
   "set", "shift", "times", "trap", "unset"]

/-- The names of the other commands that a shell carries out itself. -/
def plainCommands : List String :=
  ["alias", "bg", "cd", "chdir", "command", "echo", "false", "fg", "getopts", "hash", "jobs",
   "kill", "printf", "pwd", "read", "test", "[", "true", "type", "ulimit", "umask", "unalias",
   "wait"]

/-- What a name stands for where a command starts; `folders` are looked through for
programs. -/
def describe (name : List Char) (folders? : Option (List (List Char))) (verbose : Bool) :
    Act Nat := do
  let shell ← theShell
  let text := String.ofList name
  let tell (words short : List Char) : Act Nat := do
    say 1 ((if verbose then name ++ words else short) ++ ['\n'])
    pure 0
  if Token.keywords.contains text then return ← tell " is a shell keyword".toList name
  match shell.aliases.lookup name with
  | some value =>
    if verbose then return ← tell (" is an alias for ".toList ++ value) []
    else
      say 1 ("alias ".toList ++ aliasText (name, value))
      return 0
  | none => pure ()
  if (shell.functions.lookup name).isSome then
    return ← tell " is a shell function".toList name
  if specialCommands.contains text then
    return ← tell " is a special shell builtin".toList name
  if plainCommands.contains text then return ← tell " is a shell builtin".toList name
  let folders ← match folders? with
    | some folders => pure folders
    | none => theFolders
  match ← locateProgram name folders with
  | .ok place =>
    let known := folders?.isNone && shell.found.contains name
    if folders?.isNone && !name.contains '/' && !known then
      changeShell fun shell => { shell with found := name :: shell.found }
    tell ((if known then " is a tracked alias for " else " is ").toList ++ place) place
  | .error _ => do
    if verbose then say 1 (name ++ ": not found\n".toList)
    pure 127

/-- Tell what names stand for. -/
def type : Builtin := fun _ arguments => do
  let mut status := 0
  for argument in arguments do
    status := status ||| (← describe argument none true)
  pure status

/-- Remember the places of programs, or list them. -/
def hash : Builtin := fun name arguments => do
  let (options, names) ← takeOptions ['r'] arguments
  if !options.isEmpty then
    changeShell fun shell => { shell with found := [] }
    return 0
  let folders ← theFolders
  if names.isEmpty then
    let mut text := []
    for known in (← theShell).found do
      match ← locateProgram known folders with
      | .ok place => text := text ++ place ++ ['\n']
      | .error _ => pure ()
    put name text
  else
    let mut status := 0
    for wanted in names do
      let text := String.ofList wanted
      if !specialCommands.contains text && !plainCommands.contains text then
        match ← locateProgram wanted folders with
        | .ok _ => changeShell fun shell => { shell with found := wanted :: shell.found.erase wanted }
        | .error _ =>
          complain (wanted ++ ": not found".toList)
          status := 1
    pure status

/-- Three octal digits behind a zero. -/
def octalRights (rights : Nat) : List Char :=
  let digits := Nat.toDigits 8 rights
  List.replicate (4 - digits.length) '0' ++ digits

/-- Three bits for each of those that are meant. -/
def rightsOf (who : List Char) (bits : Nat) : Nat :=
  let all := who.isEmpty || who.contains 'a'
  (if all || who.contains 'u' then bits * 64 else 0) +
    (if all || who.contains 'g' then bits * 8 else 0) +
    (if all || who.contains 'o' then bits else 0)

/-- The bits that letters stand for. Some stand for the rights that others have. -/
def letterBits (rights : Nat) (letters : List Char) : Nat :=
  letters.foldl (fun bits c => bits ||| match c with
    | 'r' => 4
    | 'w' => 2
    | 'x' => 1
    | 'X' => if rights &&& 73 = 0 then 0 else 1
    | 'u' => rights / 64 % 8
    | 'g' => rights / 8 % 8
    | 'o' => rights % 8
    | _ => 0) 0

/-- Rights changed as signs and letters behind them say, if they can be read. -/
def changeRights? (fuel : Nat) (who : List Char) (rights : Nat) (text : List Char) : Option Nat :=
  match fuel, text with
  | 0, _ => none
  | _, [] => some rights
  | fuel + 1, sign :: rest =>
    let letters := rest.takeWhile fun c => "rwxXstugo".toList.contains c
    let behind := rest.drop letters.length
    let bits := rightsOf who (letterBits rights letters)
    let whole := rightsOf who 7
    match sign with
    | '+' => changeRights? fuel who (rights ||| bits) behind
    | '-' => changeRights? fuel who (rights - (rights &&& bits)) behind
    | '=' => changeRights? fuel who (rights - (rights &&& whole) ||| bits) behind
    | _ => none

/-- Rights changed as clauses say, if they can be read. Nothing need be behind the last
comma. -/
def symbolicRights? (rights : Nat) (text : List Char) : Option Nat :=
  let clauses := splitAt ',' text
  let clauses := if clauses.getLast? = some [] then clauses.dropLast else clauses
  clauses.foldl (fun rights? clause =>
    let who := clause.takeWhile fun c => "ugoa".toList.contains c
    if clause.isEmpty then none
    else rights?.bind fun rights =>
      changeRights? (clause.length + 1) who rights (clause.drop who.length)) (some rights)

/-- Show the rights that new files do not have, or set them. -/
def rightsMask : Builtin := fun name arguments => do
  let (options, operands) ← takeOptions ['S'] arguments
  let mask := (← theShell).mask
  match operands with
  | [] =>
    if options.isEmpty then put name (octalRights mask ++ ['\n'])
    else
      let rights (who : Char) (shift : Nat) : List Char :=
        let bits := mask / Nat.pow 8 shift % 8
        [who, '='] ++ (if bits / 4 % 2 = 0 then ['r'] else []) ++
          (if bits / 2 % 2 = 0 then ['w'] else []) ++ (if bits % 2 = 0 then ['x'] else [])
      put name (joinWith [','] [rights 'u' 2, rights 'g' 1, rights 'o' 0] ++ ['\n'])
  | text :: _ => do
    if text.all (isDigitOf 8) && !text.isEmpty then
      changeShell fun shell => { shell with mask := digitsValue 8 text % 512 }
    else if (text.head?).any Char.isDigit then refuse ("Illegal number: ".toList ++ text)
    else match symbolicRights? (511 - mask) text with
      | some rights => changeShell fun shell => { shell with mask := 511 - rights }
      | none => refuse ("Illegal mode: ".toList ++ text)
    pure 0

end Checkup.Shell
