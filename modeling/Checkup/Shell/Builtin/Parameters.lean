import Checkup.Shell.Builtin

/-!
# Parameters and settings

Commands that set variables, arguments and settings.
-/

namespace Checkup.Shell

/-- Mark variables, or list those that are marked. -/
def markVariables (marking : Marking) (isMarked : Variable → Bool) : Builtin := fun name arguments => do
  let (options, operands) ← takeOptions ['p'] arguments
  if !options.isEmpty || operands.isEmpty then
    let marked := (← theShell).bindings.filter fun entry => isMarked entry.2
    put name (listing name marked)
  else
    for operand in operands do
      let (given, value?) := nameAndValue operand
      let known := (← theShell).bindings.lookup given |>.isSome
      if value?.isNone && known then putValue given none marking
      else
        demandName given
        putValue given (value?.map some) marking
    pure 0

/-- Let commands see variables. -/
def exportVariables : Builtin := markVariables { exported := true } (·.exported)

/-- Let variables keep their values. -/
def freezeVariables : Builtin := markVariables { readOnly := true } (·.readOnly)

/-- Hide variables until the end of a function. -/
def hideVariables : Builtin := fun _ arguments => do
  if (← theShell).hidden.isEmpty then refuse "not in a function".toList
  for argument in arguments do
    hide argument {}
  pure 0

/-- Take away variables, or functions. -/
def unset : Builtin := fun _ arguments => do
  let (options, operands) ← takeOptions ['v', 'f'] arguments
  let functions := (options.getLast?.map Prod.fst) = some 'f'
  for operand in operands do
    if functions then
      changeShell fun shell => { shell with
        functions := shell.functions.filter fun entry => entry.1 != operand }
    else unsetVariable operand
  pure 0

/-- The arguments are others. -/
def setArguments (arguments : List (List Char)) : Act Unit :=
  changeShell fun shell => { shell with arguments, nextOption := 1, nextLetter := none }

/-- Switch a setting. Two ways to edit lines exclude each other, and jobs cannot be
controlled without a terminal. -/
def switch (setting : Setting) (on : Bool) : Act Unit :=
  changeShell fun shell =>
    let excluded := if !on then [] else match setting with
      | .vi => [Setting.emacs]
      | .emacs => [.vi]
      | _ => []
    let others := shell.settings.filter fun other => other != setting && !excluded.contains other
    { shell with settings := if on then setting :: others else others }

/-- Give up the control of jobs. -/
def dropMonitor : Act Unit := do
  if ← isOn .monitor then
    switch .monitor false
    complain "can't access tty; job control turned off".toList

/-- All settings as they are listed. -/
def settingsText (settings : List Setting) (on : Bool) : List Char :=
  let heading := if on then "Current option settings\n".toList else []
  heading ++ Setting.table.flatMap fun (setting, name, _) =>
    let isSet := settings.contains setting
    if on then
      (name ++ String.ofList (List.replicate (16 - name.length) ' ') ++
        (if isSet then "on" else "off") ++ "\n").toList
    else ("set " ++ (if isSet then "-o " else "+o ") ++ name ++ "\n").toList

/-- What options of a shell ask for besides settings. -/
structure Asked where
  /-- The script is an argument. -/
  script : Bool := false
  rest : List (List Char)

/-- Switch settings as letters say; `others` are the arguments behind them. -/
def switchLetters (starting on : Bool) : List Char → Asked → Act Asked
  | [], asked => pure asked
  | c :: letters, asked => do
    if c = 'c' && starting then
      switchLetters starting on letters { asked with script := true }
    else if c = 'l' && starting then switchLetters starting on letters asked
    else if c = 'o' then
      match asked.rest with
      | [] =>
        say 1 (settingsText (← theShell).settings on)
        switchLetters starting on letters asked
      | name :: rest => do
        match Setting.ofName? name with
        | some setting => switch setting on
        | none => refuse ("Illegal option -o ".toList ++ name)
        switchLetters starting on letters { asked with rest }
    else do
      match Setting.ofLetter? c with
      | some setting => switch setting on
      | none => refuse ("Illegal option -".toList ++ [c])
      switchLetters starting on letters asked

/-- Switch settings as arguments say, as far as they do. A single dash ends the options
of a shell, and also switches off what shows commands. -/
def switchSettings (fuel : Nat) (starting : Bool) (asked : Asked) : Act Asked :=
  match fuel with
  | 0 => pure asked
  | fuel + 1 =>
    match asked.rest with
    | ['-'] :: rest => do
      if !starting then
        switch .xtrace false
        switch .verbose false
      pure { asked with rest }
    | ['-', '-'] :: rest => do
      if !starting && rest.isEmpty then setArguments []
      pure { asked with rest }
    | (sign :: letters) :: rest =>
      if sign = '-' || sign = '+' then do
        switchSettings fuel starting
          (← switchLetters starting (sign = '-') letters { asked with rest })
      else pure asked
    | _ => pure asked

/-- Set settings and arguments, or list all variables. -/
def configure : Builtin := fun name arguments => do
  if arguments.isEmpty then
    let held := (← theShell).bindings.filter fun entry => entry.2.value.isSome
    put name (listing [] held)
  else
    let asked ← switchSettings (arguments.length + 1) false { rest := arguments }
    dropMonitor
    if !asked.rest.isEmpty then setArguments asked.rest
    pure 0

/-- Drop the first arguments. -/
def shift : Builtin := fun _ arguments => do
  let count ← match arguments with
    | [] => pure 1
    | text :: _ => countOf text
  let held := (← theShell).arguments
  if held.length < count then refuse "can't shift that many".toList
  setArguments (held.drop count)
  pure 0

/-- What one step through options finds. -/
structure OptionStep where
  letter : Char
  value : Option (List Char) := none
  /-- The argument that is looked at next, and where in it. -/
  next : Nat
  offset : Option Nat := none
  ends : Bool := false
  complaint : List Char := []

/-- A letter of options takes a value, or none; letters that are not listed do neither. -/
def takesValue? (letters : List Char) (letter : Char) : Option Bool :=
  match letters with
  | [] => none
  | c :: ':' :: rest => if c = letter then some true else takesValue? rest letter
  | c :: rest => if c = letter then some false else takesValue? rest letter

/-- One step through the options of some arguments. -/
def optionStep (letters : List Char) (arguments : List (List Char)) (next : Nat)
    (offset : Option Nat) : OptionStep :=
  let silent := letters.head? = some ':'
  let pending := match offset with
    | some offset => if next ≤ 1 then [] else ((arguments[next - 2]?).getD []).drop offset
    | none => []
  let ending (next : Nat) : OptionStep := { letter := '?', next, ends := true }
  let letter (text : List Char) (next : Nat) : OptionStep :=
    match text with
    | [] => ending next
    | c :: rest =>
      let word := (arguments[next - 2]?).getD []
      let here := if rest.isEmpty then word.length else word.length - rest.length
      match takesValue? letters c with
      | none =>
        { letter := '?', next, offset := some here
          value := if silent then some [c] else none
          complaint := if silent then [] else ofText ("Illegal option -" ++ c.toString ++ "\n") }
      | some false => { letter := c, value := some [], next, offset := some here }
      | some true =>
        if !rest.isEmpty then { letter := c, value := some rest, next }
        else match arguments[next - 1]? with
          | some value => { letter := c, value := some value, next := next + 1 }
          | none =>
            if silent then { letter := ':', value := some [c], next, offset := none }
            else { letter := '?', next, complaint := ofText ("No arg for -" ++ c.toString ++ " option\n") }
  if !pending.isEmpty then letter pending next
  else match arguments[next - 1]? with
    | some ['-', '-'] => ending (next + 1)
    | some ('-' :: c :: rest) => letter (c :: rest) (next + 1)
    | _ => ending next

/-- Go through options, one letter at a time. -/
def getopts : Builtin := fun _ arguments => do
  let (_, arguments) ← takeOptions [] arguments
  match arguments with
  | letters :: name :: words => do
    let shell ← theShell
    let words := if words.isEmpty then shell.arguments else words
    let outside := words.length + 1 < shell.nextOption
    let step := optionStep letters words (if outside then 1 else shell.nextOption)
      (if outside then none else shell.nextLetter)
    if !step.complaint.isEmpty then say 2 step.complaint
    if !step.ends then
      match step.value with
      | some value => setVariable "OPTARG".toList value
      | none => unsetVariable "OPTARG".toList
    setVariable "OPTIND".toList (showNumber step.next)
    setVariable name [step.letter]
    changeShell fun shell => { shell with nextOption := step.next, nextLetter := step.offset }
    pure (if step.ends then 1 else 0)
  | _ => refuse "Usage: getopts optstring var [arg...]".toList

/-- A line as it is read: stretches, and how many characters it took. Without `raw` a
backslash guards the next character, and joins lines. -/
def takeLine (raw guarded : Bool) : List Char → List Stretch × Nat × Bool
  | [] => ([], 0, false)
  | c :: rest =>
    let more (guarded : Bool) (stretches : List Stretch) : List Stretch × Nat × Bool :=
      let (line, count, complete) := takeLine raw guarded rest
      (join stretches line, count + 1, complete)
    if c = null then more guarded []
    else if guarded then
      if c = '\n' then more false [⟨.cut, []⟩]
      else more false [⟨.fixed, [.plain c]⟩]
    else if !raw && c = '\\' then more true []
    else if c = '\n' then ([], 1, true)
    else more false [⟨.cut, [.plain c]⟩]
where
  /-- Stretches in front of others; two that are cut alike become one. -/
  join : List Stretch → List Stretch → List Stretch
    | [⟨.cut, [c]⟩], ⟨.cut, glyphs⟩ :: rest => ⟨.cut, c :: glyphs⟩ :: rest
    | first, rest => first ++ rest

/-- Give fields to variables; those without a field are empty. -/
def setFields : List (List Char) → List (List Glyph) → Act Unit
  | [], _ => pure ()
  | name :: names, fields => do
    setVariable name (Glyph.text (fields.headD []))
    setFields names (fields.drop 1)

/-- Read a line into variables. -/
def readFields : Builtin := fun _ arguments => do
  let (options, names) ← takeOptions "p:r".toList arguments
  if names.isEmpty then refuse "arg count".toList
  let raw := options.any (·.1 = 'r')
  let (line, complete) ← match ← fileOf? 0 with
    | some (number, file) => do
      let (text, _) ← remaining file
      let (line, count, complete) := takeLine raw false text
      consume number count
      pure (line, complete)
    | none => pure ([], false)
  setFields names (splitFields (← theShell).separators (some names.length) line)
  pure (if complete then 0 else 1)

end Checkup.Shell
