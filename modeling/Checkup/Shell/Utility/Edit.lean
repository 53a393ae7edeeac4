import Checkup.Shell.Utility
import Checkup.Shell.Utility.EditScript

/-!
# The stream editor

Lines are read one after the other into a buffer. The commands of a script change
the buffer, and at the end of the script it is written.
-/

namespace Checkup.Shell

/-- An editor at work. -/
structure Editor where
  /-- Lines that are still to be read. -/
  rest : List (List Char)
  number : Nat := 0
  buffer : List Char := []
  held : List Char := []
  /-- What is written once the buffer is. -/
  behind : List (List Char) := []
  /-- What was written, in reverse. -/
  written : List (List Char) := []
  files : List (List Char × List Char) := []
  /-- Which rows of lines are in hand, by the number of the command, and where they end. -/
  rows : List (Nat × Option Nat) := []
  replaced : Bool := false
  lastPattern : Option Expression := none
  quits : Bool := false
  status : Nat := 0
  /-- The buffer is kept for the next round, without reading a line. -/
  keeps : Bool := false

/-- What an editor works with. -/
structure EditPlan where
  commands : Array EditCommand
  quiet : Bool
  /-- The last line ends with a line feed. -/
  ended : Bool
  /-- The text of a file that is read. -/
  read : List Char → List Char

namespace Editor

/-- Write a line. -/
def write (editor : Editor) (line : List Char) : Editor :=
  { editor with written := (line ++ ['\n']) :: editor.written }

/-- The buffer, as it is searched. -/
def haystack (editor : Editor) (pattern : EditPattern) : Haystack :=
  { text := editor.buffer.toArray, lines := pattern.lines, folds := pattern.folds }

/-- The expression of a pattern, and the editor that remembers it. -/
def use (editor : Editor) (pattern : EditPattern) : Expression × Editor :=
  match pattern.expression? with
  | some expression => (expression, { editor with lastPattern := some expression })
  | none => (editor.lastPattern.getD .nothing, editor)

/-- The line in hand is the one that is named. -/
def isAt (editor : Editor) : Address → Bool × Editor
  | .line number => (editor.number = number, editor)
  | .last => (editor.rest.isEmpty, editor)
  | .every first step =>
    (if step = 0 then editor.number = first
      else first ≤ editor.number && (editor.number - first) % step = 0, editor)
  | .found pattern =>
    let (expression, editor) := editor.use pattern
    (expression.occurs (editor.haystack pattern), editor)

/-- A row of lines is in hand, until a line if that is known. -/
def putRow (editor : Editor) (command : Nat) (stop : Option Nat) : Editor :=
  { editor with rows := (command, stop) :: editor.rows.filter fun row => row.1 != command }

/-- A row of lines is over. -/
def dropRow (editor : Editor) (command : Nat) : Editor :=
  { editor with rows := editor.rows.filter fun row => row.1 != command }

/-- Start a row of lines, unless it ends at once. -/
def startRow (editor : Editor) (command : Nat) (stop : AddressEnd) : Editor :=
  let upTo (last : Nat) : Editor :=
    if last ≤ editor.number then editor else editor.putRow command (some last)
  match stop with
  | .address (.line number) => upTo number
  | .address .last => if editor.rest.isEmpty then editor else editor.putRow command none
  | .address _ => editor.putRow command none
  | .after count => upTo (editor.number + count)
  | .multiple count =>
    if count = 0 then editor else upTo ((editor.number + count - 1) / count * count)

/-- A command is meant for the line in hand. -/
def selects (editor : Editor) (command : Nat) : Selection → Bool × Editor
  | .all => (true, editor)
  | .one address => editor.isAt address
  | .range first stop =>
    let inRow? : Option (Option Nat) := match editor.rows.lookup command with
      | some last => some last
      | none => if first matches .line 0 then if editor.number = 1 then some none else none else none
    match inRow? with
    | some (some last) =>
      let after := if last ≤ editor.number then editor.dropRow command else editor
      if last < editor.number then
        let (starts, editor) := after.isAt first
        (starts, if starts then editor.startRow command stop else editor)
      else (true, after)
    | some none =>
      match stop with
      | .address address =>
        let (ends, editor) := editor.isAt address
        (true, if ends then editor.dropRow command else editor.putRow command none)
      | _ => (true, editor)
    | none =>
      let (starts, editor) := editor.isAt first
      (starts, if starts then editor.startRow command stop else editor)

/-- How letters are written. -/
structure LetterCase where
  always : Option Bool := none
  once : Option Bool := none

/-- A text with letters in some case. -/
def LetterCase.apply (letterCase : LetterCase) (text : List Char) : List Char :=
  let change (upper : Option Bool) (c : Char) : Char := match upper with
    | some true => c.toUpper
    | some false => c.toLower
    | none => c
  match text with
  | [] => []
  | c :: rest =>
    change (letterCase.once.or letterCase.always) c :: rest.map (change letterCase.always)

/-- What takes the place of a found text. -/
def replacement (haystack : Haystack) (found : Expression.Found) (letterCase : LetterCase) :
    List ReplacementPart → List Char
  | [] => []
  | part :: rest =>
    let add (text : List Char) : List Char :=
      letterCase.apply text ++ replacement haystack found
        (if text.isEmpty then letterCase else { letterCase with once := none }) rest
    match part with
    | .text c => add [c]
    | .group 0 => add (haystack.between found.start found.stop)
    | .group number =>
      match found.groups.lookup number with
      | some (start, stop) => add (haystack.between start stop)
      | none => add []
    | .case upper one =>
      replacement haystack found
        (if one then { letterCase with once := upper } else { always := upper }) rest

/-- The text behind a place with some texts replaced, counted from some. -/
def replaceFrom (substitution : Substitution) (expression : Expression) (haystack : Haystack)
    (fuel start count : Nat) (last : Option Nat) : List Char × Bool :=
  let remaining := haystack.between start haystack.text.size
  match fuel with
  | 0 => (remaining, false)
  | fuel + 1 =>
    match expression.find? haystack start with
    | none => (remaining, false)
    | some found =>
      let before := haystack.between start found.start
      let isEmpty := found.stop = found.start
      if isEmpty && last = some found.start then
        let (text, done) := if found.stop < haystack.text.size then
            replaceFrom substitution expression haystack fuel (found.stop + 1) count none
          else ([], false)
        (before ++ haystack.between found.stop (found.stop + 1) ++ text, done)
      else
        let wanted := substitution.first ≤ count + 1
        let new := if wanted then replacement haystack found {} substitution.parts
          else haystack.between found.start found.stop
        let ends := wanted && !substitution.global
        let (text, done) :=
          if ends then (haystack.between found.stop haystack.text.size, true)
          else if isEmpty then
            if found.stop < haystack.text.size then
              let (text, done) :=
                replaceFrom substitution expression haystack fuel (found.stop + 1) (count + 1) none
              (haystack.between found.stop (found.stop + 1) ++ text, done)
            else ([], false)
          else replaceFrom substitution expression haystack fuel found.stop (count + 1) (some found.stop)
        (before ++ new ++ text, wanted || done)

/-- Add to a file that is written. -/
def writeFile (editor : Editor) (name text : List Char) : Editor :=
  let held := (editor.files.lookup name).getD []
  { editor with
    files := editor.files.filter (fun file => file.1 != name) ++ [(name, held ++ text ++ ['\n'])] }

/-- Replace texts in the buffer. -/
def substitute (editor : Editor) (substitution : Substitution) : Editor :=
  let (expression, editor) := editor.use substitution.pattern
  let haystack := editor.haystack substitution.pattern
  let (buffer, done) :=
    replaceFrom substitution expression haystack (haystack.text.size + 2) 0 0 none
  if !done then editor
  else
    let editor := { editor with buffer, replaced := true }
    let editor := if substitution.prints then editor.write buffer else editor
    match substitution.file with
    | some name => editor.writeFile name buffer
    | none => editor

/-- A text as it is shown where all characters are made visible. -/
def visibleText (text : List Char) : List Char :=
  text.flatMap fun c =>
    match c with
    | '\\' => "\\\\".toList
    | '\n' => "\\n".toList
    | '\t' => "\\t".toList
    | '\r' => "\\r".toList
    | c =>
      if 32 ≤ c.toNat && c.toNat < 127 then [c]
      else
        let digits := Nat.toDigits 8 c.toNat
        '\\' :: List.replicate (3 - digits.length) '0' ++ digits

/-- Write what is to be written behind the buffer. -/
def flush (editor : Editor) : Editor :=
  { editor with written := editor.behind.reverse ++ editor.written, behind := [] }

/-- Read the next line. -/
def advance (editor : Editor) (join : Bool) : Option Editor :=
  match editor.rest with
  | [] => none
  | line :: rest =>
    some { editor with
      rest, number := editor.number + 1
      buffer := if join then editor.buffer ++ '\n' :: line else line }

/-- The command behind the bracket that closes a block. -/
def behindBlock (commands : Array EditCommand) (fuel depth place : Nat) : Nat :=
  match fuel with
  | 0 => place
  | fuel + 1 =>
    match (commands[place]?).map EditCommand.action with
    | some .opening => behindBlock commands fuel (depth + 1) (place + 1)
    | some .closing => if depth = 0 then place + 1 else behindBlock commands fuel (depth - 1) (place + 1)
    | some _ => behindBlock commands fuel depth (place + 1)
    | none => place

/-- The command at a label; the end of the script for an empty one. -/
def labelled (commands : Array EditCommand) (name : List Char) : Nat :=
  if name.isEmpty then commands.size
  else (commands.findIdx? fun command => match command.action with
    | .label other => other = name
    | _ => false).getD commands.size

/-- How a round ends. -/
inductive RoundEnd where
  /-- The buffer is written unless that is not wanted. -/
  | usual
  | silent

/-- Carry out commands from one on, until the round ends. -/
def round (plan : EditPlan) (fuel place : Nat) (editor : Editor) : Editor × RoundEnd :=
  match fuel with
  | 0 => ({ editor with quits := true }, .silent)
  | fuel + 1 =>
    match plan.commands[place]? with
    | none => (editor, .usual)
    | some command =>
      let (selected, editor) := editor.selects place command.selection
      let go (editor : Editor) : Editor × RoundEnd := round plan fuel (place + 1) editor
      if selected = command.negated then
        match command.action with
        | .opening => round plan fuel (behindBlock plan.commands plan.commands.size 0 (place + 1)) editor
        | _ => go editor
      else match command.action with
        | .substitute substitution => go (editor.substitute substitution)
        | .translate pairs =>
          go { editor with buffer := editor.buffer.map fun c => (pairs.lookup c).getD c }
        | .delete => (editor, .silent)
        | .deleteFirst =>
          if editor.buffer.contains '\n' then
            ({ editor with
              buffer := (editor.buffer.dropWhile (· != '\n')).drop 1, keeps := true }, .silent)
          else (editor, .silent)
        | .print => go (editor.write editor.buffer)
        | .printFirst => go (editor.write (editor.buffer.takeWhile (· != '\n')))
        | .next =>
          if editor.rest.isEmpty then ({ editor with quits := true }, .usual)
          else
            let editor := if plan.quiet then editor else editor.write editor.buffer
            match editor.flush.advance false with
            | some editor => go editor
            | none => (editor, .silent)
        | .append =>
          match editor.flush.advance true with
          | some editor => go editor
          | none => ({ editor with quits := true }, .usual)
        | .number => go (editor.write (showNumber editor.number))
        | .hold => go { editor with held := editor.buffer }
        | .holdMore => go { editor with held := editor.held ++ '\n' :: editor.buffer }
        | .get => go { editor with buffer := editor.held }
        | .getMore => go { editor with buffer := editor.buffer ++ '\n' :: editor.held }
        | .exchange => go { editor with buffer := editor.held, held := editor.buffer }
        | .textBehind text => go { editor with behind := editor.behind ++ [text] }
        | .textBefore text => go { editor with written := text :: editor.written }
        | .textInstead text =>
          let inRow := match command.selection with
            | .range .. => !command.negated && (editor.rows.lookup place).isSome
            | _ => false
          (if inRow then editor else { editor with written := text :: editor.written }, .silent)
        | .quit prints status =>
          ({ editor with quits := true, status }, if prints then .usual else .silent)
        | .readFile name => go { editor with behind := editor.behind ++ [plan.read name] }
        | .writeFile name => go (editor.writeFile name editor.buffer)
        | .listed => go (editor.write (visibleText editor.buffer ++ ['$']))
        | .jump name => round plan fuel (labelled plan.commands name) editor
        | .jumpIfReplaced name replaced =>
          let jumps := editor.replaced = replaced
          let editor := { editor with replaced := false }
          if jumps then round plan fuel (labelled plan.commands name) editor else go editor
        | .label _ | .opening | .closing => go editor

/-- How many commands a round may take. -/
def roundLength : Nat := 1000000

/-- Edit all lines. -/
def run (plan : EditPlan) (fuel : Nat) (editor : Editor) : Editor :=
  match fuel with
  | 0 => editor
  | fuel + 1 =>
    let start? := if editor.keeps then some editor else editor.advance false
    match start? with
    | none => editor
    | some editor =>
      let before := { editor with keeps := false, replaced := editor.replaced && editor.keeps }
      let (editor, ending) := round plan roundLength 0 before
      let editor := match ending with
        | .usual => if plan.quiet then editor else editor.write editor.buffer
        | .silent => editor
      let editor := editor.flush
      if editor.quits then editor else run plan fuel editor

end Editor

/-- A label that commands name and that is not there. -/
def missingLabel? (commands : List EditCommand) : Option (List Char) :=
  let labels := commands.filterMap fun command => match command.action with
    | .label name => some name
    | _ => none
  commands.findSome? fun command => match command.action with
    | .jump name | .jumpIfReplaced name _ =>
      if name.isEmpty || labels.contains name then none else some name
    | _ => none

/-- Edit the lines of files. -/
def sed : Utility := fun request =>
  let options := takeArguments "nErsuz" "efl"
    [("quiet", 'n'), ("silent", 'n'), ("regexp-extended", 'E'), ("expression", 'e'), ("file", 'f'),
     ("in-place", 'i'), ("separate", 's'), ("null-data", 'z')] false
    (request.arguments.map fun argument =>
      if argument.head? = some '-' && argument != ['-'] && (argument.drop 1).head? = some 'i' then
        "--in-place".toList else argument)
  let inPlace := options.has 'i'
  let scripts := options.options.filterMap fun (letter, value) =>
    if letter = 'e' then some (.ok value)
    else if letter = 'f' then some ((request.read value).map fun text =>
      if text.getLast? = some '\n' then text.dropLast else text)
    else none
  let (scripts, files) :=
    if scripts.isEmpty then
      ((options.operands.take 1).map (Except.ok (ε := FileTrouble)), options.operands.drop 1)
    else (scripts, options.operands)
  let extended := options.has 'E' || options.has 'r'
  match options.refusal? request 1, scripts.mapM id with
  | some refusal, _ => refusal
  | none, .error trouble =>
    request.refuse 1 ("couldn't open file " ++ toText ((options.value? 'f').getD []) ++ ": " ++
      trouble.words)
  | none, .ok [] =>
    request.answer 1 [(2, ofText
      "Usage: sed [OPTION]... \x7bscript-only-if-no-other-script\x7d [input-file]...\n\n")]
  | none, .ok scripts =>
    let script := joinWith ['\n'] scripts
    match readEdits extended script.length (script.length + 1) 0 script with
    | .error fault =>
      request.refuse 1 ("-e expression #1, char " ++ toString (script.length - fault.left) ++ ": " ++
        fault.words)
    | .ok commands =>
      match missingLabel? commands with
      | some name => request.refuse 1 ("can't find label for jump to `" ++ toText name ++ "'")
      | none =>
        let trouble (name : List Char) (trouble : FileTrouble) : String :=
          if trouble = .isFolder then
            if inPlace then "couldn't edit " ++ toText name ++ ": not a regular file"
            else "read error on " ++ toText name ++ ": " ++ trouble.words
          else "can't read " ++ toText name ++ ": " ++ trouble.words
        let isFolder (name : List Char) : Bool :=
          if name = ['-'] then request.inputIsFolder else request.find name matches .ok (.folder _)
        let broken := !inPlace && files.any isFolder
        let files := if broken then
            files.takeWhile (!isFolder ·) ++ (files.find? isFolder).toList
          else files
        let texts := request.texts files trouble
        let plan (text : List Char) : EditPlan :=
          { commands := commands.toArray, quiet := options.has 'n' || "#n\n".toList.isPrefixOf script
            ended := text.isEmpty || text.getLast? = some '\n'
            read := fun name => (request.read name).toOption.getD [] }
        let edit (text : List Char) : Editor × List Char :=
          let plan := plan text
          let editor := Editor.run plan (text.length + 1) { rest := bareLines text }
          let written := editor.written.reverse.flatten
          (editor, if plan.ended || !editor.rest.isEmpty then written else
            if written.getLast? = some '\n' then written.dropLast else written)
        let store (tree : FileTree) (editor : Editor) : FileTree :=
          editor.files.foldl (fun tree (name, text) => (putText tree name text).toOption.getD tree) tree
        let complaints := texts.complaints
        let failed := !complaints.isEmpty
        if inPlace || options.has 's' then
          let edited := texts.texts.map fun (name, text) => (name, edit text)
          let tree := edited.foldl (fun tree (name, editor, text) =>
            let tree := store tree editor
            if inPlace then (putText tree name text).toOption.getD tree else tree) request.tree
          let shown := if inPlace then [] else edited.flatMap fun (_, _, text) => text
          { request.answer (if failed then 2 else 0) (complaints ++ [(1, shown)]) with tree }
        else
          let (editor, shown) := edit (texts.texts.flatMap Prod.snd)
          let status := if editor.status != 0 then editor.status else if broken then 4
            else if failed then 2 else 0
          let used := texts.usedInput
          let rest := if !used then request.input
            else if editor.quits && !request.seekable then request.input.drop 4096
            else if editor.quits then linesText editor.rest
            else []
          { request.answer status (complaints ++ [(1, shown)]) with
            tree := store request.tree editor, rest }

end Checkup.Shell
