import Checkup.Shell.Utility.ExpressionText

/-!
# Scripts of the stream editor

A script is a row of commands. Each may say for which lines it is meant.
-/

namespace Checkup.Shell

/-- A regular expression of an editor; none stands for the one that was used last. -/
structure EditPattern where
  expression? : Option Expression
  folds : Bool := false
  lines : Bool := false

/-- A line that is named. -/
inductive Address where
  | line (number : Nat)
  | last
  | found (pattern : EditPattern)
  /-- Every so manyth line from a first one on. -/
  | every (first step : Nat)

/-- Where rows of lines end. -/
inductive AddressEnd where
  | address (address : Address)
  | after (count : Nat)
  | multiple (count : Nat)

/-- The lines that a command is meant for. -/
inductive Selection where
  | all
  | one (address : Address)
  | range (first : Address) (stop : AddressEnd)

/-- A part of what takes the place of a found text. -/
inductive ReplacementPart where
  | text (c : Char)
  /-- What a numbered part stands for; zero stands for all of it. -/
  | group (number : Nat)
  /-- Upper or lower case from here on, for one character or for all. -/
  | case (upper : Option Bool) (one : Bool)

/-- A replacement of found texts. -/
structure Substitution where
  pattern : EditPattern
  parts : List ReplacementPart
  /-- Every text that is found is replaced, from some on. -/
  global : Bool := false
  first : Nat := 1
  prints : Bool := false
  file : Option (List Char) := none

/-- What a command does. -/
inductive EditAction where
  | substitute (substitution : Substitution)
  | translate (pairs : List (Char × Char))
  | delete | deleteFirst | print | printFirst | next | append | number
  | hold | holdMore | get | getMore | exchange
  | textBehind (text : List Char)
  | textBefore (text : List Char)
  | textInstead (text : List Char)
  | quit (prints : Bool) (status : Nat)
  | readFile (name : List Char)
  | writeFile (name : List Char)
  | listed
  | jump (label : List Char)
  | jumpIfReplaced (label : List Char) (replaced : Bool)
  | label (name : List Char)
  | opening
  | closing

/-- A command with the lines that it is meant for. -/
structure EditCommand where
  selection : Selection
  negated : Bool
  action : EditAction

/-- What is wrong with a script, and how much of it is left behind the place. -/
structure EditFault where
  words : String
  left : Nat

/-- Where a text is within brackets. -/
inductive BracketPlace where
  | outside
  /-- Behind the opening bracket, or behind a caret that follows it. -/
  | opened | negated
  | inside
  deriving DecidableEq

/-- The place behind a character of a pattern. -/
def BracketPlace.next (c : Char) : BracketPlace → BracketPlace
  | .outside => if c = '[' then .opened else .outside
  | .opened => if c = '^' then .negated else .inside
  | .negated => .inside
  | .inside => if c = ']' then .outside else .inside

/-- A text up to a mark that no backslash is in front of, and the text behind it. Marks that
are guarded lose their backslashes. In patterns marks between brackets do not count. -/
def takeUntil (mark : Char) (ofPattern : Bool) : BracketPlace → List Char →
    Option (List Char × List Char)
  | _, [] => none
  | .outside, '\\' :: c :: rest => do
    let (text, behind) ← takeUntil mark ofPattern .outside rest
    some (if c = mark then c :: text else '\\' :: c :: text, behind)
  | place, c :: rest =>
    if c = mark && place = .outside then some ([], rest)
    else do
      let (text, behind) ← takeUntil mark ofPattern (if ofPattern then place.next c else place) rest
      some (c :: text, behind)

/-- What takes the place of a found text, as it is written. -/
def replacementParts : List Char → List ReplacementPart
  | '\\' :: c :: rest =>
    (if c.isDigit then .group (c.toNat - 48)
      else match c with
        | 'n' => .text '\n'
        | 't' => .text '\t'
        | 'U' => .case (some true) false
        | 'L' => .case (some false) false
        | 'u' => .case (some true) true
        | 'l' => .case (some false) true
        | 'E' => .case none false
        | c => .text c) :: replacementParts rest
  | '&' :: rest => .group 0 :: replacementParts rest
  | c :: rest => .text c :: replacementParts rest
  | [] => []

/-- Blanks. -/
def behindBlanks (text : List Char) : List Char := text.dropWhile fun c => c = ' ' || c = '\t'

/-- The pattern that a text writes. -/
def editPattern (extended : Bool) (text behind : List Char) (folds lines : Bool) :
    Except EditFault EditPattern :=
  if text.isEmpty then .ok { expression? := none, folds, lines }
  else match expression extended text with
    | .ok expression => .ok { expression? := some expression, folds, lines }
    | .error fault => .error ⟨fault.words, behind.length⟩

/-- The address at the head of a text, if there is one, and the text behind it. -/
def takeAddress (extended : Bool) (text : List Char) :
    Except EditFault (Option Address × List Char) :=
  let pattern (mark : Char) (rest : List Char) : Except EditFault (Option Address × List Char) :=
    match takeUntil mark true .outside rest with
    | none => .error ⟨"unterminated address regex", 0⟩
    | some (text, behind) => do
      let folds := behind.head? = some 'I'
      let rest := if folds then behind.drop 1 else behind
      let pattern ← editPattern extended text behind folds false
      .ok (some (.found pattern), rest)
  match text with
  | '$' :: rest => .ok (some .last, rest)
  | '/' :: rest => pattern '/' rest
  | '\\' :: mark :: rest => pattern mark rest
  | c :: _ =>
    let digits := text.takeWhile Char.isDigit
    let rest := text.drop digits.length
    if !c.isDigit then .ok (none, text)
    else match rest with
      | '~' :: rest =>
        let step := rest.takeWhile Char.isDigit
        .ok (some (.every (digitsValue 10 digits) (digitsValue 10 step)), rest.drop step.length)
      | rest => .ok (some (.line (digitsValue 10 digits)), rest)
  | [] => .ok (none, [])

/-- The lines that a command is meant for, and the text behind them. -/
def takeSelection (extended : Bool) (text : List Char) :
    Except EditFault (Selection × List Char) := do
  let (first?, rest) ← takeAddress extended text
  match first? with
  | none => .ok (.all, rest)
  | some first =>
    match behindBlanks rest with
    | ',' :: rest =>
      let rest := behindBlanks rest
      let count (rest : List Char) : Nat × List Char :=
        let digits := rest.takeWhile Char.isDigit
        (digitsValue 10 digits, rest.drop digits.length)
      match rest with
      | '+' :: rest => .ok (.range first (.after (count rest).1), (count rest).2)
      | '~' :: rest => .ok (.range first (.multiple (count rest).1), (count rest).2)
      | rest =>
        match ← takeAddress extended rest with
        | (some stop, rest) => .ok (.range first (.address stop), rest)
        | (none, rest) => .error ⟨"unexpected `,'", rest.length⟩
    | rest => .ok (.one first, rest)

/-- What is written behind a command that takes a text: the rest of the line and of lines that
go on, without the backslashes. -/
def takeEditText : List Char → List Char × List Char
  | '\\' :: c :: rest =>
    let (text, behind) := takeEditText rest
    (c :: text, behind)
  | '\n' :: rest => (['\n'], rest)
  | c :: rest =>
    let (text, behind) := takeEditText rest
    (c :: text, behind)
  | [] => (['\n'], [])

/-- The flags of a replacement, and the text behind them. -/
def takeFlags (substitution : Substitution) (folds lines : Bool) : List Char →
    Except EditFault (Substitution × Bool × Bool × List Char)
  | 'g' :: rest => takeFlags { substitution with global := true } folds lines rest
  | 'p' :: rest => takeFlags { substitution with prints := true } folds lines rest
  | 'i' :: rest | 'I' :: rest => takeFlags substitution true lines rest
  | 'm' :: rest | 'M' :: rest => takeFlags substitution folds true rest
  | 'w' :: rest =>
    let name := (behindBlanks rest).takeWhile (· != '\n')
    .ok ({ substitution with file := some name }, folds, lines,
      (behindBlanks rest).drop name.length)
  | c :: rest =>
    if c.isDigit then
      if c = '0' && substitution.first = 1 then
        .error ⟨"number option to `s' command may not be zero", rest.length⟩
      else
        let before := if substitution.first = 1 then 0 else substitution.first
        takeFlags { substitution with first := 10 * before + (c.toNat - 48) } folds lines rest
    else if c = '\n' || c = ';' || c = ' ' || c = '\x7d' || c = '#' then
      .ok (substitution, folds, lines, c :: rest)
    else .error ⟨"unknown option to `s'", rest.length⟩
  | [] => .ok (substitution, folds, lines, [])

/-- Characters with backslashes taken away. -/
def plainCharacters : List Char → List Char
  | '\\' :: 'n' :: rest => '\n' :: plainCharacters rest
  | '\\' :: 't' :: rest => '\t' :: plainCharacters rest
  | '\\' :: c :: rest => c :: plainCharacters rest
  | c :: rest => c :: plainCharacters rest
  | [] => []

/-- Nothing more may stand behind a command. -/
def endCommand (action : EditAction) (rest : List Char) : Except EditFault (EditAction × List Char) :=
  match behindBlanks rest with
  | [] => .ok (action, [])
  | c :: behind =>
    if c = ';' || c = '\n' then .ok (action, behind)
    else if c = '\x7d' || c = '#' then .ok (action, c :: behind)
    else .error ⟨"extra characters after command", behind.length⟩

/-- What the command does at the head of a text, and the text behind it. -/
def takeAction (extended : Bool) (c : Char) (rest : List Char) :
    Except EditFault (EditAction × List Char) :=
  let plain (action : EditAction) : Except EditFault (EditAction × List Char) :=
    endCommand action rest
  let label : List Char × List Char :=
    let text := behindBlanks rest
    let name := text.takeWhile fun c => c != '\n' && c != ';'
    ((name.reverse.dropWhile (· = ' ')).reverse, text.drop (name.length + 1))
  let fileName : List Char × List Char :=
    let text := behindBlanks rest
    let name := text.takeWhile (· != '\n')
    (name, text.drop (name.length + 1))
  let text (action : List Char → EditAction) : Except EditFault (EditAction × List Char) :=
    let start := match behindBlanks rest with
      | '\\' :: rest =>
        match behindBlanks rest with
        | '\n' :: rest => rest
        | _ => rest
      | rest => rest
    if start.isEmpty then .error ⟨"expected \\ after `a', `c' or `i'", 0⟩
    else
      let (text, behind) := takeEditText start
      .ok (action text, behind)
  let status : Nat × List Char :=
    let digits := (behindBlanks rest).takeWhile Char.isDigit
    (digitsValue 10 digits, (behindBlanks rest).drop digits.length)
  match c with
  | 'd' => plain .delete
  | 'D' => plain .deleteFirst
  | 'p' => plain .print
  | 'P' => plain .printFirst
  | 'n' => plain .next
  | 'N' => plain .append
  | '=' => plain .number
  | 'h' => plain .hold
  | 'H' => plain .holdMore
  | 'g' => plain .get
  | 'G' => plain .getMore
  | 'x' => plain .exchange
  | 'l' => plain .listed
  | 'q' => endCommand (.quit true status.1) status.2
  | 'Q' => endCommand (.quit false status.1) status.2
  | 'a' => text .textBehind
  | 'i' => text .textBefore
  | 'c' => text .textInstead
  | 'b' => .ok (.jump label.1, label.2)
  | 't' => .ok (.jumpIfReplaced label.1 true, label.2)
  | 'T' => .ok (.jumpIfReplaced label.1 false, label.2)
  | ':' =>
    if label.1.isEmpty then .error ⟨"\":\" lacks a label", rest.length⟩ else .ok (.label label.1, label.2)
  | 'r' => .ok (.readFile fileName.1, fileName.2)
  | 'w' => .ok (.writeFile fileName.1, fileName.2)
  | '\x7b' => .ok (.opening, rest)
  | '\x7d' => endCommand .closing rest
  | 'y' =>
    match rest with
    | [] => .error ⟨"unterminated `y' command", 0⟩
    | mark :: rest =>
      match takeUntil mark false .outside rest with
      | none => .error ⟨"unterminated `y' command", 0⟩
      | some (source, rest) =>
        match takeUntil mark false .outside rest with
        | none => .error ⟨"unterminated `y' command", 0⟩
        | some (target, rest) =>
          let source := plainCharacters source
          let target := plainCharacters target
          if source.length != target.length then
            .error ⟨"strings for `y' command are different lengths", rest.length⟩
          else endCommand (.translate (source.zip target)) rest
  | 's' =>
    match rest with
    | [] => .error ⟨"unterminated `s' command", 0⟩
    | mark :: rest =>
      match takeUntil mark true .outside rest with
      | none => .error ⟨"unterminated `s' command", 0⟩
      | some (source, rest) =>
        match takeUntil mark false .outside rest with
        | none => .error ⟨"unterminated `s' command", 0⟩
        | some (target, rest) => do
          let parts := replacementParts target
          let start : Substitution := { pattern := { expression? := none }, parts }
          let (substitution, folds, lines, rest) ← takeFlags start false false rest
          let pattern ← editPattern extended source rest folds lines
          endCommand (.substitute { substitution with pattern }) rest
  | c => .error ⟨"unknown command: `" ++ toText [c] ++ "'", rest.length⟩

/-- The commands that a text writes, within so many blocks. The length
of the script tells faults that have no place. -/
def readEdits (extended : Bool) (script fuel depth : Nat) (text : List Char) :
    Except EditFault (List EditCommand) :=
  match fuel with
  | 0 => .ok []
  | fuel + 1 =>
    match text.dropWhile fun c => isSpace c || c = ';' with
    | [] => if depth = 0 then .ok [] else .error ⟨"unmatched `\x7b'", script⟩
    | '#' :: rest => readEdits extended script fuel depth (rest.dropWhile (· != '\n'))
    | text => do
      let (selection, rest) ← takeSelection extended text
      let rest := behindBlanks rest
      let negated := rest.head? = some '!'
      match behindBlanks (rest.dropWhile fun c => c = '!' || c = ' ') with
      | [] => .error ⟨"missing command", 0⟩
      | c :: rest =>
        if c = '\x7d' && !(selection matches .all) then
          .error ⟨"\x7d doesn't want any addresses", rest.length⟩
        else if c = '\x7d' && depth = 0 then .error ⟨"unexpected `\x7d'", rest.length⟩
        else
          let (action, rest) ← takeAction extended c rest
          let depth := if c = '\x7b' then depth + 1 else if c = '\x7d' then depth - 1 else depth
          let others ← readEdits extended script fuel depth rest
          .ok ({ selection, negated, action } :: others)

end Checkup.Shell
