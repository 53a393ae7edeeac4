import Checkup.Shell.Utility
import Checkup.Shell.Utility.ExpressionText

/-!
# Searching lines
-/

namespace Checkup.Shell

/-- How lines are searched. -/
structure Search where
  expression : Expression
  folds : Bool
  /-- Lines without what is sought are meant. -/
  inverted : Bool
  options : Options
  /-- Names of files are shown. -/
  named : Bool
  /-- So many lines of a file are enough. -/
  most : Option Nat
  /-- Lines around those that are meant. -/
  before : Nat
  after : Nat

namespace Search

/-- A line as it is searched. -/
def haystack (search : Search) (line : List Char) : Haystack :=
  { text := line.toArray, folds := search.folds }

/-- A line is meant. -/
def selects (search : Search) (line : List Char) : Bool :=
  search.expression.occurs (search.haystack line) != search.inverted

/-- What stands in front of a line: the name of its file, and its number. -/
def label (search : Search) (name : List Char) (number : Nat) (mark : Char) : List Char :=
  (if search.named then name ++ [mark] else []) ++
    (if search.options.has 'n' then showNumber number ++ [mark] else [])

/-- The texts in a line that are found, from a place on. -/
def foundIn (search : Search) (haystack : Haystack) (fuel start : Nat) : List (List Char) :=
  match fuel with
  | 0 => []
  | fuel + 1 =>
    match search.expression.find? haystack start with
    | none => []
    | some found =>
      if found.stop = found.start then
        if found.stop < haystack.text.size then foundIn search haystack fuel (found.stop + 1) else []
      else haystack.between found.start found.stop :: foundIn search haystack fuel found.stop

/-- Numbers of lines with those around them, each with a mark that it is meant. -/
def context (search : Search) (count : Nat) (meant : List Nat) : List (Nat × Bool) :=
  let near (number : Nat) : Bool := meant.any fun other =>
    other ≤ number + search.before && number ≤ other + search.after
  ((List.range count).map (· + 1)).filterMap fun number =>
    if meant.contains number then some (number, true)
    else if near number then some (number, false)
    else none

/-- Lines with those around them; rows that do not touch are set apart. -/
def contextLines (search : Search) (name : List Char) (lines : Array (List Char)) :
    (last : Option Nat) → List (Nat × Bool) → List (List Char)
  | _, [] => []
  | last, (number, isMeant) :: rest =>
    let line := search.label name number (if isMeant then ':' else '-') ++
      (lines[number - 1]?).getD []
    (if last.any (· + 1 < number) then [['-', '-'], line] else [line]) ++
      contextLines search name lines (some number) rest

/-- What is written for a text and to which stream, and whether lines of it are meant. -/
def output (search : Search) (name text : List Char) : (Nat × List Char) × Bool :=
  let lines := bareLines text
  let meant := ((lines.zip (List.range lines.length)).filterMap fun (line, i) =>
    if search.selects line then some (i + 1, line) else none)
  let meant := (search.most.map meant.take).getD meant
  let has (letter : Char) : Bool := search.options.has letter
  let found := !meant.isEmpty
  let isBinary := found && text.contains null && !"qLlca".toList.any has
  let text : List Char :=
    if isBinary then ofText "grep: " ++ name ++ ofText ": binary file matches\n"
    else if has 'q' then []
    else if has 'L' then if found then [] else name ++ ['\n']
    else if has 'l' then if found then name ++ ['\n'] else []
    else if has 'c' then
      (if search.named then name ++ [':'] else []) ++ showNumber meant.length ++ ['\n']
    else if has 'o' then
      if search.inverted then []
      else linesText (meant.flatMap fun (number, line) =>
        (search.foundIn (search.haystack line) (line.length + 1) 0).map
          (search.label name number ':' ++ ·))
    else if search.before = 0 && search.after = 0 then
      linesText (meant.map fun (number, line) => search.label name number ':' ++ line)
    else linesText (search.contextLines name lines.toArray none
      (search.context lines.length (meant.map Prod.fst)))
  ((if isBinary then 2 else 1, text), found)

/-- The text behind the last line that is enough. -/
def behind (search : Search) (text : List Char) : List Char :=
  let lines := fullLines text
  let meant := ((lines.zip (List.range lines.length)).filter fun (line, _) =>
    search.selects (line.filter (· != '\n'))).map Prod.snd
  match search.most with
  | some (most + 1) => ((meant[most]?).map fun last => (lines.drop (last + 1)).flatten).getD []
  | _ => []

end Search

/-- The files in folders, as they are named from outside. -/
def filesIn (fuel : Nat) (name : List Char) (node : Node) : List (List Char) :=
  match fuel, node with
  | 0, _ => []
  | _, .file _ => [name]
  | fuel + 1, .folder entries =>
    entries.flatMap fun (entry, node) =>
      let path := if name.isEmpty then ofText entry
        else if name.getLast? = some '/' then name ++ ofText entry
        else name ++ '/' :: ofText entry
      filesIn fuel path node

/-- The options of searches. -/
def searchOptions (arguments : List (List Char)) : Options :=
  let arguments := arguments.map fun argument => match argument with
    | '-' :: c :: rest =>
      if (c :: rest).all Char.isDigit then '-' :: 'C' :: c :: rest else argument
    | argument => argument
  takeArguments "EFGPivcnlLoqswxhHrRabzUuyI" "efmABCXYZ"
    [("extended-regexp", 'E'), ("fixed-strings", 'F'), ("basic-regexp", 'G'), ("ignore-case", 'i'),
     ("invert-match", 'v'), ("count", 'c'), ("line-number", 'n'), ("files-with-matches", 'l'),
     ("files-without-match", 'L'), ("only-matching", 'o'), ("quiet", 'q'), ("silent", 'q'),
     ("no-messages", 's'), ("word-regexp", 'w'), ("line-regexp", 'x'), ("no-filename", 'h'),
     ("with-filename", 'H'), ("recursive", 'r'), ("regexp", 'e'), ("file", 'f'), ("max-count", 'm'),
     ("after-context", 'A'), ("before-context", 'B'), ("context", 'C'), ("include", 'X'),
     ("exclude", 'Y'), ("color", 'I'), ("text", 'a')] false arguments

/-- The expression for some patterns, one of which has to be there. -/
def anyPattern (options : Options) (extended fixed : Bool) (patterns : List (List Char)) :
    Except ExpressionFault Expression := do
  let parts ← patterns.mapM fun pattern =>
    if fixed then .ok (Expression.literal pattern) else expression extended pattern
  let whole := match parts.reverse with
    | [] => Expression.one fun _ => false
    | last :: others => others.foldl (fun behind part => .either part behind) last
  let whole : Expression :=
    if options.has 'x' then .sequence (.anchor .lineStart) (.sequence whole (.anchor .lineEnd))
    else if options.has 'w' then
      .sequence (.anchor .noWordBefore) (.sequence whole (.anchor .noWordBehind))
    else whole
  .ok whole

/-- So much is read at once. -/
def readSize : Nat := 98304

/-- Search lines. -/
def searchLines (extended fixed : Bool) : Utility := fun request =>
  let options := searchOptions request.arguments
  let usage : List (Nat × List Char) :=
    [(2, ofText "Usage: grep [OPTION]... PATTERNS [FILE]...\n"),
     (2, ofText "Try 'grep --help' for more information.\n")]
  let lists := options.options.filterMap fun (letter, value) =>
    if letter = 'e' then some (.ok value)
    else if letter = 'f' then
      some (if value = ['-'] then .ok (request.input.reverse.dropWhile (· = '\n')).reverse
        else (request.read value).map fun text =>
          if text.getLast? = some '\n' then text.dropLast else text)
    else none
  let (lists, operands) :=
    if lists.isEmpty then
      ((options.operands.take 1).map (Except.ok (ε := FileTrouble)), options.operands.drop 1)
    else (lists, options.operands)
  let kind := (options.options.map Prod.fst).filter fun c => "EFGP".toList.contains c
  let extended := match kind.getLast? with
    | some 'E' | some 'P' => true
    | some _ => false
    | none => extended
  let fixed := match kind.getLast? with
    | some c => c = 'F'
    | none => fixed
  match options.unknown, options.lacking, lists.mapM id with
  | some letter, _, _ =>
    request.answer 2 (request.complaint ((if letter.head? = some '-' then "unrecognized option "
      else "invalid option -- ") ++ quoted letter) :: usage)
  | none, some letter, _ =>
    request.answer 2 (request.complaint ("option requires an argument -- " ++ quoted [letter]) :: usage)
  | none, none, .error trouble =>
    request.refuse 2 (toText ((options.value? 'f').getD []) ++ ": " ++ trouble.words)
  | none, none, .ok [] => request.answer 2 usage
  | none, none, .ok lists =>
    match anyPattern options extended fixed (lists.flatMap (splitAt '\n')) with
    | .error .openBracket => request.refuse 2 "Invalid regular expression"
    | .error fault => request.refuse 2 fault.words
    | .ok expression =>
      let badCount := options.options.find? fun (letter, value) =>
        "ABCm".toList.contains letter && (count? value).isNone
      match badCount with
      | some ('m', _) => request.refuse 2 "invalid max count"
      | some (_, value) => request.refuse 2 (toText value ++ ": invalid context length argument")
      | none =>
      let number (letter : Char) : Option Nat := (options.value? letter).bind count?
      let deep := options.has 'r' || options.has 'R'
      let around := (number 'C').getD 0
      let search (named : Bool) : Search :=
        { expression, folds := options.has 'i' || options.has 'y', inverted := options.has 'v'
          options, named, most := number 'm', before := (number 'B').getD around
          after := (number 'A').getD around }
      let files := if !operands.isEmpty then operands else if deep then [[]] else [['-']]
      let wanted (name : List Char) : Bool :=
        let last := (name.reverse.takeWhile (· != '/')).reverse
        ((options.value? 'X').elim true fun pattern => matchesPattern pattern last) &&
          !((options.value? 'Y').any fun pattern => matchesPattern pattern last)
      let files := files.flatMap fun name =>
        if !deep then [name]
        else match if name.isEmpty then .ok request.tree.top else request.find name with
          | .ok (.folder entries) =>
            let node := if name.isEmpty then
                ((request.tree.top.at? request.tree.workingFolder).getD (.folder []))
              else .folder entries
            (filesIn 200 name node).filter wanted
          | _ => [name]
      let named := (options.has 'H' || 1 < files.length || (deep && operands != [['-']])) &&
        !options.has 'h'
      let trouble (name : List Char) (trouble : FileTrouble) : String :=
        (if name = ['-'] then "(standard input)" else toText name) ++ ": " ++ trouble.words
      let parts := files.map fun name =>
        let texts := request.texts [name] trouble
        (texts.complaints, texts.texts.map fun (_, text) =>
          (search named).output (if name = ['-'] then "(standard input)".toList else name) text)
      let shown := parts.flatMap fun (complaints, texts) =>
        (if options.has 's' then [] else complaints) ++ texts.map Prod.fst
      let found := parts.any fun part => part.2.any Prod.snd
      let found := if options.has 'L' then shown.any fun part => part.1 = 1 && !part.2.isEmpty else found
      let failed := parts.any fun part => !part.1.isEmpty
      let status := if failed && !(options.has 'q' && found) then 2 else if found then 0 else 1
      let stopsEarly := found && (options.has 'q' || options.has 'l' || options.has 'm')
      let rest := if !files.contains ['-'] then request.input
        else if stopsEarly && !request.seekable then request.input.drop readSize
        else if options.has 'm' then (search false).behind request.input
        else []
      { request.answer status shown with rest }

/-- Search lines for basic regular expressions. -/
def grep : Utility := searchLines false false

end Checkup.Shell
