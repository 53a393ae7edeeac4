import Checkup.Shell.Utility

/-!
# Counting

Utilities that count lines, words and bytes, number lines, or count how often
a line comes in a row.
-/

namespace Checkup.Shell

/-- Words between blanks. A word holds at least one character that can be printed. -/
def countWords : (inWord : Bool) → List Char → Nat
  | inWord, [] => if inWord then 1 else 0
  | inWord, c :: rest =>
    if isSpace c then (if inWord then 1 else 0) + countWords false rest
    else countWords (inWord || (32 < c.toNat && c.toNat < 127)) rest

/-- The length of the longest line as it is printed. -/
def longestLine (text : List Char) : Nat :=
  (bareLines text).foldl (fun longest line =>
    max longest (line.foldl (fun column c =>
      if c = '\t' then column / 8 * 8 + 8
      else if 32 ≤ c.toNat && c.toNat < 127 then column + 1
      else column) 0)) 0

/-- What is counted: lines, words, characters, bytes, and the longest line. -/
def counters (options : Options) : List ((List Char → Nat) × Bool) :=
  let asked (letter : Char) : Bool := options.has letter
  let usual := options.options.isEmpty
  [(fun text => text.count '\n', usual || asked 'l'), (countWords false, usual || asked 'w'),
   (List.length, asked 'm'), (List.length, usual || asked 'c'), (longestLine, asked 'L')].filter Prod.snd

/-- Count lines, words and bytes. -/
def wc : Utility := fun request =>
  let options := takeArguments "lwcmL" ""
    [("lines", 'l'), ("words", 'w'), ("bytes", 'c'), ("chars", 'm'), ("max-line-length", 'L')] false
    request.arguments
  match options.refusal? request 1 with
  | some refusal => refusal
  | none =>
    let files := if options.operands.isEmpty then [['-']] else options.operands
    let words (file : List Char) (trouble : FileTrouble) : String :=
      if file = ['-'] then "'standard input': " ++ trouble.words else troubleWith file trouble
    let parts := files.map fun file => (file, request.texts [file] words)
    let complaints := parts.flatMap fun part => part.2.complaints
    let isFolder (file : List Char) : Bool :=
      if file = ['-'] then request.inputIsFolder else request.find file matches .ok (.folder _)
    let rows := parts.filterMap fun (file, part) =>
      if part.complaints.isEmpty then
        some (file, part.texts.flatMap Prod.snd)
      else if isFolder file then some (file, [])
      else none
    let counters := counters options
    let total (count : List Char → Nat) : Nat :=
      let numbers := rows.map fun row => count row.2
      numbers.foldl (· + ·) 0
    let least := if files.any fun file => isFolder file || (file = ['-'] && !request.seekable) then 7 else 1
    let width :=
      if counters.length = 1 && files.length = 1 then 1
      else max least (showNumber (total List.length)).length
    let line (count : (List Char → Nat) → Nat) (name : List Char) : List Char :=
      joinWith [' '] (counters.map fun counter => rightAligned width (count counter.1)) ++
        (if name.isEmpty then [] else ' ' :: name) ++ ['\n']
    let lines := rows.map fun (file, text) =>
      line (fun count => count text) (if options.operands.isEmpty then [] else file)
    let sum := if 1 < files.length then [line total "total".toList] else []
    { request.answer (if complaints.isEmpty then 0 else 1)
        (complaints ++ [(1, (lines ++ sum).flatten)]) with
      rest := if files.contains ['-'] then [] else request.input }

/-- Number lines, those that are not empty unless all are meant. -/
def numberLines (options : Options) : (number : Nat) → List (List Char) → List Char
  | _, [] => []
  | number, line :: rest =>
    let style := (options.value? 'b').getD ['t']
    let width := ((options.value? 'w').bind count?).getD 6
    let mark := (options.value? 's').getD ['\t']
    let step := ((options.value? 'i').bind count?).getD 1
    if style = ['a'] || (style != ['n'] && !line.isEmpty) then
      let digits := showNumber number
      let blanks := width - digits.length
      let shown := match (options.value? 'n').map String.ofList with
        | some "ln" => digits ++ List.replicate blanks ' '
        | some "rz" => List.replicate blanks '0' ++ digits
        | _ => List.replicate blanks ' ' ++ digits
      shown ++ mark ++ line ++ '\n' :: numberLines options (number + step) rest
    else List.replicate (width + mark.length) ' ' ++ line ++ '\n' :: numberLines options number rest

/-- Number the lines of files. -/
def nl : Utility := fun request =>
  let options := takeArguments "p" "bwsnvihfld" [] false request.arguments
  match options.refusal? request 1 with
  | some refusal => refusal
  | none =>
    let first := ((options.value? 'v').bind count?).getD 1
    request.filtered options.operands 1 fun texts =>
      numberLines options first (bareLines (texts.flatMap Prod.snd))

/-- Equal lines in a row, each with how often it comes. -/
def countRuns (same : List Char → List Char → Bool) : List (List Char) → List (Nat × List (List Char))
  | [] => []
  | line :: rest =>
    match countRuns same rest with
    | (count, next :: lines) :: runs =>
      if same line next then (count + 1, line :: next :: lines) :: runs
      else (1, [line]) :: (count, next :: lines) :: runs
    | runs => (1, [line]) :: runs

/-- A line behind so many fields. -/
def skipFields : Nat → List Char → List Char
  | 0, line => line
  | count + 1, line =>
    skipFields count ((line.dropWhile fun c => c = ' ' || c = '\t').dropWhile fun c =>
      c != ' ' && c != '\t')

/-- Drop lines that equal the one before. -/
def uniq : Utility := fun request =>
  let options := takeArguments "cduiDz" "fsw"
    [("count", 'c'), ("repeated", 'd'), ("unique", 'u'), ("ignore-case", 'i'), ("all-repeated", 'D'),
     ("skip-fields", 'f'), ("skip-chars", 's'), ("check-chars", 'w')] false request.arguments
  match options.refusal? request 1 with
  | some refusal => refusal
  | none =>
    let number (letter : Char) : Option Nat := (options.value? letter).bind count?
    let key (line : List Char) : List Char :=
      let part := (skipFields ((number 'f').getD 0) line).drop ((number 's').getD 0)
      let part := ((number 'w').map part.take).getD part
      if options.has 'i' then part.map Char.toLower else part
    let trouble (file : List Char) (trouble : FileTrouble) : String :=
      if trouble = .isFolder then "error reading " ++ quoted file ++ ": " ++ trouble.words
      else troubleWith file trouble
    let texts := request.texts (options.operands.take 1) trouble
    let runs := countRuns (fun a b => key a = key b) (bareLines (texts.texts.flatMap Prod.snd))
    let shown := runs.flatMap fun (count, lines) =>
      if options.has 'D' then if count = 1 then [] else lines
      else if (options.has 'd' && count = 1) || (options.has 'u' && 1 < count) then []
      else
        let line := lines.headD []
        [if options.has 'c' then rightAligned 7 count ++ ' ' :: line else line]
    let answer :=
      { request.answer (if texts.complaints.isEmpty then 0 else 1) texts.complaints with
        rest := if texts.usedInput then [] else request.input }
    if !texts.complaints.isEmpty then answer
    else match options.operands.drop 1 with
      | file :: _ =>
        match putText request.tree file (linesText shown) with
        | .ok tree => { answer with tree }
        | .error trouble => request.refuse 1 (troubleWith file trouble)
      | [] => { answer with output := [(1, linesText shown)] }

end Checkup.Shell
