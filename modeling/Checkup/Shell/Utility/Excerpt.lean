import Checkup.Shell.Utility

/-!
# Parts of texts

Utilities that write the texts of files as they are, or their first or last
lines.
-/

namespace Checkup.Shell

/-- A byte as it is shown where control characters are made visible. -/
def visible (tabs : Bool) (c : Char) : List Char :=
  let low (c : Char) : List Char :=
    if c.toNat < 32 then ['^', Char.ofNat (c.toNat + 64)]
    else if c.toNat = 127 then ['^', '?']
    else [c]
  if c = '\n' || (c = '\t' && !tabs) then [c]
  else if c.toNat < 128 then low c
  else 'M' :: '-' :: low (Char.ofNat (c.toNat - 128))

/-- The lines that `cat` writes for some, from a number on. Empty lines may be without
number, and one of several empty lines in a row may stand for all. -/
def decorate (options : Options) : (number : Nat) → (afterEmpty : Bool) → List (List Char) →
    List Char
  | _, _, [] => []
  | number, afterEmpty, line :: rest =>
    let isEmpty := line = ['\n']
    if isEmpty && afterEmpty && options.has 's' then decorate options number true rest
    else
      let numbered := if options.has 'b' then !isEmpty else options.has 'n'
      let all := options.has 'A'
      let ends := all || options.has 'E' || options.has 'e'
      let tabs := all || options.has 'T' || options.has 't'
      let marks := all || options.has 'v' || options.has 'e' || options.has 't'
      let bare := line.filter (· != '\n')
      let text :=
        if marks then bare.flatMap (visible tabs)
        else if tabs then bare.flatMap fun c => if c = '\t' then ['^', 'I'] else [c]
        else bare
      (if numbered then rightAligned 6 number ++ ['\t'] else []) ++ text ++
        (if bare.length < line.length then if ends then ['$', '\n'] else ['\n'] else []) ++
        decorate options (if numbered then number + 1 else number) isEmpty rest

/-- The texts of files, one behind the other. -/
def cat : Utility := fun request =>
  let options := takeArguments "AbeEnstTuv" ""
    [("show-all", 'A'), ("number-nonblank", 'b'), ("show-ends", 'E'), ("number", 'n'),
     ("squeeze-blank", 's'), ("show-tabs", 'T'), ("show-nonprinting", 'v')] false request.arguments
  match options.refusal? request 1 with
  | some refusal => refusal
  | none =>
    let files := if options.operands.isEmpty then [['-']] else options.operands
    let plain := options.options.all (·.1 = 'u')
    let parts := files.map fun file => (file, request.texts [file] troubleWith)
    let first? := parts.find? fun part => part.1 = ['-']
    let used := (first?.map fun part => part.2.usedInput).getD false
    let texts : List (Nat × List Char) :=
      (parts.zip (List.range parts.length)).flatMap fun ((file, part), i) =>
        let again := file = ['-'] && (files.take i).contains ['-']
        part.complaints ++ (if again then [] else part.texts.map fun (_, text) => (1, text))
    let texts := if request.hasInput || !files.contains ['-'] then texts
      else texts ++ [request.complaint "closing standard input: Bad file descriptor"]
    let output :=
      if plain then texts
      else
        let complaints := texts.filter fun text => text.1 = 2
        let all := (texts.filter fun text => text.1 = 1).flatMap Prod.snd
        complaints ++ [(1, decorate options 1 false (fullLines all))]
    { request.answer (if texts.any fun text => text.1 = 2 then 1 else 0) output with
      rest := if used then [] else request.input
      endless := files.contains "/dev/zero".toList }

/-- The last line first. -/
def tac : Utility := fun request =>
  let texts := request.texts request.arguments fun file trouble =>
    if trouble = .isFolder then shownName file ++ ": read error: " ++ trouble.words
    else "failed to open " ++ quoted file ++ " for reading: " ++ trouble.words
  let shown := texts.texts.flatMap fun text => (fullLines text.2).reverse.flatten
  { request.answer (if texts.complaints.isEmpty then 0 else 1) (texts.complaints ++ [(1, shown)]) with
    rest := if texts.usedInput then [] else request.input }

/-- Which part of some items is meant. -/
inductive Portion where
  | first (count : Nat)
  | last (count : Nat)
  | allButLast (count : Nat)
  /-- From an item on, counted from one. -/
  | startingWith (number : Nat)

/-- The items that are meant. -/
def Portion.of {α : Type} (items : List α) : Portion → List α
  | first count => items.take count
  | last count => items.drop (items.length - count)
  | allButLast count => items.take (items.length - count)
  | startingWith number => items.drop (number - 1)

/-- The first or last part of the texts of files, each below its name if there are several. -/
structure Excerpt where
  portion : Portion
  ofBytes : Bool

/-- The part of a text. -/
def Excerpt.of (excerpt : Excerpt) (text : List Char) : List Char :=
  if excerpt.ofBytes then excerpt.portion.of text
  else (excerpt.portion.of (fullLines text)).flatten

/-- The size of the blocks in which input is read. -/
def blockSize : Nat := 8192

/-- Input that is left behind an excerpt from its start. Input that cannot be given back is
used up by blocks. -/
def Excerpt.leave (excerpt : Excerpt) (request : Request) : List Char :=
  match excerpt.portion with
  | .first _ =>
    let used := (excerpt.of request.input).length
    if request.seekable || excerpt.ofBytes then request.input.drop used
    else request.input.drop ((used + blockSize - 1) / blockSize * blockSize)
  | _ => []

/-- A complaint about a file of which no part can be written. -/
def excerptTrouble (file : List Char) (trouble : FileTrouble) : String :=
  let isInput := file = ['-']
  if trouble = .isFolder || isInput then
    "error reading " ++ quoted (if isInput then "standard input".toList else file) ++ ": " ++
      trouble.words
  else "cannot open " ++ quoted file ++ " for reading: " ++ trouble.words

/-- Write parts of the texts of files. -/
def writeExcerpts (request : Request) (excerpt : Excerpt) (titled : Bool)
    (files : List (List Char)) : Answer :=
  let files := if files.isEmpty then [['-']] else files
  let zeros : List Char := match excerpt with
    | ⟨.first count, true⟩ => List.replicate count null
    | _ => []
  let parts := files.map fun file =>
    let title : List Char :=
      if !titled then []
      else "==> ".toList ++ (if file = ['-'] then "standard input".toList else file) ++
        " <==\n".toList
    if file = "/dev/zero".toList || (file = ['-'] && request.endless && request.input.isEmpty) then
      (file, ([] : List (Nat × List Char)), some (title ++ zeros))
    else
      let found := request.texts [file] excerptTrouble
      let opened := found.complaints.isEmpty || request.find file matches .ok (.folder _)
      (file, found.complaints,
        if opened then some (title ++ found.texts.flatMap fun text => excerpt.of text.2) else none)
  let shown := parts.filterMap fun part => part.2.2
  let complaints := parts.flatMap fun part => part.2.1
  { request.answer (if complaints.isEmpty then 0 else 1)
      (complaints ++ [(1, joinWith (if titled then ['\n'] else []) shown)]) with
    rest := if files.contains ['-'] then excerpt.leave request else request.input }

/-- Options in which a number alone counts lines. -/
def withLineCount (arguments : List (List Char)) : List (List Char) :=
  match arguments with
  | ('-' :: c :: rest) :: more =>
    if c.isDigit then
      let digits := (c :: rest).takeWhile Char.isDigit
      let letters := (c :: rest).drop digits.length
      (['-', if letters.contains 'c' then 'c' else 'n'] ++ digits) :: more
    else arguments
  | _ => arguments

/-- The options of excerpts. -/
def excerptOptions (arguments : List (List Char)) : Options :=
  takeArguments "qvfz" "nc"
    [("lines", 'n'), ("bytes", 'c'), ("quiet", 'q'), ("silent", 'q'), ("verbose", 'v')] false
    (withLineCount arguments)

/-- The excerpt that options ask for, or what is wrong with them. -/
def excerptFrom (options : Options) (plain signed : Nat → Portion) (sign : Char) :
    Except String Excerpt :=
  match (options.options.filter fun option => option.1 = 'n' || option.1 = 'c').getLast? with
  | none => .ok ⟨plain 10, false⟩
  | some (letter, text) =>
    let (isSigned, digits) := match text with
      | '-' :: digits => (decide (sign = '-'), digits)
      | '+' :: digits => (decide (sign = '+'), digits)
      | digits => (false, digits)
    match amount? digits with
    | some count => .ok ⟨if isSigned then signed count else plain count, letter = 'c'⟩
    | none =>
      .error ("invalid number of " ++ (if letter = 'c' then "bytes" else "lines") ++ ": " ++
        quoted digits)

/-- The first or the last part of the texts of files. -/
def excerptUtility (plain signed : Nat → Portion) (sign : Char) : Utility := fun request =>
  let options := excerptOptions request.arguments
  match options.refusal? request 1, excerptFrom options plain signed sign with
  | some refusal, _ => refusal
  | none, .error words => request.refuse 1 words
  | none, .ok excerpt =>
    writeExcerpts request excerpt
      (options.has 'v' || (1 < options.operands.length && !options.has 'q')) options.operands

/-- The first lines or bytes. -/
def head : Utility := excerptUtility .first .allButLast '-'

/-- The last lines or bytes. A plus in front of a first argument that is a number asks for
those from a line on. -/
def tail : Utility := fun request =>
  let arguments := match request.arguments with
    | ('+' :: digits) :: more =>
      if !digits.isEmpty && digits.all Char.isDigit then ("-n+".toList ++ digits) :: more
      else request.arguments
    | arguments => arguments
  let answer := excerptUtility .last .startingWith '+' { request with arguments }
  { answer with endless := (excerptOptions arguments).has 'f' }

end Checkup.Shell
