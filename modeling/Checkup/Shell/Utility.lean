import Checkup.Shell.Programs
import Checkup.Shell.Format

/-!
# Utilities

A utility answers arguments and input with output and a status; some change
files, and some take their time.
-/

namespace Checkup.Shell

/-- What a utility finds. -/
structure Request where
  /-- What the utility is called. -/
  name : List Char
  arguments : List (List Char)
  environment : List (List Char × List Char)
  tree : FileTree
  programs : List (List String)
  /-- What can be read, and whether more comes without end. -/
  input : List Char
  endless : Bool
  /-- Input that is not used up may be given back. -/
  seekable : Bool
  /-- The input is open at all. -/
  hasInput : Bool
  /-- The input is a folder. -/
  inputIsFolder : Bool
  mask : Nat
  /-- Seconds since the start of 1970. -/
  now : Nat

/-- What a utility does. -/
structure Answer where
  /-- What is written to which stream, one text after the other. -/
  output : List (Nat × List Char) := []
  status : Nat := 0
  /-- Input that was not used. -/
  rest : List Char := []
  /-- Files afterwards, and those that may be started. -/
  tree : FileTree
  programs : List (List String)
  /-- Time that it takes, in microseconds. -/
  takes : Nat := 0
  /-- Output goes on for as long as anyone reads it. -/
  endless : Bool := false

/-- A utility. -/
abbrev Utility := Request → Answer

namespace Request

/-- An answer that leaves everything as it is. -/
def answer (request : Request) (status : Nat) (output : List (Nat × List Char)) : Answer :=
  { output, status, rest := request.input, tree := request.tree, programs := request.programs }

/-- A text for the first stream. -/
def say (request : Request) (text : List Char) : Answer := request.answer 0 [(1, text)]

/-- A complaint under the name of the utility. -/
def complaint (request : Request) (words : String) : Nat × List Char :=
  (2, request.name ++ ofText (": " ++ words ++ "\n"))

/-- Where to read on. -/
def hint (request : Request) : Nat × List Char :=
  (2, ofText "Try '" ++ request.name ++ ofText " --help' for more information.\n")

/-- A refusal. -/
def refuse (request : Request) (status : Nat) (words : String) : Answer :=
  request.answer status [request.complaint words]

/-- A refusal of how the utility is used. -/
def refuseUse (request : Request) (status : Nat) (words : String) : Answer :=
  request.answer status [request.complaint words, request.hint]

/-- What a name leads to in the tree. -/
def find (request : Request) (name : List Char) : Except FileTrouble Node :=
  match systemProgram? name, device? (namedPath name) with
  | none, none => lookAt request.tree name
  | _, _ => .ok (.file [])

/-- The bytes of a file. -/
def read (request : Request) (name : List Char) : Except FileTrouble (List Char) :=
  match request.find name with
  | .ok (.file bytes) => .ok (ofBytes bytes)
  | .ok (.folder _) => .error .isFolder
  | .error trouble => .error trouble

end Request

/-- A text in quotes as messages show it. Double quotes are taken for a text that holds
single ones. -/
def quoted (text : List Char) : String :=
  if !text.contains '\x27' then "'" ++ toText text ++ "'"
  else if text.any fun c => "\"$`\\!".toList.contains c then
    "'" ++ toText (text.flatMap fun c => if c = '\x27' then "'\\''".toList else [c]) ++ "'"
  else "\"" ++ toText text ++ "\""

/-- A text cannot be shown as it is without quotes. -/
def needsQuotes (text : List Char) : Bool :=
  match text with
  | [] | ['\x7b'] | ['\x7d'] | '#' :: _ | '~' :: _ => true
  | text => text.any fun c => c.toNat < 32 || " !\"$&'()*;<=>?[\\^`|:".toList.contains c

/-- The name of a file as messages show it. -/
def shownName (name : List Char) : String := if needsQuotes name then quoted name else toText name

/-- Options in front of and between other arguments: letters, and values behind some of
them. An option that is none is told apart. -/
structure Options where
  options : List (Char × List Char) := []
  operands : List (List Char) := []
  /-- A letter or a word that is no option. -/
  unknown : Option (List Char) := none
  /-- An option that lacks its value. -/
  lacking : Option Char := none

/-- The letters of an argument up to one that has a value, and what is left for it. -/
def splitLetters (plain valued : List Char) : List Char →
    List (Char × List Char) × Option (Char × List Char) × Option Char
  | [] => ([], none, none)
  | c :: rest =>
    if valued.contains c then ([], some (c, rest), none)
    else if plain.contains c then
      let (more, value?, unknown?) := splitLetters plain valued rest
      ((c, []) :: more, value?, unknown?)
    else ([], none, some c)

/-- Take arguments apart. `long` gives the letters of long options; with `strict` options
end at the first other argument. -/
def takeArguments (plain valued : String) (long : List (String × Char)) (strict : Bool) :
    List (List Char) → Options
  | [] => {}
  | argument :: rest =>
    let more := takeArguments plain valued long strict rest
    let add (option : Char × List Char) (options : Options) : Options :=
      { options with options := option :: options.options }
    match argument with
    | ['-', '-'] => { operands := rest }
    | '-' :: '-' :: text =>
      let name := text.takeWhile (· != '=')
      let exact := long.find? fun entry => entry.1.toList = name
      let close := long.filter fun entry => name.isPrefixOf entry.1.toList
      match exact.or (if close.length = 1 then close.head? else none) with
      | none => { more with unknown := some argument }
      | some (_, letter) =>
        if valued.contains letter then
          match text.drop name.length, rest with
          | _ :: value, _ => add (letter, value) more
          | [], value :: others =>
            add (letter, value) (takeArguments plain valued long strict others)
          | [], [] => { more with lacking := some letter }
        else add (letter, []) more
    | '-' :: c :: letters =>
      let (found, value?, unknown?) := splitLetters plain.toList valued.toList (c :: letters)
      match unknown?, value? with
      | some letter, _ => { options := found, operands := rest, unknown := some [letter] }
      | none, none => { more with options := found ++ more.options }
      | none, some (letter, value) =>
        if !value.isEmpty then { more with options := found ++ (letter, value) :: more.options }
        else match rest with
          | value :: others =>
            let more := takeArguments plain valued long strict others
            { more with options := found ++ (letter, value) :: more.options }
          | [] => { options := found, lacking := some letter }
    | argument =>
      if strict then { operands := argument :: rest }
      else { more with operands := argument :: more.operands }

namespace Options

/-- An option was given. -/
def has (options : Options) (letter : Char) : Bool := options.options.any (·.1 = letter)

/-- The last value of an option. -/
def value? (options : Options) (letter : Char) : Option (List Char) :=
  (options.options.filter (·.1 = letter)).getLast?.map Prod.snd

/-- What is wrong with options. -/
def complaint? (options : Options) : Option String :=
  match options.unknown, options.lacking with
  | some ('-' :: text), _ => some ("unrecognized option '" ++ toText ('-' :: text) ++ "'")
  | some letter, _ => some ("invalid option -- '" ++ toText letter ++ "'")
  | none, some letter => some ("option requires an argument -- '" ++ letter.toString ++ "'")
  | none, none => none

/-- What is wrong with options, as a refusal of the utility. -/
def refusal? (options : Options) (request : Request) (status : Nat) : Option Answer :=
  options.complaint?.map (request.refuseUse status)

end Options

/-- Lines with their line feeds, the first of which starts with characters that come in
reverse. -/
def fullLinesFrom (line : List Char) : List Char → List (List Char)
  | [] => if line.isEmpty then [] else [line.reverse]
  | c :: rest =>
    if c = '\n' then (c :: line).reverse :: fullLinesFrom [] rest
    else fullLinesFrom (c :: line) rest

/-- Lines with their line feeds; the last may lack its own. -/
def fullLines (text : List Char) : List (List Char) := fullLinesFrom [] text

/-- Lines without their line feeds. -/
def bareLines (text : List Char) : List (List Char) :=
  (fullLines text).map fun line => if line.getLast? = some '\n' then line.dropLast else line

/-- Lines with line feeds. -/
def linesText (lines : List (List Char)) : List Char := lines.flatMap (· ++ ['\n'])

/-- Texts of files, and the complaints about those that cannot be read. A dash stands for
the input. -/
structure Texts where
  /-- The texts with the names of their files. -/
  texts : List (List Char × List Char) := []
  complaints : List (Nat × List Char) := []
  usedInput : Bool := false

/-- The texts of files, or of the input if there are none. -/
def Request.texts (request : Request) (files : List (List Char))
    (words : List Char → FileTrouble → String) : Texts :=
  (if files.isEmpty then [['-']] else files).foldl (fun texts file =>
    let complain (complaint : String) : Texts :=
      { texts with complaints := texts.complaints ++ [request.complaint complaint] }
    if file = ['-'] then
      if request.inputIsFolder then complain (words file .isFolder)
      else if !request.hasInput then complain "-: Bad file descriptor"
      else
        let text := if texts.usedInput then [] else request.input
        { texts with texts := texts.texts ++ [(file, text)], usedInput := true }
    else match request.read file with
      | .ok text => { texts with texts := texts.texts ++ [(file, text)] }
      | .error trouble => complain (words file trouble)) {}

/-- A file that cannot be read, as most utilities say it. -/
def troubleWith (file : List Char) (trouble : FileTrouble) : String :=
  shownName file ++ ": " ++ trouble.words

/-- Output that is made of the texts of files. -/
def Request.filtered (request : Request) (files : List (List Char)) (status : Nat)
    (change : List (List Char × List Char) → List Char) : Answer :=
  let texts := request.texts files troubleWith
  { request.answer (if texts.complaints.isEmpty then 0 else status)
      (texts.complaints ++ [(1, change texts.texts)]) with
    rest := if texts.usedInput then [] else request.input }

/-- A number with a letter behind it that makes it larger. -/
def amount? (text : List Char) : Option Nat :=
  let digits := text.takeWhile Char.isDigit
  let factor? : Option Nat := match String.ofList (text.drop digits.length) with
    | "" => some 1
    | "b" => some 512
    | "kB" | "KB" => some 1000
    | "k" | "K" | "KiB" => some 1024
    | "MB" => some 1000000
    | "m" | "M" | "MiB" => some (Nat.pow 1024 2)
    | "GB" => some 1000000000
    | "G" | "GiB" => some (Nat.pow 1024 3)
    | _ => none
  if digits.isEmpty then none else factor?.map (digitsValue 10 digits * ·)

/-- A number behind blanks up to a width. -/
def rightAligned (width number : Nat) : List Char :=
  let digits := showNumber number
  List.replicate (width - digits.length) ' ' ++ digits

/-- The tree with a text in a file. Nothing is kept of what goes to a device. -/
def putText (tree : FileTree) (name text : List Char) : Except FileTrouble FileTree :=
  if (device? (namedPath name)).isSome then .ok tree
  else match tree.writeBytes (namedPath name) (toBytes text) with
    | .ok tree => .ok tree
    | .error fault => .error fault.trouble

end Checkup.Shell
