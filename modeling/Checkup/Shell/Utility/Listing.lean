import Checkup.Shell.Utility.Date
import Checkup.Shell.Utility.Names

/-!
# What folders hold
-/

namespace Checkup.Shell

/-- How names are listed. -/
structure Listing where
  hidden : Bool
  dots : Bool
  marks : Bool
  folderMarks : Bool
  reversed : Bool
  deep : Bool
  bySize : Bool
  /-- With everything about a file in front of its name; owner or group may be left out. -/
  long : Bool
  owner : Bool
  group : Bool
  /-- Users and groups by their numbers. -/
  numbers : Bool
  /-- The time that all files are from, in seconds since the start of 1970. -/
  time : Nat

namespace Listing

/-- How many bytes a file holds. -/
def byteCount : Node → Nat
  | .file bytes => bytes.length
  | .folder _ => 4096

/-- Texts in the order of a listing. -/
def order (listing : Listing) (entries : List (List Char × Node)) : List (List Char × Node) :=
  let sorted := entries.mergeSort fun a b =>
    if listing.bySize && byteCount a.2 != byteCount b.2 then byteCount b.2 < byteCount a.2
    else textBefore a.1 b.1
  if listing.reversed then sorted.reverse else sorted

/-- A name as it is listed; some are marked. -/
def name (listing : Listing) (programs : List (List String)) (place : List String)
    (entry : List Char × Node) : List Char :=
  entry.1 ++ match entry.2 with
    | .folder _ => if listing.marks || listing.folderMarks then ['/'] else []
    | .file _ => if listing.marks && programs.contains place then ['*'] else []

/-- The rights to a file, as letters. -/
def rights (programs : List (List String)) (place : List String) : Node → List Char
  | .folder _ => "drwxr-xr-x".toList
  | .file _ => if programs.contains place then "-rwxr-xr-x".toList else "-rw-r--r--".toList

/-- The number of the names of a file: a folder is named by itself and by each folder in it. -/
def nameCount : Node → Nat
  | .file _ => 1
  | .folder entries => 2 + (entries.filter fun entry => entry.2.isFolder).length

/-- The size that files take, in units of 1024 bytes. -/
def total (nodes : List Node) : Nat :=
  nodes.foldl (fun total node => total + (byteCount node + 4095) / 4096 * 4) 0

/-- Entries as lines, each with the place of its file. -/
def lines (listing : Listing) (programs : List (List String))
    (entries : List (List String × List Char × Node)) : List Char :=
  let width (number : Node → Nat) : Nat :=
    ((entries.map fun entry => (showNumber (number entry.2.2)).length).max?).getD 0
  let countWidth := width nameCount
  let sizeWidth := width byteCount
  let user := if listing.numbers then "0 ".toList else "root ".toList
  entries.flatMap fun (place, entry) =>
    let about := if !listing.long then []
      else rights programs place entry.2 ++ ' ' :: rightAligned countWidth (nameCount entry.2) ++ ' ' ::
        (if listing.owner then user else []) ++ (if listing.group then user else []) ++
        rightAligned sizeWidth (byteCount entry.2) ++ ' ' ::
        formatDate listing.time "%b %e %H:%M ".toList
    about ++ listing.name programs place entry ++ ['\n']

/-- The entries of a folder. -/
def entries (listing : Listing) (node : Node) : List (List Char × Node) :=
  let named := node.entries.map fun (name, node) => (ofText name, node)
  let shown := named.filter fun entry => listing.hidden || entry.1.head? != some '.'
  let dots : List (List Char × Node) :=
    if listing.dots then [(['.'], node), (['.', '.'], .folder [])] else []
  listing.order (dots ++ shown)

/-- The lines for a folder, and for the folders in it if all are meant. -/
def folder (listing : Listing) (programs : List (List String)) (fuel : Nat) (titled : Bool)
    (title : List Char) (place : List String) (node : Node) : List (List Char) :=
  match fuel with
  | 0 => []
  | fuel + 1 =>
    let entries := listing.entries node
    let lines := listing.lines programs (entries.map fun entry => (place ++ [toText entry.1], entry))
    let head := if listing.long then ofText ("total " ++ toString (total (entries.map Prod.snd)) ++ "\n")
      else []
    let own := (if titled then title ++ [':', '\n'] else []) ++ head ++ lines
    let inner := entries.filter fun entry =>
      entry.2.isFolder && entry.1 != ['.'] && entry.1 != ['.', '.']
    own :: (if listing.deep then
        inner.flatMap fun entry =>
          let path := if title.getLast? = some '/' then title ++ entry.1 else title ++ '/' :: entry.1
          folder listing programs fuel titled path (place ++ [toText entry.1]) entry.2
      else [])

end Listing

/-- How deep folders are followed. -/
def folderDepth : Nat := 200

/-- List what folders hold. -/
def ls : Utility := fun request =>
  let options := takeArguments "aA1dFprRStUlhiCxmgGnNosq" ""
    [("all", 'a'), ("almost-all", 'A'), ("directory", 'd'), ("classify", 'F'), ("reverse", 'r'),
     ("recursive", 'R')] false request.arguments
  match options.refusal? request 2 with
  | some refusal => refusal
  | none =>
    let listing : Listing :=
      { hidden := options.has 'a' || options.has 'A', dots := options.has 'a'
        marks := options.has 'F', folderMarks := options.has 'p', reversed := options.has 'r'
        deep := options.has 'R', bySize := options.has 'S'
        long := ['l', 'n', 'g', 'o'].any options.has, owner := !options.has 'g'
        group := !options.has 'o' && !options.has 'G', numbers := options.has 'n'
        time := request.now }
    let operands := if options.operands.isEmpty then [['.']] else options.operands
    let found := operands.map fun name => (name, request.find name)
    let complaints := found.filterMap fun
      | (name, .error trouble) =>
        some (request.complaint ("cannot access " ++ quoted name ++ ": " ++ trouble.words))
      | _ => none
    let there := listing.order (found.filterMap fun (name, node?) => node?.toOption.map (name, ·))
    let place (name : List Char) : List String :=
      ((request.tree.locate (namedPath name)).toOption).getD []
    let files := there.filter fun entry => options.has 'd' || !entry.2.isFolder
    let folders := there.filter fun entry => !options.has 'd' && entry.2.isFolder
    let titled := 1 < operands.length || listing.deep
    let fileText := listing.lines request.programs (files.map fun entry => (place entry.1, entry))
    let blocks := folders.flatMap fun (name, node) =>
      listing.folder request.programs folderDepth titled name (place name) node
    let parts := (if fileText.isEmpty then [] else [fileText]) ++ blocks
    request.answer (if complaints.isEmpty then 0 else 2)
      (complaints ++ [(1, joinWith ['\n'] parts)])

/-- A field of a report about a file, by the letter that asks for it. -/
def fileField (request : Request) (name : List Char) (node : Node) (letter : Char) : List Char :=
  let place := ((request.tree.locate (namedPath name)).toOption).getD []
  match letter with
  | 'n' => name
  | 'N' => ofText (quoted name)
  | 's' => match node with
    | .file bytes => showNumber bytes.length
    | .folder _ => "4096".toList
  | 'F' => match node with
    | .file [] => "regular empty file".toList
    | .file _ => "regular file".toList
    | .folder _ => "directory".toList
  | 'a' =>
    if node.isFolder || request.programs.contains place then "755".toList else "644".toList
  | 'A' => match node with
    | .folder _ => "drwxr-xr-x".toList
    | .file _ => if request.programs.contains place then "-rwxr-xr-x".toList else "-rw-r--r--".toList
  | 'U' | 'G' => "root".toList
  | 'u' | 'g' => ['0']
  | 'h' => showNumber (Listing.nameCount node)
  | '%' => ['%']
  | _ => ['?']

/-- A report about a file in some format. -/
def fileReport (request : Request) (name : List Char) (node : Node) : List Char → List Char
  | '%' :: letter :: rest => fileField request name node letter ++ fileReport request name node rest
  | c :: rest => c :: fileReport request name node rest
  | [] => []

/-- Report about files. -/
def stat : Utility := fun request =>
  let options := takeArguments "Lft" "cp" [("format", 'c'), ("printf", 'p')] false request.arguments
  match options.refusal? request 1 with
  | some refusal => refusal
  | none =>
    if options.operands.isEmpty then request.refuseUse 1 "missing operand"
    else
      let format := (options.value? 'c').getD "%n".toList
      let parts := options.operands.map fun name =>
        match request.find name with
        | .ok node => (1, fileReport request name node format ++ ['\n'])
        | .error trouble =>
          request.complaint ("cannot statx " ++ quoted name ++ ": " ++ trouble.words)
      request.answer (if parts.any (·.1 = 2) then 1 else 0) parts

end Checkup.Shell
