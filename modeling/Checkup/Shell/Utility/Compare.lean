import Checkup.Shell.Utility

/-!
# Comparing files
-/

namespace Checkup.Shell

/-- Options of utilities that compare, or what is said of wrong ones. -/
def compareRefusal? (request : Request) (options : Options) : Option Answer :=
  let hint : Nat × List Char :=
    (2, request.name ++ ofText (": Try '" ++ toText request.name ++ " --help' for more information.\n"))
  let refuse (words : String) : Option Answer := some (request.answer 2 [request.complaint words, hint])
  match options.unknown, options.lacking with
  | some ('-' :: text), _ => refuse ("unrecognized option '-" ++ toText text ++ "'")
  | some letter, _ => refuse ("invalid option -- " ++ quoted letter)
  | none, some letter => refuse ("option requires an argument -- " ++ quoted [letter])
  | none, none => none

/-- A refusal of operands. -/
def operandRefusal (request : Request) (words : String) : Answer :=
  request.answer 2 [request.complaint words,
    request.complaint ("Try '" ++ toText request.name ++ " --help' for more information.")]

/-- The first place where two texts differ: a byte and a line, and whether one of them ends
there. -/
def firstDifference : (byte line : Nat) → List Char → List Char → Option (Nat × Nat × Bool)
  | _, _, [], [] => none
  | byte, line, [], _ | byte, line, _, [] => some (byte, line, true)
  | byte, line, a :: as, b :: bs =>
    if a = b then firstDifference (byte + 1) (if a = '\n' then line + 1 else line) as bs
    else some (byte, line, false)

/-- Compare two files byte by byte. -/
def cmp : Utility := fun request =>
  let options := takeArguments "sbl" "nij" [("silent", 's'), ("quiet", 's'), ("verbose", 'l')] false
    request.arguments
  match compareRefusal? request options, options.operands with
  | some refusal, _ => refusal
  | none, [] => operandRefusal request "missing operand after 'cmp'"
  | none, first :: rest =>
    let second := rest.headD ['-']
    let silent := options.has 's'
    let texts := request.texts [first, second] troubleWith
    match texts.complaints, texts.texts with
    | [], [(_, a), (_, b)] =>
      let rest := if texts.usedInput then [] else request.input
      if first = second then { request.answer 0 [] with rest }
      else match firstDifference 1 1 a b with
      | none => { request.answer 0 [] with rest }
      | some (byte, line, atEnd) =>
        let short := if a.length < b.length then first else second
        let byte := if options.has 'l' then min a.length b.length + 1 else byte
        let atEnd := if options.has 'l' then a.length != b.length else atEnd
        let message : Nat × List Char :=
          if atEnd then
            let text := if a.length < b.length then a else b
            request.complaint ("EOF on " ++ toText short ++
              (if text.isEmpty then " which is empty"
                else " after byte " ++ toString (byte - 1) ++
                  (if options.has 'l' then ""
                    else if text.getLast? = some '\n' then ", line " ++ toString (line - 1)
                    else ", in line " ++ toString line)))
          else (1, first ++ ' ' :: second ++
            ofText (" differ: char " ++ toString byte ++ ", line " ++ toString line ++ "\n"))
        let bytes : Nat × List Char :=
          let width := (toString (max a.length b.length)).length
          let octal (c : Char) : List Char :=
            let digits := Nat.toDigits 8 c.toNat
            List.replicate (3 - digits.length) ' ' ++ digits
          let pairs := (a.zip b).zip (List.range a.length)
          (1, linesText (pairs.filterMap fun ((x, y), i) =>
            if x = y then none
            else some (rightAligned width (i + 1) ++ ' ' :: octal x ++ ' ' :: octal y)))
        let output := if silent then [] else
          if options.has 'l' then bytes :: (if atEnd then [message] else [])
          else [message]
        { request.answer 1 output with rest }
    | complaints, _ =>
      request.answer 2 (if silent then [] else complaints.take 1)

/-- A line of one text or of both. -/
inductive DiffLine where
  | both (line : List Char)
  | first (line : List Char)
  | second (line : List Char)

/-- How many lines two texts have in common at most, for all their ends: a row for each end of
the first text. -/
def commonCounts (a b : Array (List Char)) : Array (Array Nat) :=
  let last := Array.replicate (b.size + 1) 0
  (a.foldr (fun line (rows : List (Array Nat)) =>
    let below := rows.headD last
    let row := (List.range b.size).foldr (fun j (cells : List Nat) =>
      let count := if b[j]? = some line then below.getD (j + 1) 0 + 1
        else max (below.getD j 0) (cells.headD 0)
      count :: cells) [0]
    row.toArray :: rows) [last]).toArray

/-- The lines of two texts, one of the longest rows of common lines told apart. -/
def diffLines (counts : Array (Array Nat)) (fuel i j : Nat) (a b : List (List Char)) : List DiffLine :=
  match fuel, a, b with
  | 0, _, _ => []
  | _, [], b => b.map .second
  | _, a, [] => a.map .first
  | fuel + 1, x :: a, y :: b =>
    let count (i j : Nat) : Nat := (counts.getD i #[]).getD j 0
    if x = y then .both x :: diffLines counts fuel (i + 1) (j + 1) a b
    else if count i (j + 1) ≤ count (i + 1) j then
      .first x :: diffLines counts fuel (i + 1) j a (y :: b)
    else .second y :: diffLines counts fuel i (j + 1) (x :: a) b

/-- A row of lines that differ: where it starts in both texts, and its lines. -/
structure DiffHunk where
  first : Nat
  second : Nat
  old : List (List Char) := []
  new : List (List Char) := []

/-- The rows of lines that differ, from some places on. -/
def diffHunks (i j : Nat) (hunk : Option DiffHunk) : List DiffLine → List DiffHunk
  | [] => hunk.toList
  | .both _ :: rest => hunk.toList ++ diffHunks (i + 1) (j + 1) none rest
  | .first line :: rest =>
    let hunk : DiffHunk := hunk.getD { first := i, second := j }
    diffHunks (i + 1) j (some { hunk with old := hunk.old ++ [line] }) rest
  | .second line :: rest =>
    let hunk : DiffHunk := hunk.getD { first := i, second := j }
    diffHunks i (j + 1) (some { hunk with new := hunk.new ++ [line] }) rest

/-- A line behind a mark; one without line feed is told. -/
def markedLine (mark : List Char) (line : List Char) : List Char :=
  if line.getLast? = some '\n' then mark ++ line
  else mark ++ line ++ "\n\\ No newline at end of file\n".toList

/-- The numbers of some lines; none are behind the line before. -/
def lineRange (start count : Nat) : List Char :=
  if count = 0 then showNumber start
  else if count = 1 then showNumber (start + 1)
  else showNumber (start + 1) ++ ',' :: showNumber (start + count)

/-- A row of lines that differ, as it is shown. -/
def DiffHunk.shown (hunk : DiffHunk) : List Char :=
  let old := hunk.old.length
  let new := hunk.new.length
  let letter := if old = 0 then 'a' else if new = 0 then 'd' else 'c'
  lineRange hunk.first old ++ letter :: lineRange hunk.second new ++ ['\n'] ++
    hunk.old.flatMap (markedLine "< ".toList) ++
    (if letter = 'c' then "---\n".toList else []) ++
    hunk.new.flatMap (markedLine "> ".toList)

/-- Rows of lines that differ, put together where they are close. -/
def closeHunks (around : Nat) : List DiffHunk → List (List DiffHunk)
  | [] => []
  | hunk :: rest =>
    match closeHunks around rest with
    | (next :: more) :: groups =>
      if next.first ≤ hunk.first + hunk.old.length + 2 * around then (hunk :: next :: more) :: groups
      else [hunk] :: (next :: more) :: groups
    | groups => [hunk] :: groups

/-- The start and the size of some lines. -/
def unifiedRange (start count : Nat) : List Char :=
  if count = 1 then showNumber (start + 1)
  else showNumber (if count = 0 then start else start + 1) ++ ',' :: showNumber count

/-- Rows that are close, with lines around them. -/
def unifiedGroup (around : Nat) (a : Array (List Char)) (group : List DiffHunk) : List Char :=
  match group.head?, group.getLast? with
  | some first, some last =>
    let start := first.first - around
    let ahead := first.first - start
    let lastEnd := last.first + last.old.length
    let stop := min a.size (lastEnd + around)
    let oldCount := stop - start
    let newCount := group.foldl (fun count hunk => count + hunk.new.length - hunk.old.length) oldCount
    let lines (start stop : Nat) : List Char :=
      (a.extract start stop).toList.flatMap (markedLine [' '])
    let (body, place) := group.foldl (fun (text, place) hunk =>
      (text ++ lines place hunk.first ++ hunk.old.flatMap (markedLine ['-']) ++
        hunk.new.flatMap (markedLine ['+']), hunk.first + hunk.old.length)) ([], start)
    "@@ -".toList ++ unifiedRange start oldCount ++ " +".toList ++
      unifiedRange (first.second - ahead) newCount ++ " @@\n".toList ++ body ++ lines place stop
  | _, _ => []

/-- A line as it is compared. -/
def comparedLine (options : Options) (line : List Char) : List Char :=
  let line := if options.has 'i' then line.map Char.toLower else line
  if options.has 'w' then line.filter (!isSpace ·)
  else if options.has 'b' then
    let words := (line.splitBy fun a b => isSpace a = isSpace b)
    let words := words.map fun word => if word.all isSpace then [' '] else word
    (if words.getLast? = some [' '] then words.dropLast else words).flatten
  else line

/-- How two texts differ. -/
def showDifference (options : Options) (names : List (List Char)) (a b : List Char) : List Char :=
  let first := fullLines a
  let second := fullLines b
  let keys := first.map (comparedLine options)
  let others := second.map (comparedLine options)
  let counts := commonCounts keys.toArray others.toArray
  let hunks := diffHunks 0 0 none
    (diffLines counts (keys.length + others.length + 1) 0 0 keys others)
  let firstLines := first.toArray
  let secondLines := second.toArray
  let hunks := hunks.map fun hunk => { hunk with
    old := (firstLines.extract hunk.first (hunk.first + hunk.old.length)).toList
    new := (secondLines.extract hunk.second (hunk.second + hunk.new.length)).toList }
  if hunks.isEmpty then []
  else if options.has 'u' || options.has 'U' then
    let around := ((options.value? 'U').bind count?).getD 3
    let labels := (options.options.filter (·.1 = 'L')).map Prod.snd
    let name (i : Nat) : List Char := (labels[i]?).getD ((names[i]?).getD [])
    "--- ".toList ++ name 0 ++ "\n+++ ".toList ++ name 1 ++ ['\n'] ++
      (closeHunks around hunks).flatMap (unifiedGroup around firstLines)
  else hunks.flatMap DiffHunk.shown

/-- What differs between two files or folders: what is said, and the status. -/
def compareNodes (fuel : Nat) (options : Options) (call : List Char) (a b : List Char) (first second : Node) :
    List Char × Nat :=
  match fuel, first, second with
  | 0, _, _ => ([], 0)
  | _, .file x, .file y =>
    let same := comparedLine options (ofBytes x) = comparedLine options (ofBytes y)
    if same then
      (if options.has 's' then "Files ".toList ++ a ++ " and ".toList ++ b ++ " are identical\n".toList
        else [], 0)
    else if options.has 'q' then
      ("Files ".toList ++ a ++ " and ".toList ++ b ++ " differ\n".toList, 1)
    else
      let text := showDifference options [a, b] (ofBytes x) (ofBytes y)
      (if text.isEmpty then [] else call ++ text, if text.isEmpty then 0 else 1)
  | fuel + 1, .folder xs, .folder ys =>
    let names := ((xs.map Prod.fst ++ ys.map Prod.fst).eraseDups).mergeSort fun x y => x ≤ y
    names.foldl (fun (text, status) name =>
      let inner (folder : List Char) : List Char := folder ++ '/' :: ofText name
      let only (folder : List Char) : List Char :=
        "Only in ".toList ++ folder ++ ": ".toList ++ ofText name ++ ['\n']
      match xs.lookup name, ys.lookup name with
      | some x, some y =>
        if x.isFolder && y.isFolder && !options.has 'r' then
          (text ++ "Common subdirectories: ".toList ++ inner a ++ " and ".toList ++ inner b ++ ['\n'],
            status)
        else
          let flags := if options.has 'r' then "-r ".toList else []
          let call := "diff ".toList ++ flags ++ inner a ++ ' ' :: inner b ++ ['\n']
          let (more, other) := compareNodes fuel options call (inner a) (inner b) x y
          (text ++ more, max status other)
      | some _, none => (text ++ only a, 1)
      | none, some _ => (text ++ only b, 1)
      | none, none => (text, status)) ([], 0)
  | _, first, second =>
    let kind (node : Node) : String := if node.isFolder then "directory" else "regular file"
    ("File ".toList ++ a ++ ofText (" is a " ++ kind first ++ " while file ") ++ b ++
      ofText (" is a " ++ kind second ++ "\n"), 1)

/-- Compare two files line by line. -/
def diff : Utility := fun request =>
  let options := takeArguments "uqsibwrNBac" "ULx"
    [("brief", 'q'), ("report-identical-files", 's'), ("unified", 'u'), ("ignore-case", 'i'),
     ("ignore-space-change", 'b'), ("ignore-all-space", 'w'), ("recursive", 'r'), ("label", 'L'),
     ("new-file", 'N'), ("text", 'a')] false request.arguments
  match compareRefusal? request options, options.operands with
  | some refusal, _ => refusal
  | none, [] => operandRefusal request "missing operand after 'diff'"
  | none, [name] => operandRefusal request ("missing operand after " ++ quoted name)
  | none, _ :: _ :: extra :: _ => operandRefusal request ("extra operand " ++ quoted extra)
  | none, [a, b] =>
    let node (name : List Char) : Except FileTrouble Node :=
      if name = ['-'] then .ok (.file (toBytes request.input)) else request.find name
    let inFolder (folder name : List Char) : List Char :=
      folder ++ (if folder.getLast? = some '/' then [] else ['/']) ++
        (name.reverse.takeWhile (· != '/')).reverse
    let (a, b) := match node a, node b with
      | .ok (.folder _), .ok (.file _) => (inFolder a b, b)
      | .ok (.file _), .ok (.folder _) => (a, inFolder b a)
      | _, _ => (a, b)
    let found (name : List Char) : Except FileTrouble Node := match node name with
      | .error .missing => if options.has 'N' then .ok (.file []) else .error .missing
      | found => found
    match found a, found b with
    | .ok first, .ok second =>
      let (text, status) := compareNodes 200 options [] a b first second
      { request.answer status [(1, text)] with
        rest := if a = ['-'] || b = ['-'] then [] else request.input }
    | first, second =>
      let complaint (name : List Char) : Except FileTrouble Node → List (Nat × List Char)
        | .error trouble => [request.complaint (toText name ++ ": " ++ trouble.words)]
        | .ok _ => []
      request.answer 2 (complaint a first ++ complaint b second)

/-- The names of the parts of a file: letters count up. -/
def partName (start : List Char) (length number : Nat) : List Char :=
  start ++ (List.range length).reverse.map fun place =>
    Char.ofNat (97 + number / Nat.pow 26 place % 26)

/-- Write the parts of a file to files of their own. -/
def split : Utility := fun request =>
  let options := takeArguments "d" "lba" [("lines", 'l'), ("bytes", 'b'), ("suffix-length", 'a')] false
    request.arguments
  let given := options.value? 'l'
  match options.refusal? request 1, given.map amount? with
  | some refusal, _ => refusal
  | none, some none => request.refuse 1 ("invalid number of lines: " ++ quoted (given.getD []))
  | none, lines? =>
    let words (name : List Char) (trouble : FileTrouble) : String :=
      "cannot open " ++ quoted name ++ " for reading: " ++ trouble.words
    let texts := request.texts (options.operands.take 1) words
    if !texts.complaints.isEmpty then request.answer 1 texts.complaints
    else
      let text := texts.texts.flatMap Prod.snd
      let pieces := match (options.value? 'b').bind amount? with
        | some size => chunks (text.length + 1) (max 1 size) text
        | none =>
          let lines := fullLines text
          (chunks (lines.length + 1) (max 1 ((lines?.bind id).getD 1000)) lines).map List.flatten
      let start := (options.operands[1]?).getD ['x']
      let length := ((options.value? 'a').bind count?).getD 2
      let digits (number : Nat) : List Char :=
        let digits := Nat.toDigits 10 number
        start ++ List.replicate (length - digits.length) '0' ++ digits
      let tree := (pieces.zip (List.range pieces.length)).foldl (fun tree (piece, i) =>
        (putText tree (if options.has 'd' then digits i else partName start length i) piece).toOption.getD tree)
        request.tree
      { request.answer 0 [] with tree, rest := if texts.usedInput then [] else request.input }
where
  /-- Rows of so many items. -/
  chunks {α : Type} (fuel size : Nat) (items : List α) : List (List α) :=
    match fuel with
    | 0 => []
    | fuel + 1 => if items.isEmpty then [] else items.take size :: chunks fuel size (items.drop size)

end Checkup.Shell
