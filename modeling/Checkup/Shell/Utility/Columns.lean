import Checkup.Shell.Utility

/-!
# Columns

Utilities that take lines apart into characters and fields, or put them side
by side.
-/

namespace Checkup.Shell

/-- Places in a line from one to another, which may be its end. -/
structure Range where
  first : Nat
  last : Option Nat

/-- A place is within a range. -/
def Range.has (range : Range) (place : Nat) : Bool :=
  range.first ≤ place && range.last.all (place ≤ ·)

/-- The ranges that a list names, or what is wrong with it. -/
def readRanges (ofFields : Bool) (list : List Char) : Except String (List Range) :=
  let invalid : String :=
    (if ofFields then "invalid field value " else "invalid byte or character range ") ++ quoted list
  let zero : String :=
    if ofFields then "fields are numbered from 1" else "byte/character positions are numbered from 1"
  let read (digits : List Char) : Except String (Option Nat) :=
    if digits.isEmpty then .ok none
    else if !digits.all Char.isDigit then .error invalid
    else if digitsValue 10 digits = 0 then .error zero
    else .ok (some (digitsValue 10 digits))
  (list.splitBy fun a b => a != ',' && a != ' ' && b != ',' && b != ' ').filter
    (fun piece => piece != [','] && piece != [' ']) |>.mapM fun piece => do
    match splitAt '-' piece with
    | [digits] =>
      match ← read digits with
      | some place => .ok ⟨place, some place⟩
      | none => .error invalid
    | [first, last] =>
      let first? ← read first
      let last? ← read last
      if first?.isNone && last?.isNone then .error "invalid range with no endpoint: -"
      let first := first?.getD 1
      if last?.any (· < first) then .error "invalid decreasing range"
      else .ok ⟨first, last?⟩
    | _ => .error invalid

/-- Items at some places, counted from one, in groups of those that follow each other. -/
def itemsAt {α : Type} (wanted : Nat → Bool) : (place : Nat) → List α → List α
  | _, [] => []
  | place, item :: rest =>
    if wanted place then item :: itemsAt wanted (place + 1) rest else itemsAt wanted (place + 1) rest

/-- What is kept of lines. -/
structure Cut where
  wanted : Nat → Bool
  delimiter : Option Char
  /-- What comes between fields that are kept. -/
  between : Option (List Char)
  /-- Lines without delimiters are dropped. -/
  onlyDelimited : Bool
  starts : Nat → Bool

/-- What is kept of a line. -/
def Cut.line? (cut : Cut) (line : List Char) : Option (List Char) :=
  match cut.delimiter with
  | none =>
    match cut.between with
    | none => some (itemsAt cut.wanted 1 line)
    | some between =>
      let marked := (line.zip (List.range line.length)).map fun (c, i) =>
        (c, cut.starts (i + 1) && i != 0)
      let kept := itemsAt cut.wanted 1 marked
      some (match kept with
        | [] => []
        | first :: rest =>
          first.1 :: rest.flatMap fun (c, starts) => if starts then between ++ [c] else [c])
  | some delimiter =>
    let fields := splitAt delimiter line
    if fields.length = 1 then if cut.onlyDelimited then none else some line
    else some (joinWith (cut.between.getD [delimiter]) (itemsAt cut.wanted 1 fields))

/-- Keep parts of lines. -/
def cut : Utility := fun request =>
  let options := takeArguments "snzC" "bcfdO"
    [("bytes", 'b'), ("characters", 'c'), ("fields", 'f'), ("delimiter", 'd'),
     ("only-delimited", 's'), ("complement", 'C'), ("output-delimiter", 'O')] false request.arguments
  let lists := options.options.filter fun option => "bcf".toList.contains option.1
  match options.refusal? request 1, lists with
  | some refusal, _ => refusal
  | none, [] => request.refuseUse 1 "you must specify a list of bytes, characters, or fields"
  | none, _ :: _ :: _ => request.refuseUse 1 "only one list may be specified"
  | none, [(letter, list)] =>
    let ofFields := letter = 'f'
    match readRanges ofFields list, options.value? 'd' with
    | .error words, _ => request.refuseUse 1 words
    | .ok [], _ =>
      request.refuseUse 1 (if ofFields then "invalid field value ''" else
        "invalid byte or character range ''")
    | .ok _, some (_ :: _ :: _) => request.refuseUse 1 "the delimiter must be a single character"
    | .ok ranges, delimiter? =>
      if !ofFields && delimiter?.isSome then
        request.refuseUse 1 "an input delimiter may be specified only when operating on fields"
      else if !ofFields && options.has 's' then
        request.refuseUse 1
          "suppressing non-delimited lines makes sense\n\tonly when operating on fields"
      else
        let among (place : Nat) : Bool := ranges.any fun range => range.has place
        let wanted (place : Nat) : Bool := among place != options.has 'C'
        let delimiter := match delimiter? with
          | some mark => mark.headD null
          | none => '\t'
        let cut : Cut :=
          { wanted, delimiter := if ofFields then some delimiter else none
            between := options.value? 'O', onlyDelimited := options.has 's'
            starts := fun place => ranges.any (·.first = place) &&
              !ranges.any fun range => range.first < place && range.has place }
        request.filtered options.operands 1 fun texts =>
          linesText (texts.flatMap fun text => (bareLines text.2).filterMap cut.line?)

/-- Rows of the lines of some texts side by side. -/
def pasteRows (fuel : Nat) (marks : List (List Char)) (columns : List (List (List Char))) :
    List (List Char) :=
  match fuel with
  | 0 => []
  | fuel + 1 =>
    if columns.all List.isEmpty then []
    else
      joinMarked marks marks (columns.map fun column => column.headD []) ::
        pasteRows fuel marks (columns.map (List.drop 1))
where
  /-- Texts with marks between them, which are used in turn. -/
  joinMarked (all : List (List Char)) : List (List Char) → List (List Char) → List Char
    | _, [] => []
    | _, [text] => text
    | mark :: marks, text :: rest => text ++ mark ++ joinMarked all marks rest
    | [], text :: rest =>
      match all with
      | mark :: marks => text ++ mark ++ joinMarked all marks rest
      | [] => text ++ joinMarked all [] rest

/-- The marks that a list of delimiters names. -/
def delimiterList : List Char → List (List Char)
  | '\\' :: c :: rest =>
    (match c with
      | 'n' => ['\n']
      | 't' => ['\t']
      | '0' => []
      | c => [c]) :: delimiterList rest
  | c :: rest => [c] :: delimiterList rest
  | [] => []

/-- Lines of a text that are read in turn by several readers. -/
def dealOut (count : Nat) (lines : List (List Char)) (reader : Nat) : List (List Char) :=
  ((lines.zip (List.range lines.length)).filter fun (_, i) => i % count = reader).map Prod.fst

/-- Put lines side by side. -/
def paste : Utility := fun request =>
  let options := takeArguments "sz" "d" [("serial", 's'), ("delimiters", 'd')] false
    request.arguments
  match options.refusal? request 1 with
  | some refusal => refusal
  | none =>
    let files := if options.operands.isEmpty then [['-']] else options.operands
    let marks := match options.value? 'd' with
      | none => [['\t']]
      | some [] => [[]]
      | some list => delimiterList list
    let found := files.map fun file => (file, request.texts [file] troubleWith)
    let complaints := found.flatMap fun entry => entry.2.complaints
    if !complaints.isEmpty then request.answer 1 (complaints.take 1)
    else
      let inputs := files.count ['-']
      let columns := (found.zip (List.range found.length)).map fun ((file, texts), i) =>
        let lines := bareLines (texts.texts.flatMap Prod.snd)
        if file = ['-'] && 1 < inputs then
          if options.has 's' then if (files.take i).contains ['-'] then [] else lines
          else dealOut inputs lines ((files.take i).count ['-'])
        else lines
      let rows :=
        if options.has 's' then
          columns.map fun lines => pasteRows.joinMarked marks marks lines
        else pasteRows ((columns.map List.length).foldl max 0 + 1) marks columns
      { request.say (linesText rows) with
        rest := if files.contains ['-'] then [] else request.input }

/-- Where the next character begins. -/
def nextColumn (bytes : Bool) (column : Nat) (c : Char) : Nat :=
  if bytes then column + 1
  else if c = '\t' then column / 8 * 8 + 8
  else if c = '\r' then 0
  else if c = '\x08' then column - 1
  else column + 1

/-- The first piece of a line that is not wider than a width, and what is left. -/
def foldPiece (bytes : Bool) (width column : Nat) : List Char → List Char × List Char
  | [] => ([], [])
  | c :: rest =>
    let next := nextColumn bytes column c
    if width < next && column != 0 then ([], c :: rest)
    else
      let (piece, more) := foldPiece bytes width next rest
      (c :: piece, more)

/-- Pieces of a line that are not wider than a width, broken behind blanks if that is asked
for. -/
def foldLine (fuel : Nat) (bytes blanks : Bool) (width : Nat) (line : List Char) : List (List Char) :=
  match fuel with
  | 0 => [line]
  | fuel + 1 =>
    let (piece, rest) := foldPiece bytes width 0 line
    if rest.isEmpty then [piece]
    else
      let kept := (piece.reverse.dropWhile fun c => c != ' ' && c != '\t').reverse
      if blanks && !kept.isEmpty then
        kept :: foldLine fuel bytes blanks width (line.drop kept.length)
      else piece :: foldLine fuel bytes blanks width rest

/-- Break lines that are too wide. -/
def fold : Utility := fun request =>
  let arguments := match request.arguments with
    | ('-' :: c :: rest) :: more =>
      if c.isDigit then ['-', 'w'] :: (c :: rest) :: more else request.arguments
    | arguments => arguments
  let options := takeArguments "bs" "w" [("bytes", 'b'), ("spaces", 's'), ("width", 'w')] false
    arguments
  let given := (options.value? 'w').getD "80".toList
  match options.refusal? request 1, count? given with
  | some refusal, _ => refusal
  | none, none | none, some 0 => request.refuse 1 ("invalid number of columns: " ++ quoted given)
  | none, some width =>
    request.filtered options.operands 1 fun texts =>
      (texts.flatMap fun text => fullLines text.2).flatMap fun line =>
        let ended := line.getLast? = some '\n'
        let bare := if ended then line.dropLast else line
        joinWith ['\n'] (foldLine (bare.length + 1) (options.has 'b') (options.has 's') width bare) ++
          (if ended then ['\n'] else [])

/-- The last character first. -/
def rev : Utility := fun request =>
  let texts := request.texts request.arguments fun file trouble =>
    "cannot open " ++ toText file ++ ": " ++ trouble.words
  let lines := (texts.texts.flatMap fun text => fullLines text.2).map fun line =>
    if line.getLast? = some '\n' then line.dropLast.reverse ++ ['\n'] else line.reverse
  { request.answer (if texts.complaints.isEmpty then 0 else 1)
      (texts.complaints ++ [(1, lines.flatten)]) with
    rest := if texts.usedInput then [] else request.input }

/-- A text with blanks in place of tabs. -/
def expandTabs (size : Nat) : (column : Nat) → List Char → List Char
  | _, [] => []
  | column, c :: rest =>
    if c = '\t' then
      let width := size - column % size
      List.replicate width ' ' ++ expandTabs size (column + width) rest
    else c :: expandTabs size (if c = '\n' then 0 else column + 1) rest

/-- Put blanks in place of tabs. -/
def expand : Utility := fun request =>
  let options := takeArguments "i" "t" [("tabs", 't'), ("initial", 'i')] false request.arguments
  match options.refusal? request 1 with
  | some refusal => refusal
  | none =>
    let size := max 1 (((options.value? 't').bind count?).getD 8)
    request.filtered options.operands 1 fun texts => expandTabs size 0 (texts.flatMap Prod.snd)

end Checkup.Shell
