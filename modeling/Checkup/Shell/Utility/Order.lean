import Checkup.Shell.Utility.Numbers

/-!
# Order

Utilities that put lines in order, or compare lines that are in order.
-/

namespace Checkup.Shell

/-- How lines are compared by a part of them. -/
structure SortKey where
  /-- Where the part starts: a field and a character, both counted from zero. -/
  startField : Nat := 0
  startChar : Nat := 0
  /-- Where the part ends: a field, and so many of its characters if that is given. -/
  endField : Option Nat := none
  endChar : Nat := 0
  /-- Letters that say how the parts are compared. -/
  letters : List Char := []

/-- Fields with the blanks in front of them. -/
def blankFields : (inField : Bool) → List Char → List (List Char)
  | _, [] => [[]]
  | inField, c :: rest =>
    let isBlank := c = ' ' || c = '\t'
    match blankFields (!isBlank) rest with
    | [] => [[c]]
    | field :: fields => if isBlank && inField then [] :: (c :: field) :: fields else (c :: field) :: fields

/-- The fields of a line, each with what separates it from the one behind it. -/
def sortFields (separator : Option Char) (line : List Char) : List (List Char) :=
  match separator with
  | none => blankFields false line
  | some separator =>
    let pieces := splitAt separator line
    pieces.dropLast.map (· ++ [separator]) ++ (pieces.getLast?.map ([·])).getD []

/-- The part of a line that a key names. -/
def SortKey.part (key : SortKey) (separator : Option Char) (line : List Char) : List Char :=
  let fields := sortFields separator line
  let length (count : Nat) : Nat := ((fields.take count).map List.length).foldl (· + ·) 0
  let blanks (field : Nat) : Nat :=
    if key.letters.contains 'b' then
      (((fields[field]?).getD []).takeWhile fun c => c = ' ' || c = '\t').length
    else 0
  let start := length key.startField + blanks key.startField + key.startChar
  let stop := match key.endField with
    | none => line.length
    | some field =>
      if key.endChar = 0 then
        length (field + 1) -
          (if separator.isSome && field + 1 < fields.length then 1 else 0)
      else min (length field + blanks field + key.endChar) (length (field + 1))
  (line.take stop).drop start

/-- The number at the head of a text. -/
def leadingNumber (text : List Char) : DecimalNumber :=
  let trimmed := text.dropWhile fun c => c = ' ' || c = '\t'
  let (negative, unsigned) := match trimmed with
    | '-' :: rest => (true, rest)
    | rest => (false, rest)
  let before := unsigned.takeWhile Char.isDigit
  let behind := match unsigned.drop before.length with
    | '.' :: rest => rest.takeWhile Char.isDigit
    | _ => []
  let size : Int := digitsValue 10 (before ++ behind)
  ⟨if negative then -size else size, behind.length⟩

/-- The order of two numbers. -/
def DecimalNumber.compare (a b : DecimalNumber) : Ordering :=
  let places := max a.places b.places
  Ord.compare (a.scaled places) (b.scaled places)

/-- How large a number is by the letter behind it. -/
def magnitude (text : List Char) : Int :=
  let number := leadingNumber text
  let rest := (text.dropWhile fun c => c = ' ' || c = '\t' || c = '-').dropWhile fun c =>
    c.isDigit || c = '.'
  let size : Int := match "KMGTPEZY".toList.idxOf? (rest.headD ' ').toUpper with
    | some i => i + 1
    | none => 0
  if number.digits < 0 then -size else if number.digits = 0 then 0 else size

/-- The order of texts by their bytes. -/
def compareTexts (a b : List Char) : Ordering :=
  if a = b then .eq else if textBefore a b then .lt else .gt

/-- The order of texts that hold numbers: runs of digits are compared as numbers. -/
def compareVersions (fuel : Nat) (a b : List Char) : Ordering :=
  match fuel with
  | 0 => .eq
  | fuel + 1 =>
    let isWord (c : Char) : Bool := !c.isDigit
    let heads := compareTexts (a.takeWhile isWord) (b.takeWhile isWord)
    if heads != .eq then heads
    else
      let a := a.dropWhile isWord
      let b := b.dropWhile isWord
      if a.isEmpty && b.isEmpty then .eq
      else
        let value (text : List Char) : Nat := digitsValue 10 (text.takeWhile Char.isDigit)
        let numbers := compare (value a) (value b)
        if numbers != .eq then numbers
        else compareVersions fuel (a.dropWhile Char.isDigit) (b.dropWhile Char.isDigit)

/-- The order of two parts by some letters. -/
def compareParts (letters : List Char) (a b : List Char) : Ordering :=
  let has (letter : Char) : Bool := letters.contains letter
  let change (text : List Char) : List Char :=
    let text := if has 'd' then text.filter fun c => c.isAlphanum || c = ' ' || c = '\t' else text
    let text := if has 'i' then text.filter fun c => 32 ≤ c.toNat && c.toNat < 127 else text
    if has 'f' then text.map Char.toUpper else text
  let order :=
    if has 'n' || has 'g' then (leadingNumber a).compare (leadingNumber b)
    else if has 'h' then
      (compare (magnitude a) (magnitude b)).then ((leadingNumber a).compare (leadingNumber b))
    else if has 'V' then compareVersions (a.length + b.length + 1) a b
    else compareTexts (change a) (change b)
  if has 'r' then order.swap else order

/-- How lines are put in order. -/
structure Sorting where
  keys : List SortKey
  separator : Option Char
  /-- Letters that say how whole lines are compared. -/
  letters : List Char
  /-- Lines whose parts are equal keep their order. -/
  stable : Bool
  /-- Of such lines only the first is kept. -/
  unique : Bool

namespace Sorting

/-- The order of two lines by the parts that are compared. -/
def compareKeys (sorting : Sorting) (a b : List Char) : Ordering :=
  sorting.keys.foldl (fun order key =>
    order.then (compareParts key.letters (key.part sorting.separator a)
      (key.part sorting.separator b))) .eq

/-- The order of two lines. -/
def compare (sorting : Sorting) (a b : List Char) : Ordering :=
  let order := sorting.compareKeys a b
  if order != .eq || sorting.stable || sorting.unique then order
  else
    let whole := compareTexts a b
    if sorting.letters.contains 'r' then whole.swap else whole

/-- The first of lines whose parts are equal. -/
def firstOnes (sorting : Sorting) : List (List Char) → List (List Char)
  | [] => []
  | line :: rest =>
    match firstOnes sorting rest with
    | next :: more =>
      if sorting.compareKeys line next = .eq then line :: more else line :: next :: more
    | [] => [line]

/-- Lines in order. -/
def sort (sorting : Sorting) (lines : List (List Char)) : List (List Char) :=
  let sorted := lines.mergeSort fun a b => sorting.compare a b != .gt
  if sorting.unique then sorting.firstOnes sorted else sorted

/-- The first line that is out of order, and its number. -/
def disorder? (sorting : Sorting) : (number : Nat) → List (List Char) → Option (Nat × List Char)
  | number, a :: b :: rest =>
    let order := sorting.compare a b
    if order = .gt || (sorting.unique && order = .eq) then some (number + 1, b)
    else disorder? sorting (number + 1) (b :: rest)
  | _, _ => none

end Sorting

/-- A place in a line: a field, a character of it, and the text behind. -/
def sortPlace? (text : List Char) : Option (Nat × Option Nat × List Char) :=
  let field := text.takeWhile Char.isDigit
  let rest := text.drop field.length
  if field.isEmpty then none
  else match rest with
    | '.' :: rest =>
      let char := rest.takeWhile Char.isDigit
      if char.isEmpty then none
      else some (digitsValue 10 field, some (digitsValue 10 char), rest.drop char.length)
    | rest => some (digitsValue 10 field, none, rest)

/-- The key that an option names, or what is wrong with it. -/
def sortKey (usual : List Char) (text : List Char) : Except String SortKey :=
  let isLetter (c : Char) : Bool := "bdfgiMhnRrV".toList.contains c
  match sortPlace? text with
  | none =>
    .error ("invalid number at field start: invalid count at start of " ++ quoted text)
  | some (field, char?, rest) =>
    if field = 0 then
      .error ("field number is zero: invalid field specification " ++ quoted text)
    else if char? = some 0 then
      .error ("character offset is zero: invalid field specification " ++ quoted text)
    else
      let letters := rest.takeWhile isLetter
      let rest := rest.drop letters.length
      let key : SortKey := { startField := field - 1, startChar := char?.getD 1 - 1 }
      let finish (key : SortKey) (letters : List Char) : SortKey :=
        { key with letters := if letters.isEmpty then usual else letters }
      match rest with
      | [] => .ok (finish key letters)
      | ',' :: stop =>
        match sortPlace? stop with
        | none =>
          .error ("invalid number after ',': invalid count at start of " ++ quoted stop)
        | some (field, char?, more) =>
          if field = 0 then
            .error ("field number is zero: invalid field specification " ++ quoted text)
          else
            let others := more.takeWhile isLetter
            if others.length < more.length then
              .error ("stray character in field spec: invalid field specification " ++ quoted text)
            else
              .ok (finish { key with endField := some (field - 1), endChar := char?.getD 0 }
                (letters ++ others))
      | _ =>
        .error ("stray character in field spec: invalid field specification " ++ quoted text)

/-- Put lines in order. -/
def sort : Utility := fun request =>
  let options := takeArguments "bdfgiMhnRrVcCmsuz" "ktoST"
    [("ignore-leading-blanks", 'b'), ("dictionary-order", 'd'), ("ignore-case", 'f'),
     ("general-numeric-sort", 'g'), ("human-numeric-sort", 'h'), ("numeric-sort", 'n'),
     ("reverse", 'r'), ("version-sort", 'V'), ("check", 'c'), ("key", 'k'), ("merge", 'm'),
     ("output", 'o'), ("stable", 's'), ("field-separator", 't'), ("unique", 'u')] false
    request.arguments
  let letters := (options.options.map Prod.fst).filter fun c => "bdfgiMhnRrV".toList.contains c
  let given := (options.options.filter (·.1 = 'k')).map Prod.snd
  let mark := options.value? 't'
  match options.refusal? request 2, given.mapM (sortKey letters) with
  | some refusal, _ => refusal
  | none, .error words => request.refuse 2 words
  | none, .ok keys =>
    if mark.any fun mark => 1 < mark.length && mark != "\\0".toList then
      request.refuse 2 ("multi-character tab " ++ quoted (mark.getD []))
    else if mark = some [] then request.refuse 2 "empty tab"
    else if (options.has 'c' || options.has 'C') && 1 < options.operands.length then
      request.refuse 2 ("extra operand " ++ quoted ((options.operands[1]?).getD []) ++
        " not allowed with -" ++ (if options.has 'c' then "c" else "C"))
    else
      let separator := mark.map fun mark => if mark = "\\0".toList then null else mark.headD null
      let sorting : Sorting :=
        { keys := if keys.isEmpty then [{ letters }] else keys, separator, letters
          stable := options.has 's', unique := options.has 'u' }
      let trouble (file : List Char) (trouble : FileTrouble) : String :=
        (if trouble = .isFolder then "read failed: " else "cannot read: ") ++ troubleWith file trouble
      let texts := request.texts options.operands trouble
      let rest := if texts.usedInput then [] else request.input
      match texts.complaints with
      | complaint :: _ => { request.answer 2 [complaint] with rest }
      | [] =>
        let zero := options.has 'z'
        let lines (text : List Char) : List (List Char) :=
          if zero then
            let pieces := splitAt null text
            if pieces.getLast? = some [] then pieces.dropLast else pieces
          else bareLines text
        if options.has 'c' || options.has 'C' then
          let name := options.operands.headD ['-']
          match sorting.disorder? 1 (texts.texts.flatMap fun text => lines text.2) with
          | none => { request.answer 0 [] with rest }
          | some (number, line) =>
            let complaint := request.complaint (toText name ++ ":" ++ toString number ++
              ": disorder: " ++ toText line)
            { request.answer 1 (if options.has 'C' then [] else [complaint]) with rest }
        else
          let sorted := sorting.sort (texts.texts.flatMap fun text => lines text.2)
          let text := if zero then sorted.flatMap (· ++ [null]) else linesText sorted
          match options.value? 'o' with
          | none => { request.say text with rest }
          | some file =>
            match putText request.tree file text with
            | .ok tree => { request.answer 0 [] with rest, tree }
            | .error trouble => request.refuse 2 ("open failed: " ++ troubleWith file trouble)

/-- The lines of two texts side by side: those of the first alone, of the second alone, and
of both. -/
def mergeLines (fuel : Nat) (a b : List (List Char)) : List (Nat × List Char) :=
  match fuel, a, b with
  | 0, _, _ => []
  | _, [], b => b.map (1, ·)
  | _, a, [] => a.map (0, ·)
  | fuel + 1, x :: a, y :: b =>
    match compareTexts x y with
    | .eq => (2, x) :: mergeLines fuel a b
    | .lt => (0, x) :: mergeLines fuel a (y :: b)
    | .gt => (1, y) :: mergeLines fuel (x :: a) b

/-- Compare the lines of two files that are in order. -/
def comm : Utility := fun request =>
  let options := takeArguments "123" "" [("check-order", 'c'), ("nocheck-order", 'n')] false
    request.arguments
  match options.refusal? request 1, options.operands with
  | some refusal, _ => refusal
  | none, [] => request.refuseUse 1 "missing operand"
  | none, [file] => request.refuseUse 1 ("missing operand after " ++ quoted file)
  | none, _ :: _ :: extra :: _ => request.refuseUse 1 ("extra operand " ++ quoted extra)
  | none, files =>
    let texts := request.texts files troubleWith
    let rest := if texts.usedInput then [] else request.input
    match texts.complaints, texts.texts with
    | [], [a, b] =>
      let first := bareLines a.2
      let second := bareLines b.2
      let hidden (column : Nat) : Bool := options.has (Char.ofNat (49 + column))
      let tabs (column : Nat) : List Char :=
        ((List.range column).filter (!hidden ·)).map fun _ => '\t'
      let rows := (mergeLines (first.length + second.length + 1) first second).filter fun row =>
        !hidden row.1
      let unpaired := (mergeLines (first.length + second.length + 1) first second).any (·.1 != 2)
      let isSorted (lines : List (List Char)) : Bool :=
        (lines.zip (lines.drop 1)).all fun (a, b) => textBefore a b
      let complaints := ((if isSorted first then [] else ["1"]) ++ if isSorted second then [] else ["2"]).map
        fun number => request.complaint ("file " ++ number ++ " is not in sorted order")
      let complaints := if !unpaired || complaints.isEmpty || options.has 'n' then []
        else complaints ++ [request.complaint "input is not in sorted order"]
      { request.answer (if complaints.isEmpty then 0 else 1)
          (complaints ++ [(1, rows.flatMap fun (column, line) => tabs column ++ line ++ ['\n'])]) with rest }
    | complaint :: _, _ => { request.answer 1 [complaint] with rest }
    | [], _ => { request.answer 1 [] with rest }

end Checkup.Shell
