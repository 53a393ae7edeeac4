import Checkup.Shell.Utility
import Checkup.Shell.Wildcard

/-!
# Characters

Utilities that replace or drop single characters, or show them as numbers.
-/

namespace Checkup.Shell

/-- Some characters of a set. -/
inductive SetItem where
  | some (characters : List Char)
  /-- One of the classes, by its name. -/
  | all (name : List Char) (characters : List Char)
  /-- One character as often as is needed. -/
  | fill (c : Char)

/-- A character that a set names, and the text behind it. A backslash makes an escape of
what is behind it. -/
def takeMember : List Char → Char × List Char
  | '\\' :: c :: rest =>
    let digits := octalStart (c :: rest)
    if !digits.isEmpty then
      (Char.ofNat (digitsValue 8 digits % 256), (c :: rest).drop digits.length)
    else if c = 'e' then ('e', rest)
    else ((escapeLetter? c).getD c, rest)
  | c :: rest => (c, rest)
  | [] => (null, [])

/-- All characters from one to another. -/
def charactersBetween (low high : Char) : List Char :=
  (List.range (high.toNat + 1 - low.toNat)).map fun i => Char.ofNat (low.toNat + i)

/-- All bytes. -/
def allBytes : List Char := (List.range 256).map Char.ofNat

/-- The items of a set that is written out, or what is wrong with it. -/
def readSet (fuel : Nat) (text : List Char) : Except String (List SetItem) :=
  match fuel, text with
  | 0, _ | _, [] => .ok []
  | fuel + 1, text =>
    let single : Except String (List SetItem) := do
      let (low, rest) := takeMember text
      match rest with
      | '-' :: c :: more =>
        let (high, behind) := takeMember (c :: more)
        if high < low then
          .error ("range-endpoints of " ++ quoted [low, '-', high] ++
            " are in reverse collating sequence order")
        else do
          let others ← readSet fuel behind
          .ok (.some (charactersBetween low high) :: others)
      | rest => do
        let others ← readSet fuel rest
        .ok (.some [low] :: others)
    match text with
    | '[' :: ':' :: rest =>
      let name := rest.takeWhile (· != ':')
      match rest.drop name.length with
      | ':' :: ']' :: behind =>
        match takeClass? (':' :: rest) with
        | none => .error ("invalid character class " ++ quoted name)
        | some (has, _) => do
          let others ← readSet fuel behind
          .ok (.all name (allBytes.filter has) :: others)
      | _ => single
    | '[' :: '=' :: c :: '=' :: ']' :: rest => do
      let others ← readSet fuel rest
      .ok (.some [c] :: others)
    | '[' :: rest =>
      let (c, behind) := takeMember rest
      match behind with
      | '*' :: more =>
        let digits := more.takeWhile Char.isDigit
        match more.drop digits.length with
        | ']' :: behind => do
          let others ← readSet fuel behind
          let count := digitsValue (if digits.head? = some '0' then 8 else 10) digits
          if count = 0 then .ok (.fill c :: others)
          else .ok (.some (List.replicate count c) :: others)
        | _ => single
      | _ => single
    | _ => single

/-- The characters of a set, which may be filled up to a length. -/
def setMembers (length : Nat) (items : List SetItem) : List Char :=
  let fixed := items.foldl (fun count item => match item with
    | .some characters | .all _ characters => count + characters.length
    | .fill _ => count) 0
  items.flatMap fun
    | .some characters | .all _ characters => characters
    | .fill c => List.replicate (length - fixed) c

/-- The pairs of characters and what takes their place. The last one stands for all that
have none of their own. -/
def replacements (source target : List Char) : List (Char × Char) :=
  let last := target.getLastD null
  source.zip (target ++ List.replicate (source.length - target.length) last)

/-- What takes the place of each byte; later pairs count. -/
def replacementTable (pairs : List (Char × Char)) : Array Char :=
  pairs.foldl (fun table (c, d) => table.set! c.toNat d) allBytes.toArray

/-- Characters of a set in a row are made one. -/
def squeeze (has : Char → Bool) : (last : Option Char) → List Char → List Char
  | _, [] => []
  | last, c :: rest =>
    if has c && last = some c then squeeze has last rest else c :: squeeze has (some c) rest

/-- A table of the bytes of a set. -/
def setTable (set : List Char) : Array Bool :=
  set.foldl (fun table c => table.set! c.toNat true) (Array.replicate 256 false)

/-- Replace, drop or squeeze characters. -/
def tr : Utility := fun request =>
  let options := takeArguments "cCdst" ""
    [("complement", 'c'), ("delete", 'd'), ("squeeze-repeats", 's'), ("truncate-set1", 't')] true
    request.arguments
  let deletes := options.has 'd'
  let squeezes := options.has 's'
  let most := if deletes && !squeezes then 1 else 2
  let least := if deletes = squeezes then 2 else 1
  let sets := options.operands
  match options.refusal? request 1 with
  | some refusal => refusal
  | none =>
    if sets.isEmpty then request.refuseUse 1 "missing operand"
    else if sets.length < least then
      request.refuseUse 1 ("missing operand after " ++ quoted (sets.headD []) ++ "\n" ++
        (if deletes then "Two strings must be given when both deleting and squeezing repeats."
          else "Two strings must be given when translating."))
    else if most < sets.length then
      request.refuseUse 1 ("extra operand " ++ quoted ((sets[most]?).getD []) ++
        (if deletes && !squeezes && sets.length = 2 then
          "\nOnly one string may be given when deleting without squeezing repeats." else ""))
    else
      let translates := !deletes && sets.length = 2
      match sets.mapM fun set => readSet (set.length + 1) set with
      | .error words => request.refuse 1 words
      | .ok items =>
        let first := setMembers 0 (items.headD [])
        let first := if options.has 'c' || options.has 'C' then
            allBytes.filter fun c => !first.contains c
          else first
        let second := (items.drop 1).headD []
        let strange := second.any fun
          | .all name _ => name != "lower".toList && name != "upper".toList
          | _ => false
        let second := setMembers first.length second
        if translates && strange then
          request.refuse 1
            "when translating, the only character classes that may appear in\nstring2 are 'upper' and 'lower'"
        else if translates && second.isEmpty && !options.has 't' then
          request.refuse 1 "when not truncating set1, string2 must be non-empty"
        else
          let inFirst := setTable first
          let inSecond := setTable second
          let text :=
            if deletes then request.input.filter fun c => !inFirst[c.toNat]!
            else if translates then
              let table := replacementTable (if options.has 't' then first.zip second
                else replacements first second)
              request.input.map fun c => table[c.toNat]!
            else request.input
          let text :=
            if !squeezes then text
            else
              let table := if sets.length = 2 then inSecond else inFirst
              squeeze (fun c => table[c.toNat]!) none text
          if request.inputIsFolder then
            request.refuse 1 "read error: Is a directory"
          else if !request.hasInput then request.refuse 1 "read error: Bad file descriptor"
          else { request.say text with rest := [] }

/-- How bytes are shown: as what, and how many at a time. -/
structure DumpFormat where
  kind : Char
  size : Nat

namespace DumpFormat

/-- The width of a number, without the blank in front of it. -/
def width (format : DumpFormat) : Nat :=
  let bits := 8 * format.size
  match format.kind with
  | 'x' => 2 * format.size
  | 'o' => (bits + 2) / 3
  | 'u' => (toString (Nat.pow 2 bits - 1)).length
  | 'd' => (toString (Nat.pow 2 (bits - 1))).length + 1
  | _ => 3

/-- A byte as a character. -/
def character (c : Char) : List Char :=
  match c.toNat with
  | 0 => "\\0".toList
  | 7 => "\\a".toList
  | 8 => "\\b".toList
  | 9 => "\\t".toList
  | 10 => "\\n".toList
  | 11 => "\\v".toList
  | 12 => "\\f".toList
  | 13 => "\\r".toList
  | code =>
    if 32 ≤ code && code < 127 then [c]
    else
      let digits := Nat.toDigits 8 code
      List.replicate (3 - digits.length) '0' ++ digits

/-- The name of a character. -/
def characterName (c : Char) : List Char :=
  let names := ["nul", "soh", "stx", "etx", "eot", "enq", "ack", "bel", "bs", "ht", "nl", "vt", "ff",
    "cr", "so", "si", "dle", "dc1", "dc2", "dc3", "dc4", "nak", "syn", "etb", "can", "em", "sub",
    "esc", "fs", "gs", "rs", "us", "sp"]
  let code := c.toNat % 128
  if code = 127 then "del".toList
  else match names[code]? with
    | some name => name.toList
    | none => [Char.ofNat code]

/-- Bytes as they are shown. -/
def shown (format : DumpFormat) (bytes : List Char) : List Char :=
  let value := bytes.foldr (fun c value => 256 * value + c.toNat) 0
  let filled (digits : List Char) : List Char :=
    List.replicate (format.width - digits.length) '0' ++ digits
  match format.kind with
  | 'x' => filled (Nat.toDigits 16 value)
  | 'o' => filled (Nat.toDigits 8 value)
  | 'u' => Nat.toDigits 10 value
  | 'd' =>
    let bits := 8 * format.size
    showNumber (if value < Nat.pow 2 (bits - 1) then value else (value : Int) - Nat.pow 2 bits)
  | 'a' => characterName (bytes.headD null)
  | _ => character (bytes.headD null)

/-- Groups of so many bytes. -/
def groups (fuel size : Nat) (bytes : List Char) : List (List Char) :=
  match fuel with
  | 0 => []
  | fuel + 1 => if bytes.isEmpty then [] else bytes.take size :: groups fuel size (bytes.drop size)

/-- The width of eight bytes. -/
def blockWidth (format : DumpFormat) : Nat := (format.width + 1) * (8 / format.size)

/-- The bytes of a row, of which eight are so wide. -/
def row (format : DumpFormat) (blockWidth : Nat) (bytes : List Char) : List Char :=
  (groups bytes.length format.size bytes).flatMap fun group =>
    let text := format.shown group
    List.replicate (blockWidth * format.size / 8 - text.length) ' ' ++ text

/-- The format of a type that is named, and the text behind it. -/
def read? (kind : Char) (text : List Char) : Option (DumpFormat × List Char) :=
  if kind = 'c' || kind = 'a' then some (⟨kind, 1⟩, text)
  else if !"xoud".toList.contains kind then none
  else match text with
    | 'C' :: rest => some (⟨kind, 1⟩, rest)
    | 'S' :: rest => some (⟨kind, 2⟩, rest)
    | 'I' :: rest => some (⟨kind, 4⟩, rest)
    | 'L' :: rest => some (⟨kind, 8⟩, rest)
    | text =>
      let digits := text.takeWhile Char.isDigit
      let size := if digits.isEmpty then 4 else digitsValue 10 digits
      if [1, 2, 4, 8].contains size then some (⟨kind, size⟩, text.drop digits.length) else none

/-- The formats that a text names. -/
def readAll? (fuel : Nat) (text : List Char) : Option (List DumpFormat) :=
  match fuel, text with
  | 0, _ | _, [] => some []
  | fuel + 1, kind :: rest => do
    let (format, rest) ← read? kind rest
    let others ← readAll? fuel rest
    some (format :: others)

end DumpFormat

/-- Rows of bytes with the places where they start. Equal rows are shown once, and an
asterisk for the others. -/
def dumpRows (place : Nat → List Char) (shown : List Char → List (List Char)) (verbose : Bool)
    (size : Nat) : (start : Nat) → (last : Option (List Char)) → (starred : Bool) →
    List (List Char) → List (List Char)
  | start, _, _, [] => if (place start).isEmpty then [] else [place start]
  | start, last, starred, row :: rest =>
    let next := start + row.length
    if !verbose && last = some row && row.length = size then
      (if starred then [] else [['*']]) ++ dumpRows place shown verbose size next last true rest
    else
      let lines := shown row
      let indent := List.replicate (place start).length ' '
      ((lines.zip (List.range lines.length)).map fun (line, i) =>
        (if i = 0 then place start else indent) ++ line) ++
        dumpRows place shown verbose size next (some row) false rest

/-- Show bytes as numbers. -/
def od : Utility := fun request =>
  let options := takeArguments "bcdoxsv" "AtNjw"
    [("address-radix", 'A'), ("format", 't'), ("read-bytes", 'N'), ("skip-bytes", 'j'), ("width", 'w'),
     ("output-duplicates", 'v')] false request.arguments
  let formats? : Option (List (List DumpFormat)) := options.options.mapM fun (letter, value) =>
    match letter with
    | 'b' => some [⟨'o', 1⟩]
    | 'c' => some [⟨'c', 1⟩]
    | 'd' => some [⟨'u', 2⟩]
    | 'o' => some [⟨'o', 2⟩]
    | 'x' => some [⟨'x', 2⟩]
    | 's' => some [⟨'d', 2⟩]
    | 't' => DumpFormat.readAll? (value.length + 1) value
    | _ => some []
  match options.refusal? request 1, formats? with
  | some refusal, _ => refusal
  | none, none =>
    request.refuse 1 ("invalid character '" ++ toText (((options.value? 't').getD []).take 1) ++
      "' in type string " ++ quoted ((options.value? 't').getD []))
  | none, some given =>
    let formats := if given.flatten.isEmpty then [⟨'o', 2⟩] else given.flatten
    let blockWidth := formats.foldl (fun most format => max most format.blockWidth) 0
    let number (letter : Char) : Option Nat := (options.value? letter).bind amount?
    let skipped := (number 'j').getD 0
    let size := max 1 ((number 'w').getD 16)
    let place (start : Nat) : List Char :=
      let filled (width : Nat) (digits : List Char) : List Char :=
        List.replicate (width - digits.length) '0' ++ digits
      match options.value? 'A' with
      | some ['n'] => []
      | some ['d'] => filled 7 (Nat.toDigits 10 start)
      | some ['x'] => filled 6 (Nat.toDigits 16 start)
      | _ => filled 7 (Nat.toDigits 8 start)
    request.filtered options.operands 1 fun texts =>
      let bytes := (texts.flatMap Prod.snd).drop skipped
      let bytes := ((number 'N').map bytes.take).getD bytes
      let rows := DumpFormat.groups (bytes.length + 1) size bytes
      let shown (row : List Char) : List (List Char) := formats.map fun format => format.row blockWidth row
      linesText (dumpRows place shown (options.has 'v') size skipped none false rows)

end Checkup.Shell
