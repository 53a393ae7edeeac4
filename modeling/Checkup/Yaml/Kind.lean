import Checkup.Moment
import Checkup.Yaml.Node

/-!
# Kinds of YAML nodes

The kind of a node follows from its tag. Without a tag a plain scalar is what
it looks like: a truth value, a number, a time, nothing, or else a text.
-/

namespace Checkup.Yaml

/-- What a node stands for. -/
inductive Kind where
  | null
  | bool
  | int
  | float
  | moment
  | binary
  | text
  | list
  | mapping
  | set
  /-- A list of pairs. -/
  | pairs
  /-- The key under which other mappings are merged in. -/
  | merge
  /-- The key of the text that a mapping stands for. -/
  | standIn
  /-- A tag that nothing is known about. -/
  | unknown
  deriving DecidableEq, Repr

/-- A decimal digit. -/
def isDigit (c : Char) : Bool := '0' ≤ c && c ≤ '9'

/-- A decimal digit or an underscore. -/
def isDigitOrBar (c : Char) : Bool := isDigit c || c = '_'

/-- The text without a sign at its head. -/
def unsigned : List Char → List Char
  | '+' :: rest | '-' :: rest => rest
  | text => text

/-- The text after a digit and further digits and underscores. -/
def afterNumber? : List Char → Option (List Char)
  | [] => none
  | c :: rest => if isDigit c then some (rest.dropWhile isDigitOrBar) else none

/-- The text after groups of at most two digits below sixty with a colon before each. -/
def afterSixtieths : List Char → List Char
  | ':' :: a :: b :: rest =>
    if isDigit b then (if '0' ≤ a ∧ a ≤ '5' then afterSixtieths rest else ':' :: a :: b :: rest)
    else if isDigit a then afterSixtieths (b :: rest)
    else ':' :: a :: b :: rest
  | [':', a] => if isDigit a then [] else [':', a]
  | text => text
termination_by text => text.length

/-- Nothing, or an exponent with its sign. -/
def isExponent : List Char → Bool
  | [] => true
  | e :: sign :: c :: rest =>
    (e = 'e' || e = 'E') && (sign = '+' || sign = '-') && isDigit c && rest.all isDigit
  | _ => false

/-- Digits with a point between or behind them, and an exponent. -/
def isPointNumber (text : List Char) : Bool :=
  match afterNumber? text with
  | some ('.' :: rest) => isExponent (rest.dropWhile isDigitOrBar)
  | _ => false

/-- A point with digits behind it, and an exponent. -/
def isFraction : List Char → Bool
  | '.' :: rest => (afterNumber? rest).any isExponent
  | _ => false

/-- Digits in groups to the base of sixty. -/
def isSixtieths (ends : List Char → Bool) (text : List Char) : Bool :=
  match afterNumber? text with
  | some (':' :: rest) =>
    let after := afterSixtieths (':' :: rest)
    decide (after.length < rest.length) && ends after
  | _ => false

/-- A point and further digits. -/
def isPointTail : List Char → Bool
  | '.' :: rest => rest.all isDigitOrBar
  | _ => false

/-- A text that looks like a floating-point number. -/
def looksFloat (text : List Char) : Bool :=
  isPointNumber (unsigned text) || isFraction text || isSixtieths isPointTail (unsigned text) ||
    [".inf", ".Inf", ".INF"].contains (String.ofList (unsigned text)) ||
    [".nan", ".NaN", ".NAN"].contains (String.ofList text)

/-- Digits of a kind, at least one, underscores counted. -/
def isRun (admits : Char → Bool) (text : List Char) : Bool :=
  !text.isEmpty && text.all fun c => admits c || c = '_'

/-- A text without a sign that looks like a whole number. -/
def looksWhole : List Char → Bool
  | ['0'] => true
  | '0' :: 'b' :: rest => isRun (fun c => c = '0' || c = '1') rest
  | '0' :: 'x' :: rest => isRun (fun c => (hexValue? c).isSome) rest
  | '0' :: rest => isRun (fun c => '0' ≤ c && c ≤ '7') rest
  | text => (afterNumber? text).any List.isEmpty || isSixtieths List.isEmpty text

/-- A text that looks like a whole number. -/
def looksInt (text : List Char) : Bool := looksWhole (unsigned text)

/-- Words for truth values. -/
def boolWords : List (String × Bool) :=
  [("yes", true), ("no", false), ("true", true), ("false", false), ("on", true), ("off", false)]

/-- A word in small letters, with a capital, or in capitals. -/
def spellings (word : String) : List String := [word, word.capitalize, word.toUpper]

/-- A text that looks like a truth value. -/
def looksBool (text : String) : Bool := boolWords.any fun entry => (spellings entry.1).contains text

/-- A text that looks like nothing. -/
def looksNull (text : String) : Bool := text = "" || text = "~" || (spellings "null").contains text

/-- A time of day as it is written, with its offset in seconds if there is one. -/
structure ClockText where
  hour : Nat
  minute : Nat
  second : Nat
  fraction : List Char
  offset : Option Int

/-- A date, and a time of day if there is one, as they are written. -/
structure TimeText where
  day : Day
  /-- Month and day have two digits each. -/
  isPadded : Bool
  clock : Option ClockText

/-- The number that decimal digits write. -/
def numberOf (digits : List Char) : Nat :=
  digits.foldl (fun value c => 10 * value + (c.toNat - 48)) 0

/-- Exactly so many digits, and the rest. -/
def takeExactly? (count : Nat) (text : List Char) : Option (List Char × List Char) :=
  let digits := text.take count
  if digits.length = count ∧ digits.all isDigit then some (digits, text.drop count) else none

/-- One or two digits, and the rest. -/
def takeUpToTwo? (text : List Char) : Option (List Char × List Char) :=
  (takeExactly? 2 text).or (takeExactly? 1 text)

/-- The text after a sign that has to be there. -/
def afterSign? (sign : Char) : List Char → Option (List Char)
  | [] => none
  | c :: rest => if c = sign then some rest else none

/-- An offset from universal time up to the end of the text. -/
def offsetText? : List Char → Option Int
  | ['Z'] => some 0
  | sign :: text => do
    let (hours, rest) ← takeUpToTwo? text
    let minutes ← match rest with
      | [] => some []
      | rest => do
        let (minutes, rest) ← takeExactly? 2 (← afterSign? ':' rest)
        if rest.isEmpty then some minutes else none
    let size : Int := 3600 * numberOf hours + 60 * numberOf minutes
    if sign = '+' then some size else if sign = '-' then some (-size) else none
  | [] => none

/-- What stands between a date and a time of day. -/
def afterDate? : List Char → Option (List Char)
  | 'T' :: rest | 't' :: rest => some rest
  | c :: rest => if isGap c then some (rest.dropWhile isGap) else none
  | [] => none

/-- A time of day up to the end of the text. -/
def clockText? (text : List Char) : Option ClockText := do
  let (hour, rest) ← takeUpToTwo? text
  let (minute, rest) ← takeExactly? 2 (← afterSign? ':' rest)
  let (second, rest) ← takeExactly? 2 (← afterSign? ':' rest)
  let (fraction, rest) := match rest with
    | '.' :: rest => (rest.takeWhile isDigit, rest.dropWhile isDigit)
    | rest => ([], rest)
  let offset ← match rest with
    | [] => some none
    | rest => (offsetText? (rest.dropWhile isGap)).map some
  some { hour := numberOf hour, minute := numberOf minute, second := numberOf second, fraction, offset }

/-- A date up to the end of the text, or up to a time of day. -/
def timeText? (text : List Char) : Option TimeText := do
  let (year, rest) ← takeExactly? 4 text
  let (month, rest) ← takeUpToTwo? (← afterSign? '-' rest)
  let (day, rest) ← takeUpToTwo? (← afterSign? '-' rest)
  let clock ← match rest with
    | [] => some none
    | rest => (afterDate? rest >>= clockText?).map some
  some {
    day := ⟨numberOf year, numberOf month, numberOf day⟩
    isPadded := month.length = 2 && day.length = 2
    clock }

/-- A text that looks like a time; a date without a time of day has to be padded. -/
def looksTime (text : List Char) : Bool :=
  (timeText? text).any fun time => time.isPadded || time.clock.isSome

/-- A text without a line feed at its end, which no look takes into account. -/
def withoutLastBreak (text : List Char) : List Char :=
  if text.getLast? = some '\n' then text.dropLast else text

/-- The kind that a text without a line feed at its end looks like. -/
def kindOfLine (text : String) : Kind :=
  let chars := text.toList
  if looksBool text then .bool
  else if looksFloat chars then .float
  else if looksInt chars then .int
  else if text = "<<" then .merge
  else if looksNull text then .null
  else if looksTime chars then .moment
  else if text = "=" then .standIn
  else if text = "!" || text = "&" || text = "*" then .unknown
  else .text

/-- The kind that a plain scalar looks like. A line feed alone looks like a text. -/
def kindOfLook (text : String) : Kind :=
  if text = "\n" then .text else kindOfLine (String.ofList (withoutLastBreak text.toList))

/-- The tags that are known, without what they all start with. -/
def tagKinds : List (String × Kind) :=
  [("null", .null), ("bool", .bool), ("int", .int), ("float", .float), ("timestamp", .moment),
   ("binary", .binary), ("str", .text), ("seq", .list), ("map", .mapping), ("set", .set),
   ("omap", .pairs), ("pairs", .pairs), ("merge", .merge), ("value", .standIn)]

/-- The kind that a tag names. -/
def kindOfTag (name : String) : Kind :=
  ((tagKinds.find? fun entry => "tag:yaml.org,2002:" ++ entry.1 = name).map (·.2)).getD .unknown

/-- The kind of a node. -/
def Node.kind : Node → Kind
  | .scalar (.named name) _ _ | .sequence (.named name) _ | .mapping (.named name) _ =>
    kindOfTag name
  | .scalar .none isPlain text => if isPlain then kindOfLook text else .text
  | .sequence .none _ => .list
  | .mapping .none _ => .mapping

end Checkup.Yaml
