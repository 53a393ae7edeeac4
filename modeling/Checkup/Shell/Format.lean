import Checkup.Number.Decimal
import Checkup.Shell.Bytes

/-!
# Formats

Escapes, and the directives with which numbers and texts are written.
-/

namespace Checkup.Shell

/-- The character of a one-letter escape. -/
def escapeLetter? : Char → Option Char
  | 'a' => some '\x07'
  | 'b' => some '\x08'
  | 'e' => some '\x1b'
  | 'f' => some '\x0c'
  | 'n' => some '\n'
  | 'r' => some '\r'
  | 't' => some '\t'
  | 'v' => some '\x0b'
  | '\\' => some '\\'
  | _ => none

/-- Octal digits at the head of a text, up to three. -/
def octalStart (text : List Char) : List Char := (text.take 3).takeWhile (isDigitOf 8)

/-- The character of an escape behind its backslash, and how much of the text it takes. An
escape that is none is the backslash alone. -/
def escape (text : List Char) : Char × Nat :=
  let digits := octalStart text
  if !digits.isEmpty then (Char.ofNat (digitsValue 8 digits % 256), digits.length)
  else match text.head?.bind escapeLetter? with
    | some c => (c, 1)
    | none => ('\\', 0)

/-- A text with its escapes replaced; a mark tells that all output ends there. An octal
number may have a zero more in front. -/
def unescape (text : List Char) : List Char × Bool :=
  match text with
  | [] => ([], false)
  | '\\' :: 'c' :: _ => ([], true)
  | '\\' :: rest =>
    let start := match rest with
      | '0' :: c :: _ => if isDigitOf 8 c then rest.drop 1 else rest
      | rest => rest
    let (c, length) := escape start
    let (more, ends) := unescape ((start.drop length).drop ((start.drop length).length - rest.length))
    (c :: more, ends)
  | c :: rest =>
    let (more, ends) := unescape rest
    (c :: more, ends)
termination_by text.length
decreasing_by all_goals (simp only [List.length_cons, List.length_drop]; omega)

/-- How a directive writes its argument. -/
structure Directive where
  flags : List Char := []
  width : Nat := 0
  precision : Option Nat := none
  kind : Char

namespace Directive

/-- A flag is set. -/
def has (directive : Directive) (flag : Char) : Bool := directive.flags.contains flag

/-- A text with blanks up to the width. -/
def padded (directive : Directive) (text : List Char) : List Char :=
  let blanks := List.replicate (directive.width - text.length) ' '
  if directive.has '-' then text ++ blanks else blanks ++ text

/-- A sign and a number, with zeros or blanks up to the width. -/
def signed (directive : Directive) (zeros : Bool) (sign digits : List Char) : List Char :=
  if zeros && directive.has '0' && !directive.has '-' then
    sign ++ List.replicate (directive.width - sign.length - digits.length) '0' ++ digits
  else directive.padded (sign ++ digits)

/-- The sign of a number. -/
def sign (directive : Directive) (negative : Bool) : List Char :=
  if negative then ['-']
  else if directive.has '+' then ['+']
  else if directive.has ' ' then [' ']
  else []

/-- A text, cut at the precision. -/
def text (directive : Directive) (text : List Char) : List Char :=
  directive.padded ((directive.precision.map text.take).getD text)

/-- Digits with zeros up to the precision; zero has none if the precision is zero. -/
def places (directive : Directive) (digits : List Char) : List Char :=
  let digits := if directive.precision = some 0 && digits = ['0'] then [] else digits
  List.replicate (directive.precision.getD 0 - digits.length) '0' ++ digits

/-- A whole number. -/
def whole (directive : Directive) (value : Int) : List Char :=
  let unsigned := (value.emod (Nat.pow 2 64)).toNat
  let zeros := directive.precision.isNone
  match directive.kind with
  | 'u' => directive.signed zeros [] (directive.places (Nat.toDigits 10 unsigned))
  | 'o' =>
    let digits := directive.places (Nat.toDigits 8 unsigned)
    directive.signed zeros []
      (if directive.has '#' && digits.head? != some '0' then '0' :: digits else digits)
  | 'x' | 'X' =>
    let upper := directive.kind = 'X'
    let digits := directive.places (Nat.toDigits 16 unsigned)
    directive.signed zeros
      (if directive.has '#' && unsigned != 0 then ['0', directive.kind] else [])
      (if upper then digits.map Char.toUpper else digits)
  | _ =>
    directive.signed zeros (directive.sign (value < 0))
      (directive.places (Nat.toDigits 10 value.natAbs))

/-- A ratio with so many places behind the point. -/
def fixedPoint (numerator denominator places : Nat) (point : Bool) : List Char :=
  let digits := Nat.toDigits 10 (Binary64.roundHalfEven (numerator * Nat.pow 10 places) denominator)
  let digits := List.replicate (places + 1 - digits.length) '0' ++ digits
  let before := digits.take (digits.length - places)
  before ++ (if places = 0 then if point then ['.'] else [] else '.' :: digits.drop before.length)

/-- The digits of a positive ratio, so many behind the first, and the power of the first. -/
def leadingDigits (numerator denominator places : Nat) : List Char × Int :=
  if numerator = 0 then (List.replicate (places + 1) '0', 0)
  else
    let power := Binary64.leadingPower numerator denominator
    let shift : Int := places - power
    let rounded := Binary64.roundHalfEven (numerator * Nat.pow 10 shift.toNat)
      (denominator * Nat.pow 10 (-shift).toNat)
    let digits := Nat.toDigits 10 rounded
    if places + 1 < digits.length then (digits.take (places + 1), power + 1) else (digits, power)

/-- Digits with a power of ten. -/
def powered (digits : List Char) (power : Int) (point : Bool) (mark : Char) : List Char :=
  let behind := digits.drop 1
  let size := Nat.toDigits 10 power.natAbs
  digits.take 1 ++ (if behind.isEmpty then if point then ['.'] else [] else '.' :: behind) ++
    [mark, if power < 0 then '-' else '+'] ++ List.replicate (2 - size.length) '0' ++ size

/-- Digits behind a point without zeros at their end. -/
def withoutLastZeros (digits : List Char) : List Char :=
  if digits.contains '.' then
    ((digits.reverse.dropWhile (· = '0')).dropWhile (· = '.')).reverse
  else digits

/-- A number with a point. -/
def float (directive : Directive) (value : Binary64) : List Char :=
  let upper := directive.kind.isUpper
  let named (negative : Bool) (name : String) : List Char :=
    let name := if upper then name.toUpper else name
    directive.padded (directive.sign negative ++ name.toList)
  match value with
  | .nan => named false "nan"
  | .infinite negative => named negative "inf"
  | .finite negative mantissa exponent =>
    let (numerator, denominator) := Binary64.ratio mantissa exponent
    let places := directive.precision.getD 6
    let point := directive.has '#'
    let mark := if upper then 'E' else 'e'
    let digits := match directive.kind.toLower with
      | 'f' => fixedPoint numerator denominator places point
      | 'e' =>
        let (digits, power) := leadingDigits numerator denominator places
        powered digits power point mark
      | _ =>
        let places := max places 1
        let (digits, power) := leadingDigits numerator denominator (places - 1)
        if -4 ≤ power && power < places then
          let text := fixedPoint numerator denominator (places - 1 - power).toNat point
          if point then text else withoutLastZeros text
        else if point then powered digits power point mark
        else
          let behind := ((digits.drop 1).reverse.dropWhile (· = '0')).reverse
          powered (digits.take 1 ++ behind) power point mark
    directive.signed true (directive.sign negative) digits

end Directive

/-- A number with a point at the head of a text, whether it is too large, and the text
behind it. Nothing is there if no number is. -/
def scanFloat? (text : List Char) : Option (Binary64 × Bool × List Char) :=
  let trimmed := text.dropWhile isSpace
  let (negative, rest) := match trimmed with
    | '-' :: rest => (true, rest)
    | '+' :: rest => (false, rest)
    | rest => (false, rest)
  let lower := rest.map Char.toLower
  if "infinity".toList.isPrefixOf lower then some (.infinite negative, false, rest.drop 8)
  else if "inf".toList.isPrefixOf lower then some (.infinite negative, false, rest.drop 3)
  else if "nan".toList.isPrefixOf lower then some (.nan, false, rest.drop 3)
  else
    let (base, rest) := detectBase rest
    let base := if base = 8 then 10 else base
    let before := rest.takeWhile (isDigitOf base)
    let rest := rest.drop before.length
    let behind := match rest with
      | '.' :: rest => rest.takeWhile (isDigitOf base)
      | _ => []
    if before.isEmpty && behind.isEmpty then none
    else
      let rest := if rest.head? = some '.' then rest.drop (behind.length + 1) else rest
      let (power, rest) := takePower (if base = 16 then 'p' else 'e') rest
      let digits := digitsValue base (before ++ behind)
      let value :=
        if base = 16 then
          let power := power - 4 * behind.length
          .ofRatio negative (digits * Nat.pow 2 power.toNat) (Nat.pow 2 (-power).toNat)
        else .ofDecimal negative digits (power - behind.length)
      let tooLarge := match value with
        | .infinite _ => true
        | _ => false
      some (value, tooLarge, rest)
where
  /-- The power at the head of a text behind its mark, and the text behind it. -/
  takePower (mark : Char) (text : List Char) : Int × List Char :=
    match text with
    | c :: rest =>
      if c.toLower != mark then (0, text)
      else
        let (negative, digits) := match rest with
          | '-' :: rest => (true, rest)
          | '+' :: rest => (false, rest)
          | rest => (false, rest)
        let power := digits.takeWhile Char.isDigit
        if power.isEmpty then (0, text)
        else
          let size : Int := digitsValue 10 power
          (if negative then -size else size, digits.drop power.length)
    | [] => (0, text)

end Checkup.Shell
