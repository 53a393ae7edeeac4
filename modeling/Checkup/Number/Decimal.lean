import Checkup.Number.Binary64
import Checkup.Text.Numeral

/-!
# Decimal texts of numbers

The shortest decimal that reads back as a given number, its layout, rounding
to one place, and the number that a decimal text writes.
-/

namespace Checkup

namespace Binary64

/-- The power of ten of the first digit of a positive quotient. -/
def leadingPower (numerator denominator : Nat) : Int :=
  if denominator ≤ numerator then (digitCount (numerator / denominator) : Int) - 1
  else
    let scale := digitCount (denominator / numerator)
    if denominator ≤ numerator * Nat.pow 10 (scale - 1) then -((scale : Int) - 1) else -(scale : Int)

/-- The decimals `digits * 10 ^ power` of the given grid that read back as the
number, the nearer of its two neighbours on the grid first. -/
def readsBackAt (mantissa : Nat) (exponent power : Int) : Option Nat :=
  let (numerator, denominator) := ratio mantissa exponent
  let top := numerator * Nat.pow 10 (-power).toNat
  let bottom := denominator * Nat.pow 10 power.toNat
  let below := top / bottom
  let remainder := top % bottom
  let readsBack (digits : Nat) : Bool := ofDecimal false digits power = .finite false mantissa exponent
  let above := below + 1
  let belowNearer := 2 * remainder < bottom || (2 * remainder = bottom && below % 2 = 0)
  if belowNearer then
    if readsBack below then some below else if readsBack above then some above else none
  else if readsBack above then some above else if readsBack below then some below else none

/-- The digits and the power of ten of the shortest decimal that reads back as
a positive number: the first of the grids with 1, 2, … 17 digits on which one does. -/
def shortest (mantissa : Nat) (exponent : Int) : Nat × Int :=
  let (numerator, denominator) := ratio mantissa exponent
  let leading := leadingPower numerator denominator
  let found := (List.range 17).findSome? fun (further : Nat) =>
    (readsBackAt mantissa exponent (leading - (further : Int))).map fun digits =>
      (digits, leading - (further : Int))
  found.getD (numerator, 0)

/-- Decimal digits of a natural number. -/
def digitsOf (n : Nat) : List Char := Nat.toDigits 10 n

/-- Drop the zeros at the end of a digit run. -/
def dropTrailingZeros (digits : List Char) : List Char :=
  (digits.reverse.dropWhile (· = '0')).reverse

/-- `digits` with the decimal point behind the digit of power zero, where the
first digit has the power `leading`; positional from 10⁻⁴ up to below 10¹⁶, and
with an exponent of at least two digits otherwise. -/
def layout (digits : List Char) (leading : Int) : List Char :=
  if -4 ≤ leading ∧ leading < 0 then
    "0.".toList ++ List.replicate (-leading - 1).toNat '0' ++ digits
  else if 0 ≤ leading ∧ leading < 16 then
    let places := leading.toNat + 1
    let whole := digits.take places ++ List.replicate (places - digits.length) '0'
    let fraction := digits.drop places
    whole ++ '.' :: (if fraction.isEmpty then ['0'] else fraction)
  else
    let fraction := digits.drop 1
    let mark := if leading < 0 then ['e', '-'] else ['e', '+']
    let power := digitsOf leading.natAbs
    let power := if power.length < 2 then '0' :: power else power
    digits.take 1 ++ (if fraction.isEmpty then [] else '.' :: fraction) ++ mark ++ power

/-- The text of a number: the shortest decimal that reads back as it. -/
def text : Binary64 → List Char
  | .nan => "nan".toList
  | .infinite negative => if negative then "-inf".toList else "inf".toList
  | .finite negative mantissa exponent =>
    let sign := if negative then ['-'] else []
    if mantissa = 0 then sign ++ "0.0".toList
    else
      let (digits, power) := shortest mantissa exponent
      let written := digitsOf digits
      sign ++ layout (dropTrailingZeros written) (power + written.length - 1)

/-- A number to one decimal place, its exact value rounded half to even. -/
def onePlace : Binary64 → List Char
  | .nan => "nan".toList
  | .infinite negative => if negative then "-inf".toList else "inf".toList
  | .finite negative mantissa exponent =>
    let (numerator, denominator) := ratio mantissa exponent
    let tenths := roundHalfEven (numerator * 10) denominator
    (if negative then ['-'] else []) ++ digitsOf (tenths / 10) ++ '.' :: digitsOf (tenths % 10)

end Binary64

namespace Text

/-- The digits of a decimal text after its sign, with the power of ten of the last. -/
def decimalParts? (text : List Char) : Option (List Char × Int) := do
  let isDigit := isDecimal
  let inRun (c : Char) : Bool := isDigit c || c = '_'
  let whole := text.takeWhile inRun
  let text := text.dropWhile inRun
  let (fraction, text) := match text with
    | '.' :: rest => (rest.takeWhile inRun, rest.dropWhile inRun)
    | rest => ([], rest)
  let whole ← ungroup? whole
  let fraction ← ungroup? fraction
  if whole.isEmpty && fraction.isEmpty then none
  else
    let power ← match text with
      | [] => some (0 : Int)
      | c :: rest =>
        if c = 'e' || c = 'E' then
          let (negative, digits) := takeSign rest
          let digits ← ungroup? digits
          let values ← digits.mapM digitValue?
          if values.isEmpty then none
          else some (if negative then -(decimalValue values : Int) else decimalValue values)
        else none
    some (whole ++ fraction, power - fraction.length)

/-- The number that a decimal text writes, between blanks: digits with an
optional point and exponent, or a name of an infinity or of no number. -/
def toBinary64? (text : List Char) : Option Binary64 := do
  let (negative, text) := takeSign (trimNumber text)
  let name := String.ofList (text.map Char.toLower)
  if name = "inf" || name = "infinity" then some (.infinite negative)
  else if name = "nan" then some .nan
  else
    let (digits, power) ← decimalParts? text
    let values ← digits.mapM digitValue?
    some (Binary64.ofDecimal negative (decimalValue values) power)

end Text

end Checkup
