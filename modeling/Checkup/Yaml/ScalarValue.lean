import Checkup.Text.Numeral
import Checkup.Text.LetterCase
import Checkup.Text.Occurrence
import Checkup.Value.Display
import Checkup.Yaml.Kind

/-!
# Values of YAML scalars

A scalar of a kind is built from its text. A tag may name a kind that the
text does not fit; what then goes wrong is a fault and no flaw of the format.
-/

namespace Checkup.Yaml

/-- The value of a text as a truth value. -/
def boolValue (text : List Char) : Outcome Scalar :=
  let word := String.ofList (Text.lower text)
  match boolWords.lookup word with
  | some value => .ok (.bool value)
  | none => .error (.missingKey word)

/-- The parts of a text between colons. -/
def colonParts : List Char → List (List Char)
  | [] => [[]]
  | c :: rest =>
    if c = ':' then [] :: colonParts rest
    else match colonParts rest with
      | [] => [[c]]
      | part :: parts => (c :: part) :: parts

/-- The text without underscores. -/
def withoutBars (text : List Char) : List Char := text.filter (· != '_')

/-- A decimal number in a text. -/
def decimalValue (text : List Char) : Outcome Int :=
  match Text.toInt? text with
  | some n => .ok n
  | none => .error (.notWhole (String.ofList text))

/-- A number of another base in a text. -/
def basedValue (base : Nat) (letter : Char) (text : List Char) : Outcome Int :=
  match Text.toIntOf? base letter text with
  | some n => .ok n
  | none => .error (.notWhole (String.ofList text))

/-- The whole number that a text without sign and underscores writes. -/
def wholeValue (text : List Char) : Outcome Int :=
  match text with
  | [] => .error .cutShort
  | ['0'] => .ok 0
  | '0' :: 'b' :: rest => basedValue 2 'b' rest
  | '0' :: 'x' :: rest => basedValue 16 'x' rest
  | '0' :: _ => basedValue 8 'o' text
  | text =>
    if text.contains ':' then
      (fun digits => digits.foldl (fun value digit => 60 * value + digit) 0) <$>
        (colonParts text).mapM decimalValue
    else decimalValue text

/-- The value of a text as a whole number. -/
def intValue (text : List Char) : Outcome Scalar :=
  match withoutBars text with
  | [] => .error .cutShort
  | '-' :: rest => (fun n => .int (-n)) <$> wholeValue rest
  | '+' :: rest => .int <$> wholeValue rest
  | text => .int <$> wholeValue text

/-- A decimal floating-point number in a text. -/
def binaryValue (text : List Char) : Outcome Binary64 :=
  match Text.toBinary64? text with
  | some number => .ok number
  | none => .error (.badValue "could not convert string to float")

/-- The sum of digits to the base of sixty, least first. -/
def sixtieths (base : Nat) (sum : Binary64) : List Binary64 → Outcome Binary64
  | [] => .ok sum
  | digit :: digits =>
    match Binary64.ofInt? base with
    | some weight => sixtieths (60 * base) (sum.add (digit.mul weight)) digits
    | none => .error .hugeNumber

/-- The floating-point number that a text without sign and underscores writes. -/
def magnitudeValue (text : List Char) : Outcome Binary64 := do
  if text = ".inf".toList then .ok (.infinite false)
  else if text = ".nan".toList then .ok .nan
  else if text.contains ':' then
    let digits ← (colonParts text).mapM binaryValue
    sixtieths 1 (Binary64.zeroWith false) digits.reverse
  else binaryValue text

/-- The value of a text as a floating-point number. -/
def floatValue (text : List Char) : Outcome Scalar :=
  match Text.lower (withoutBars text) with
  | [] => .error .cutShort
  | '-' :: rest => (fun number => .float number.negate) <$> magnitudeValue rest
  | '+' :: rest => .float <$> magnitudeValue rest
  | text => .float <$> magnitudeValue text

/-- A fraction of a second in millionths. -/
def microseconds (fraction : List Char) : Nat :=
  let digits := fraction.take 6
  numberOf (digits ++ List.replicate (6 - digits.length) '0')

/-- A time of day that exists. -/
def ClockText.toClock? (clock : ClockText) : Option Clock :=
  if clock.hour < 24 ∧ clock.minute < 60 ∧ clock.second < 60 ∧
      clock.offset.all fun offset => offset.natAbs < 86400 then
    some ⟨clock.hour, clock.minute, clock.second, microseconds clock.fraction, clock.offset⟩
  else none

/-- A moment that exists. -/
def TimeText.toMoment? (time : TimeText) : Option Moment :=
  if time.day.isValid then
    match time.clock with
    | none => some (.date time.day)
    | some clock => clock.toClock?.map (.time time.day)
  else none

/-- The value of a text as a time. -/
def momentValue (text : List Char) : Outcome Scalar :=
  match timeText? (withoutLastBreak text) with
  | none => .error (.notText "'NoneType' object has no attribute 'groupdict'")
  | some time =>
    match time.toMoment? with
    | some moment => .ok (.moment moment)
    | none => .error (.badValue "no such time")

/-- The value of a character of base 64. -/
def sextet? (c : Char) : Option Nat :=
  if 'A' ≤ c ∧ c ≤ 'Z' then some (c.toNat - 65)
  else if 'a' ≤ c ∧ c ≤ 'z' then some (c.toNat - 71)
  else if '0' ≤ c ∧ c ≤ '9' then some (c.toNat + 4)
  else if c = '+' then some 62
  else if c = '/' then some 63
  else none

/-- The bytes that base 64 writes, behind `held` characters of a group of four
with `bits` not yet used. Other characters are passed over; padding that
completes a group ends the text. -/
def bytesOf64? (held bits padding : Nat) : List Char → Option (List UInt8)
  | [] => if held = 0 then some [] else none
  | c :: rest =>
    if c = '=' then
      if 2 ≤ held ∧ 4 ≤ held + padding + 1 then some []
      else bytesOf64? held bits (if 2 ≤ held then padding + 1 else padding) rest
    else
      match sextet? c with
      | none => bytesOf64? held bits padding rest
      | some n =>
        match held with
        | 0 => bytesOf64? 1 n 0 rest
        | 1 => (bytesOf64? 2 (n % 16) 0 rest).map (UInt8.ofNat (4 * bits + n / 16) :: ·)
        | 2 => (bytesOf64? 3 (n % 4) 0 rest).map (UInt8.ofNat (16 * bits + n / 4) :: ·)
        | _ => (bytesOf64? 0 0 0 rest).map (UInt8.ofNat (64 * bits + n) :: ·)

/-- The value of a text as bytes. -/
def binaryScalar (text : List Char) : Except Flaw Scalar :=
  if text.all fun c => c.toNat < 0x80 then
    match bytesOf64? 0 0 0 text with
    | some bytes => .ok (.foreign "bytes" (String.ofList (Text.quotedBytes bytes)) bytes.isEmpty)
    | none => .error .malformed
  else .error .malformed

/-- Give a fault its place among the flaws. -/
def faulty {α : Type} : Outcome α → Except Flaw α
  | .ok value => .ok value
  | .error fault => .error (.fault fault)

/-- The value of a text as a scalar of a kind. -/
def scalarValue (kind : Kind) (text : String) : Except Flaw Scalar :=
  let chars := text.toList
  match kind with
  | .null => .ok .null
  | .text => .ok (.text text)
  | .bool => faulty (boolValue chars)
  | .int => faulty (intValue chars)
  | .float => faulty (floatValue chars)
  | .moment => faulty (momentValue chars)
  | .binary => binaryScalar chars
  | _ => .error .malformed

end Checkup.Yaml
