import Checkup.Text.Blank
import Checkup.Text.Ranges

/-!
# Whole numbers in text

The decimal digits of every script, their values, and the numbers they write. A whole
number may stand between blanks, carry a sign and group its digits by single underscores,
or be written in base two, eight or sixteen behind a mark of its base. A number read from
text has at most `maxDigits` digits.
-/

namespace Checkup.Text

/-- The zeros of the decimal scripts; the nine digits after each follow it. -/
def zeros : List Nat := [
  0x30, 0x660, 0x6F0, 0x7C0, 0x966, 0x9E6, 0xA66, 0xAE6, 0xB66, 0xBE6, 0xC66, 0xCE6, 0xD66,
  0xDE6, 0xE50, 0xED0, 0xF20, 0x1040, 0x1090, 0x17E0, 0x1810, 0x1946, 0x19D0, 0x1A80, 0x1A90,
  0x1B50, 0x1BB0, 0x1C40, 0x1C50, 0xA620, 0xA8D0, 0xA900, 0xA9D0, 0xA9F0, 0xAA50, 0xABF0, 0xFF10,
  0x104A0, 0x10D30, 0x11066, 0x110F0, 0x11136, 0x111D0, 0x112F0, 0x11450, 0x114D0, 0x11650,
  0x116C0, 0x11730, 0x118E0, 0x11950, 0x11C50, 0x11D50, 0x11DA0, 0x16A60, 0x16AC0, 0x16B50,
  0x1D7CE, 0x1D7D8, 0x1D7E2, 0x1D7EC, 0x1D7F6, 0x1E140, 0x1E2F0, 0x1E950, 0x1FBF0]

/-- The value of a decimal digit of any script. -/
def digitValue? (c : Char) : Option Nat :=
  zeros.findSome? fun start =>
    if start ≤ c.toNat ∧ c.toNat < start + 10 then some (c.toNat - start) else none

/-- A decimal digit of any script. -/
def isDecimal (c : Char) : Bool := (digitValue? c).isSome

/-- Digits that write no decimal number: superscripts, circled digits and the like. -/
def ornamentRanges : Ranges := [
  (0xB2, 0xB3), (0xB9, 0xB9), (0x1369, 0x1371), (0x19DA, 0x19DA), (0x2070, 0x2070),
  (0x2074, 0x2079), (0x2080, 0x2089), (0x2460, 0x2468), (0x2474, 0x247C), (0x2488, 0x2490),
  (0x24EA, 0x24EA), (0x24F5, 0x24FD), (0x24FF, 0x24FF), (0x2776, 0x277E), (0x2780, 0x2788),
  (0x278A, 0x2792), (0x10A40, 0x10A43), (0x10E60, 0x10E68), (0x11052, 0x1105A), (0x1F100, 0x1F10A)]

/-- A digit, be it decimal or an ornament. -/
def isDigitLike (c : Char) : Bool := isDecimal c || ornamentRanges.has c

/-- A text of digits, at least one. -/
def isNumeral (text : List Char) : Bool := !text.isEmpty && text.all isDigitLike

/-- The longest number that is read from text or written to it. -/
def maxDigits : Nat := 4300

/-- The number that a run of decimal digits writes, most significant first. -/
def decimalValue (digits : List Nat) : Nat :=
  digits.foldl (fun value digit => 10 * value + digit) 0

/-- A non-empty run of decimal digits as a number; `none` for anything else
and for a run that is too long. -/
def toNat? (text : List Char) : Option Nat := do
  let digits ← text.mapM digitValue?
  if digits.isEmpty || maxDigits < digits.length then none else some (decimalValue digits)

/-! ## Numbers between blanks -/

/-- Blanks that may surround a number: all but the information separators. -/
def isNumberBlank (c : Char) : Bool := isBlank c && !(0x1C ≤ c.toNat && c.toNat ≤ 0x1F)

/-- A text without the blanks that may surround a number. -/
def trimNumber (text : List Char) : List Char :=
  ((text.dropWhile isNumberBlank).reverse.dropWhile isNumberBlank).reverse

/-- A sign, if there is one, and the text after it. -/
def takeSign : List Char → Bool × List Char
  | '-' :: rest => (true, rest)
  | '+' :: rest => (false, rest)
  | text => (false, text)

/-- Digits with single underscores between them, without the underscores. -/
def ungroup? : List Char → Option (List Char)
  | [] => some []
  | [c] => if c = '_' then none else some [c]
  | c :: '_' :: d :: rest =>
    if c = '_' || d = '_' then none else (ungroup? (d :: rest)).map (c :: ·)
  | c :: rest => if c = '_' then none else (ungroup? rest).map (c :: ·)

/-- The whole number that a text writes. -/
def toInt? (text : List Char) : Option Int := do
  let (negative, digits) := takeSign (trimNumber text)
  let magnitude ← toNat? (← ungroup? digits)
  some (if negative then -(magnitude : Int) else magnitude)

/-! ## Other bases -/

/-- The value of a digit or a letter. -/
def letterValue? (c : Char) : Option Nat :=
  if 'a' ≤ c ∧ c ≤ 'z' then some (c.toNat - 87)
  else if 'A' ≤ c ∧ c ≤ 'Z' then some (c.toNat - 55)
  else digitValue? c

/-- The value of a digit of a base. -/
def digitOf? (base : Nat) (c : Char) : Option Nat :=
  (letterValue? c).bind fun n => if n < base then some n else none

/-- The number that a run of digits writes, most significant first. -/
def valueOf (base : Nat) (digits : List Nat) : Nat :=
  digits.foldl (fun value digit => base * value + digit) 0

/-- Digits without a zero and the letter of their base in front of them. -/
def withoutMark (letter : Char) : List Char → List Char
  | '0' :: c :: rest => if c.toLower = letter then rest else '0' :: c :: rest
  | text => text

/-- A decimal digit of any script as one of the ASCII range, which may then
stand in the mark of a base. -/
def plainDigit (c : Char) : Char :=
  match digitValue? c with
  | some n => Char.ofNat (48 + n)
  | none => c

/-- The whole number that a text writes in a base with the given letter. -/
def toIntOf? (base : Nat) (letter : Char) (text : List Char) : Option Int := do
  let (negative, text) := takeSign ((trimNumber text).map plainDigit)
  let digits ← (withoutMark letter text).mapM (digitOf? base)
  if digits.isEmpty then none
  else
    let magnitude := valueOf base digits
    some (if negative then -(magnitude : Int) else magnitude)

end Checkup.Text
