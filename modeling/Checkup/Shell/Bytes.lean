import Checkup.Fault

/-!
# Texts of the shell

A text in a shell is a row of bytes, each held as the character of its number.
Names, numbers and quoted texts are told by their bytes alone.
-/

namespace Checkup.Shell

/-- The bytes of a text, as characters. -/
def ofText (text : String) : List Char :=
  (Text.encode text).map fun byte => Char.ofNat byte.toNat

/-- The bytes that characters stand for. -/
def toBytes (text : List Char) : List UInt8 := text.map fun c => UInt8.ofNat c.toNat

/-- The characters that bytes are held as. -/
def ofBytes (bytes : List UInt8) : List Char := bytes.map fun byte => Char.ofNat byte.toNat

/-- The text that characters stand for. -/
def toText (text : List Char) : String := String.ofList (Text.decodeLenient (toBytes text))

/-- The null character. -/
def null : Char := Char.ofNat 0

/-- A letter or an underscore. -/
def isNameStart (c : Char) : Bool := c.isAlpha || c = '_'

/-- A character of a name. -/
def isNameChar (c : Char) : Bool := c.isAlphanum || c = '_'

/-- A text is a name. -/
def isName : List Char → Bool
  | [] => false
  | c :: rest => isNameStart c && rest.all isNameChar

/-- The name in front of the first equals sign, and the text behind it. -/
def assignment? (text : List Char) : Option (List Char × List Char) :=
  match text.dropWhile isNameChar with
  | '=' :: value =>
    let name := text.takeWhile isNameChar
    if isName name then some (name, value) else none
  | _ => none

/-- A space, or one of the five control characters that count as one. -/
def isSpace (c : Char) : Bool := c = ' ' || (9 ≤ c.toNat && c.toNat ≤ 13)

/-- The value of a digit, whatever the base. -/
def digitValue? (c : Char) : Option Nat :=
  if c.isDigit then some (c.toNat - 48)
  else if c.isLower then some (c.toNat - 87)
  else if c.isUpper then some (c.toNat - 55)
  else none

/-- A digit of a base. -/
def isDigitOf (base : Nat) (c : Char) : Bool := (digitValue? c).any (· < base)

/-- The number that digits of a base write. -/
def digitsValue (base : Nat) (digits : List Char) : Nat :=
  digits.foldl (fun value c => base * value + (digitValue? c).getD 0) 0

/-- The least number of 64 bits. -/
def leastNumber : Int := -9223372036854775808

/-- The greatest number of 64 bits. -/
def greatestNumber : Int := 9223372036854775807

/-- The number of 64 bits that is closest to a number. -/
def saturate (value : Int) : Int := max leastNumber (min greatestNumber value)

/-- A number at the head of a text. -/
structure Scanned where
  value : Int
  /-- Digits were found. -/
  found : Bool
  /-- The number is too large for 64 bits; its value is the closest that is not. -/
  tooLarge : Bool
  /-- The text behind the number. -/
  rest : List Char

/-- The digits that the head of a text may hold, by their base: sixteen behind `0x`,
eight behind a zero. -/
def detectBase (text : List Char) : Nat × List Char :=
  match text with
  | '0' :: x :: c :: rest =>
    if (x = 'x' || x = 'X') && isDigitOf 16 c then (16, c :: rest) else (8, text)
  | '0' :: _ => (8, text)
  | _ => (10, text)

/-- The number at the head of a text, behind spaces and a sign. Without a base it is
told by how the digits start. Where no digits are, nothing is read. -/
def scanNumber (base? : Option Nat) (text : List Char) : Scanned :=
  let trimmed := text.dropWhile isSpace
  let (negative, unsigned) := match trimmed with
    | '-' :: rest => (true, rest)
    | '+' :: rest => (false, rest)
    | rest => (false, rest)
  let (base, start) := match base? with
    | some base => (base, unsigned)
    | none => detectBase unsigned
  let digits := start.takeWhile (isDigitOf base)
  if digits.isEmpty then ⟨0, false, false, text⟩
  else
    let size : Int := digitsValue base digits
    let value := if negative then -size else size
    ⟨saturate value, true, decide (saturate value ≠ value), start.drop digits.length⟩

/-- The number that a text is, with spaces around it. In an expression the base is told
by the digits, and a text without digits is zero. -/
def wholeNumber? (inExpression : Bool) (text : List Char) : Option Int :=
  let scanned := scanNumber (if inExpression then none else some 10) text
  if scanned.tooLarge || (!scanned.found && !inExpression) then none
  else if (scanned.rest.dropWhile isSpace).isEmpty then some scanned.value
  else none

/-- A number that is not negative and fits 31 bits. -/
def count? (text : List Char) : Option Nat :=
  match wholeNumber? false text with
  | some value => if 0 ≤ value && value ≤ 2147483647 then some value.toNat else none
  | none => none

/-- The decimal digits of a number. -/
def showNumber (value : Int) : List Char := (toString value).toList

/-- A text in single quotes; quotes in it are put in double quotes. -/
def singleQuoted (text : List Char) : List Char :=
  let plain := text.takeWhile (· != '\x27')
  let head := '\x27' :: plain ++ ['\x27']
  let behind := text.drop plain.length
  let quotes := behind.takeWhile (· = '\x27')
  if _h : quotes = [] then head
  else
    let rest := behind.drop quotes.length
    head ++ '"' :: quotes ++ '"' :: (if rest.isEmpty then [] else singleQuoted rest)
termination_by text.length
decreasing_by
  have hq : 0 < quotes.length := List.length_pos_iff.mpr _h
  have hb : quotes.length ≤ (text.drop plain.length).length :=
    (List.takeWhile_sublist _).length_le
  rw [List.length_drop] at hb
  show ((text.drop plain.length).drop quotes.length).length < text.length
  rw [List.length_drop, List.length_drop]
  omega

/-- Texts with another between them. -/
def joinWith (between : List Char) (texts : List (List Char)) : List Char :=
  (texts.intersperse between).flatten

/-- The pieces of a text between separators. -/
def splitAt (separator : Char) : List Char → List (List Char)
  | [] => [[]]
  | c :: rest =>
    if c = separator then [] :: splitAt separator rest
    else match splitAt separator rest with
      | [] => [[c]]
      | piece :: more => (c :: piece) :: more

/-- A byte as a number with a sign. -/
def signedByte (c : Char) : Int := if c.toNat < 128 then c.toNat else (c.toNat : Int) - 256

/-- Texts in the order of their bytes. -/
def textBefore (a b : List Char) : Bool := String.ofList a ≤ String.ofList b

end Checkup.Shell
