import Checkup.Fault
import Checkup.Text.Stretch
import Checkup.Value

/-!
# Reading JSON

Documents are read strictly: only space, tab, line feed and carriage return
stand between the parts, texts hold no control characters, and nothing follows
the document. Three names of numbers are admitted besides. A key that occurs
twice keeps its first place and its last value.
-/

namespace Checkup.Json

open Checkup.Text

/-- Why a text is not read: it is no document, or it holds a whole number with
too many digits. -/
inductive Refusal where
  | malformed
  | tooManyDigits (count : Nat)
  deriving DecidableEq, Repr

/-- White space between the parts of a document. -/
def isGap (c : Char) : Bool := c = ' ' || c = '\t' || c = '\n' || c = '\r'

/-- The text after white space. -/
def skipGap (text : List Char) : List Char := text.dropWhile isGap

/-- The value of a hexadecimal digit. -/
def hexValue? (c : Char) : Option Nat :=
  if '0' ≤ c ∧ c ≤ '9' then some (c.toNat - 48)
  else if 'a' ≤ c ∧ c ≤ 'f' then some (c.toNat - 87)
  else if 'A' ≤ c ∧ c ≤ 'F' then some (c.toNat - 55)
  else none

/-- Four hexadecimal digits. -/
def hex4? : List Char → Option (Nat × List Char)
  | a :: b :: c :: d :: rest => do
    let a ← hexValue? a
    let b ← hexValue? b
    let c ← hexValue? c
    let d ← hexValue? d
    some (((a * 16 + b) * 16 + c) * 16 + d, rest)
  | _ => none

/-- The character of a simple escape. -/
def escaped? (c : Char) : Option Char :=
  if c = '"' || c = '\\' || c = '/' then some c
  else if c = 'b' then some '\x08'
  else if c = 'f' then some '\x0c'
  else if c = 'n' then some '\n'
  else if c = 'r' then some '\r'
  else if c = 't' then some '\t'
  else none

/-- The second half of a surrogate pair. -/
def lowSurrogate? : List Char → Option (Nat × List Char)
  | '\\' :: 'u' :: rest => do
    let (unit, rest) ← hex4? rest
    if 0xDC00 ≤ unit ∧ unit ≤ 0xDFFF then some (unit, rest) else none
  | _ => none

/-- The character of an escape of code units, which for a character beyond the
basic plane are two. A half without its other half becomes a replacement
character. -/
def unitEscape? (text : List Char) : Option (Char × List Char) := do
  let (unit, rest) ← hex4? text
  if 0xD800 ≤ unit ∧ unit ≤ 0xDBFF then
    match lowSurrogate? rest with
    | some (low, rest) =>
      some (Char.ofNat (0x10000 + (unit - 0xD800) * 0x400 + (low - 0xDC00)), rest)
    | none => some ('\uFFFD', rest)
  else if 0xDC00 ≤ unit ∧ unit ≤ 0xDFFF then some ('\uFFFD', rest)
  else some (Char.ofNat unit, rest)

/-- The rest of a text after its opening quote. The bound is the length of the
text at most. -/
def readText : (bound : Nat) → List Char → Except Refusal (List Char × List Char)
  | 0, _ => .error .malformed
  | _ + 1, [] => .error .malformed
  | bound + 1, c :: rest =>
    if c = '"' then .ok ([], rest)
    else if c.toNat < 0x20 then .error .malformed
    else if c = '\\' then
      match rest with
      | [] => .error .malformed
      | 'u' :: rest =>
        match unitEscape? rest with
        | none => .error .malformed
        | some (d, rest) => do
          let (text, rest) ← readText bound rest
          .ok (d :: text, rest)
      | e :: rest =>
        match escaped? e with
        | none => .error .malformed
        | some d => do
          let (text, rest) ← readText bound rest
          .ok (d :: text, rest)
    else do
      let (text, rest) ← readText bound rest
      .ok (c :: text, rest)

/-- An ASCII digit. -/
def isDigit (c : Char) : Bool := '0' ≤ c && c ≤ '9'

/-- The number that ASCII digits write. -/
def digitsValue (digits : List Char) : Nat :=
  digits.foldl (fun value c => 10 * value + (c.toNat - 48)) 0

/-- Digits after a decimal point, if there are any. -/
def readFraction : List Char → List Char × List Char
  | '.' :: rest =>
    match rest.takeWhile isDigit with
    | [] => ([], '.' :: rest)
    | digits => (digits, rest.dropWhile isDigit)
  | text => ([], text)

/-- A power of ten, if there is one. -/
def readPower (text : List Char) : Option Int × List Char :=
  match text with
  | [] => (none, text)
  | c :: rest =>
    if c = 'e' || c = 'E' then
      let (negative, digits) := match rest with
        | '-' :: digits => (true, digits)
        | '+' :: digits => (false, digits)
        | digits => (false, digits)
      match digits.takeWhile isDigit with
      | [] => (none, text)
      | run =>
        let power : Int := digitsValue run
        (some (if negative then -power else power), digits.dropWhile isDigit)
    else (none, text)

/-- The digits that a number starts with; behind a zero in front there are none. -/
def wholePart (text : List Char) : List Char :=
  match text with
  | '0' :: _ => ['0']
  | _ => text.takeWhile isDigit

/-- A number without its sign: whole if it has neither a fraction nor a power. -/
def readMagnitude (negative : Bool) (text : List Char) : Except Refusal (Value × List Char) :=
  let whole := wholePart text
  if whole.isEmpty then .error .malformed
  else
    let (fraction, rest) := readFraction (text.drop whole.length)
    let (power, rest) := readPower rest
    if fraction.isEmpty && power.isNone then
      if maxDigits < whole.length then .error (.tooManyDigits whole.length)
      else
        let magnitude : Int := digitsValue whole
        .ok (.int (if negative then -magnitude else magnitude), rest)
    else
      let power := power.getD 0 - fraction.length
      .ok (.float (Binary64.ofDecimal negative (digitsValue (whole ++ fraction)) power), rest)

/-- The names of values, and what they name. -/
def names : List (String × Value) :=
  [("null", .null), ("true", .bool true), ("false", .bool false), ("NaN", .float .nan),
   ("Infinity", .float (.infinite false)), ("-Infinity", .float (.infinite true))]

/-- A named value. -/
def readName? (text : List Char) : Option (Value × List Char) :=
  names.findSome? fun (name, value) => (after? name.toList text).map fun rest => (value, rest)

mutual

/-- A value. The bound is the length of the text at most. -/
def readValue : (bound : Nat) → List Char → Except Refusal (Value × List Char)
  | 0, _ => .error .malformed
  | bound + 1, text =>
    match readName? text with
    | some step => .ok step
    | none =>
      match text with
      | '"' :: rest => do
        let (content, rest) ← readText (rest.length + 1) rest
        .ok (.text (String.ofList content), rest)
      | '[' :: rest =>
        match skipGap rest with
        | ']' :: rest => .ok (.list [], rest)
        | rest => do
          let (items, rest) ← readItems bound rest
          .ok (.list items, rest)
      | '\x7b' :: rest =>
        match skipGap rest with
        | '\x7d' :: rest => .ok (.mapping [], rest)
        | rest => do
          let (entries, rest) ← readEntries bound [] rest
          .ok (.mapping entries, rest)
      | '-' :: rest => readMagnitude true rest
      | rest => readMagnitude false rest

/-- The items of a list up to its closing bracket. -/
def readItems : (bound : Nat) → List Char → Except Refusal (List Value × List Char)
  | 0, _ => .error .malformed
  | bound + 1, text => do
    let (item, rest) ← readValue bound text
    match skipGap rest with
    | ']' :: rest => .ok ([item], rest)
    | ',' :: rest =>
      let (items, rest) ← readItems bound (skipGap rest)
      .ok (item :: items, rest)
    | _ => .error .malformed

/-- The entries of a mapping up to its closing brace, added to those before. -/
def readEntries : (bound : Nat) → Entries → List Char → Except Refusal (Entries × List Char)
  | 0, _, _ => .error .malformed
  | bound + 1, entries, text =>
    match text with
    | '"' :: rest => do
      let (key, rest) ← readText (rest.length + 1) rest
      match skipGap rest with
      | ':' :: rest =>
        let (value, rest) ← readValue bound (skipGap rest)
        let entries := entries.insertWith (· = ·) (.text (String.ofList key)) value
        match skipGap rest with
        | '\x7d' :: rest => .ok (entries, rest)
        | ',' :: rest => readEntries bound entries (skipGap rest)
        | _ => .error .malformed
      | _ => .error .malformed
    | _ => .error .malformed

end

/-- The document that a text holds. -/
def read (text : List Char) : Except Refusal Value := do
  let (value, rest) ← readValue (2 * text.length + 2) (skipGap text)
  if (skipGap rest).isEmpty then .ok value else .error .malformed

/-- The document that a text holds, if it holds one. -/
def read? (text : List Char) : Option Value :=
  match read text with
  | .ok value => some value
  | .error _ => none

end Checkup.Json
