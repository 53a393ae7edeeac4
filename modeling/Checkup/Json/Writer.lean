import Checkup.Text.Quoted
import Checkup.Value
import Checkup.Value.Display

/-!
# Writing JSON

Documents are written without white space and with every character that need
not be escaped as it is.
-/

namespace Checkup.Json

open Checkup.Text

/-- A character inside a text. -/
def writeChar (c : Char) : List Char :=
  if c = '"' then ['\\', '"']
  else if c = '\\' then ['\\', '\\']
  else if c = '\n' then ['\\', 'n']
  else if c = '\r' then ['\\', 'r']
  else if c = '\t' then ['\\', 't']
  else if c = '\x08' then ['\\', 'b']
  else if c = '\x0c' then ['\\', 'f']
  else if c.toNat < 0x20 then '\\' :: 'u' :: hex 4 c.toNat
  else [c]

/-- A text between quotes. -/
def writeText (text : List Char) : List Char := '"' :: text.flatMap writeChar ++ ['"']

/-- A floating-point number; infinities and the one that is no number by their names. -/
def writeFloat : Binary64 → List Char
  | .nan => "NaN".toList
  | .infinite negative => if negative then "-Infinity".toList else "Infinity".toList
  | number => number.text

/-- A scalar. -/
def writeScalar : Scalar → List Char
  | .null => "null".toList
  | .bool value => if value then "true".toList else "false".toList
  | .int value => (toString value).toList
  | .float value => writeFloat value
  | .text value => writeText value.toList
  | .moment value => writeText value.display.toList
  | .foreign _ literal _ => writeText literal.toList

/-- A key; one that is no text is put between quotes. -/
def writeKey : Scalar → List Char
  | .text value => writeText value.toList
  | key => '"' :: writeScalar key ++ ['"']

mutual

/-- A value. -/
def write : Value → List Char
  | .scalar value => writeScalar value
  | .list items => '[' :: writeItems items ++ [']']
  | .mapping entries => '\x7b' :: writeEntries entries ++ ['\x7d']

/-- The items of a list, with commas between them. -/
def writeItems : List Value → List Char
  | [] => []
  | [item] => write item
  | item :: items => write item ++ ',' :: writeItems items

/-- The entries of a mapping, with commas between them. -/
def writeEntries : List (Scalar × Value) → List Char
  | [] => []
  | [(key, value)] => writeKey key ++ ':' :: write value
  | (key, value) :: entries => writeKey key ++ ':' :: write value ++ ',' :: writeEntries entries

end

end Checkup.Json
