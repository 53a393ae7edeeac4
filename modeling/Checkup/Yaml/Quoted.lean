import Checkup.Yaml.Cursor

/-!
# Quoted scalars

Between single quotes a quote is written twice. Between double quotes a
backslash starts an escape. A line break with the blanks around it is read as
one space, and further breaks are kept.
-/

namespace Checkup.Yaml

/-- What a line break and the breaks after it are read as. -/
def foldBreaks (first : Char) (further : List Char) : List Char :=
  if first != '\n' then first :: further
  else if further.isEmpty then [' ']
  else further

/-- The breaks at the head of a text, with blanks around them, and the rest. No
document marker may start a line. -/
def quotedBreaks : (lineStart : Bool) → List Char → Option (List Char × List Char)
  | _, [] => some ([], [])
  | lineStart, c :: rest =>
    if lineStart && isMarker (c :: rest) then none
    else if isGap c then quotedBreaks false rest
    else if isBreak c then
      (quotedBreaks true rest).map fun (breaks, rest) => (breakChar c :: breaks, rest)
    else some ([], c :: rest)

/-- The characters that short escapes stand for. -/
def shortEscapes : List (Char × Char) :=
  [('0', '\x00'), ('a', '\x07'), ('b', '\x08'), ('t', '\t'), ('\t', '\t'), ('n', '\n'),
   ('v', '\x0B'), ('f', '\x0C'), ('r', '\r'), ('e', '\x1B'), (' ', ' '), ('"', '"'),
   ('\\', '\\'), ('/', '/'), ('N', '\x85'), ('_', '\xA0'), ('L', '\u2028'), ('P', '\u2029')]

/-- Numbers of hexadecimal digits behind the letters of long escapes. -/
def longEscapes : List (Char × Nat) := [('x', 2), ('u', 4), ('U', 8)]

/-- The value of a hexadecimal digit. -/
def hexValue? (c : Char) : Option Nat :=
  if '0' ≤ c ∧ c ≤ '9' then some (c.toNat - 48)
  else if 'a' ≤ c ∧ c ≤ 'f' then some (c.toNat - 87)
  else if 'A' ≤ c ∧ c ≤ 'F' then some (c.toNat - 55)
  else none

/-- The number that exactly so many hexadecimal digits write, and the rest. -/
def takeHex (count : Nat) (text : List Char) : Except Flaw (Nat × List Char) :=
  let digits := text.take count
  match digits.mapM hexValue? with
  | none => .error .malformed
  | some values =>
    if digits.length = count then
      .ok (values.foldl (fun value digit => 16 * value + digit) 0, text.drop count)
    else .error .unfinished

/-- The character of a code point. Halves of pairs are read as the replacement character. -/
def charOfCode (code : Nat) : Except Flaw Char :=
  if 0x7FFFFFFF < code then .error (.fault .hugeNumber)
  else if 0x10FFFF < code then .error (.fault (.badValue "no such character"))
  else if 0xD800 ≤ code && code ≤ 0xDFFF then .ok '\uFFFD'
  else .ok (Char.ofNat code)

/-- A piece of a quoted scalar with the rest of the text; no piece at the closing quote. -/
abbrev QuotedPiece := Except Flaw (Option (List Char) × List Char)

/-- Some breaks as a piece. -/
def breaksPiece (read : List Char → List Char) (text : List Char) : QuotedPiece :=
  match quotedBreaks true text with
  | some (breaks, rest) => .ok (some (read breaks), rest)
  | none => .error .malformed

/-- The piece behind a backslash. -/
def escapePiece : List Char → QuotedPiece
  | [] => .error .unfinished
  | c :: rest =>
    match shortEscapes.lookup c, longEscapes.lookup c with
    | some meant, _ => .ok (some [meant], rest)
    | none, some count =>
      match takeHex count rest with
      | .ok (code, rest) => (charOfCode code).map fun meant => (some [meant], rest)
      | .error flaw => .error flaw
    | none, none => if isBreak c then breaksPiece id rest else .error .malformed

/-- The piece that starts with a blank or a break. -/
def gapPiece (text : List Char) : QuotedPiece :=
  match text.dropWhile isGap with
  | [] => .error .unfinished
  | c :: rest =>
    if isBreak c then breaksPiece (foldBreaks (breakChar c)) rest
    else .ok (some (text.takeWhile isGap), c :: rest)

/-- The next piece between single or double quotes. -/
def quotedPiece (double : Bool) : List Char → QuotedPiece
  | [] => .error .unfinished
  | c :: rest =>
    if isGap c || isBreak c then gapPiece (c :: rest)
    else if double then
      if c = '"' then .ok (none, rest)
      else if c = '\\' then escapePiece rest
      else .ok (some [c], rest)
    else if c = '\x27' then
      match rest with
      | '\x27' :: rest => .ok (some ['\x27'], rest)
      | rest => .ok (none, rest)
    else .ok (some [c], rest)

/-- The text up to the closing quote, and the rest after it. -/
def quotedText (double : Bool) (text : List Char) : Except Flaw (List Char × List Char) :=
  match quotedPiece double text with
  | .error flaw => .error flaw
  | .ok (none, rest) => .ok ([], rest)
  | .ok (some piece, rest) =>
    if rest.length < text.length then
      (quotedText double rest).map fun (more, rest) => (piece ++ more, rest)
    else .error .malformed
termination_by text.length

end Checkup.Yaml
