import Checkup.Fault

/-!
# Places in a YAML text

A cursor is the rest of a text with the index, line and column where it
starts. The characters that end words and lines, and the markers between
documents. Line feeds stand for all line ends of the text.
-/

namespace Checkup.Yaml

/-- Why a text is not read: it breaks the rules of the format, or what it
writes cannot be built. -/
inductive Flaw where
  | malformed
  /-- The text ends where it has to go on. -/
  | unfinished
  | fault (fault : Fault)
  deriving DecidableEq, Repr

/-- A character that ends a line. -/
def isBreak (c : Char) : Bool := c = '\n' || c = '\x85' || c = '\u2028' || c = '\u2029'

/-- What a line end is read as. -/
def breakChar (c : Char) : Char := if c = '\x85' then '\n' else c

/-- A space or a tab. -/
def isGap (c : Char) : Bool := c = ' ' || c = '\t'

/-- The text is at its end or at the end of a line. -/
def atLineEnd : List Char → Bool
  | [] => true
  | c :: _ => isBreak c

/-- The text is at the end of a line or at a space. -/
def atSpace : List Char → Bool
  | ' ' :: _ => true
  | text => atLineEnd text

/-- The text is at the end of a line, at a space or at a tab. -/
def atWordEnd : List Char → Bool
  | '\t' :: _ => true
  | text => atSpace text

/-- The text from the next line end on. -/
def toLineEnd (text : List Char) : List Char := text.dropWhile fun c => !isBreak c

/-- The text without the spaces at its head. -/
def skipSpaces (text : List Char) : List Char := text.dropWhile (· = ' ')

/-- The text from the end of the line on, if nothing but spaces and a comment
stand before it. -/
def restOfLine? (text : List Char) : Option (List Char) :=
  let text := skipSpaces text
  let text := if text.head? = some '#' then toLineEnd text else text
  if atLineEnd text then some text else none

/-- A document marker of the given sign. -/
def startsMarker (sign : Char) : List Char → Bool
  | a :: b :: c :: rest => a = sign && b = sign && c = sign && atWordEnd rest
  | _ => false

/-- A marker that starts or ends a document. -/
def isMarker (text : List Char) : Bool := startsMarker '-' text || startsMarker '.' text

/-- A character that a text may hold. -/
def isAllowed (c : Char) : Bool :=
  c = '\t' || c = '\n' || c = '\r' || (0x20 ≤ c.toNat && c.toNat ≤ 0x7E) || c.toNat = 0x85 ||
    (0xA0 ≤ c.toNat && c.toNat != 0xFFFE && c.toNat != 0xFFFF)

/-- A place in a text. -/
structure Cursor where
  rest : List Char
  index : Nat := 0
  line : Nat := 0
  column : Nat := 0

namespace Cursor

/-- The place after the next character. A byte order mark takes no column. -/
def step (cursor : Cursor) : Cursor :=
  match cursor.rest with
  | [] => cursor
  | c :: rest =>
    if isBreak c then ⟨rest, cursor.index + 1, cursor.line + 1, 0⟩
    else ⟨rest, cursor.index + 1, cursor.line,
      if c = '\uFEFF' then cursor.column else cursor.column + 1⟩

/-- The place after some more characters. -/
def skip (cursor : Cursor) : Nat → Cursor
  | 0 => cursor
  | n + 1 => cursor.step.skip n

/-- The place where a given rest of the text starts. -/
def moveTo (cursor : Cursor) (rest : List Char) : Cursor :=
  cursor.skip (cursor.rest.length - rest.length)

end Cursor

end Checkup.Yaml
