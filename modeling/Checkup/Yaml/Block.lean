import Checkup.Yaml.Cursor

/-!
# Block scalars

A block scalar is a row of indented lines below a header. The header says
whether lines are folded, what becomes of the breaks at the end, and, if it is
not to be seen from the first line, how far the lines are indented.
-/

namespace Checkup.Yaml

/-- What becomes of the line breaks at the end of a block scalar. -/
inductive Chomping where
  /-- All are kept. -/
  | keep
  /-- One is kept. -/
  | clip
  /-- None is kept. -/
  | strip
  deriving DecidableEq, Repr

/-- The header of a block scalar. -/
structure BlockHeader where
  chomping : Chomping := .clip
  /-- How much further the lines are indented than what is around them. -/
  increment : Option Nat := none

/-- A sign for the breaks at the end. -/
def chomping? : Char → Option Chomping
  | '+' => some .keep
  | '-' => some .strip
  | _ => none

/-- A digit for the indentation. -/
def increment? (c : Char) : Option Nat :=
  if '0' ≤ c ∧ c ≤ '9' then some (c.toNat - 48) else none

/-- The signs of a header, each at most once and in any order. -/
def headerSigns : List Char → BlockHeader × List Char
  | [] => ({}, [])
  | c :: rest =>
    match chomping? c, increment? c with
    | some chomping, _ =>
      match rest.head?.bind increment? with
      | some n => (⟨chomping, some n⟩, rest.tail)
      | none => (⟨chomping, none⟩, rest)
    | none, some n =>
      match rest.head?.bind chomping? with
      | some chomping => (⟨chomping, some n⟩, rest.tail)
      | none => (⟨.clip, some n⟩, rest)
    | none, none => ({}, c :: rest)

/-- The header of a block scalar and the text after its line. -/
def blockHeader? (text : List Char) : Option (BlockHeader × List Char) := do
  let (header, text) := headerSigns text
  if header.increment = some 0 || !atSpace text then none
  else some (header, (← restOfLine? text).tail)

/-- The empty lines at the head of a text, the widest indentation among them
and the line after them, and the column and the rest there. -/
def leadingLines (column widest : Nat) : List Char → List Char × Nat × Nat × List Char
  | [] => ([], widest, column, [])
  | c :: rest =>
    if c = ' ' then leadingLines (column + 1) (max widest (column + 1)) rest
    else if isBreak c then
      let (breaks, widest, column, rest) := leadingLines 0 widest rest
      (breakChar c :: breaks, widest, column, rest)
    else ([], widest, column, c :: rest)

/-- The empty lines at the head of a text and the indentation of the line after
them, with the column and the rest there. -/
def emptyLines (indent column : Nat) : List Char → List Char × Nat × List Char
  | [] => ([], column, [])
  | c :: rest =>
    if c = ' ' && decide (column < indent) then emptyLines indent (column + 1) rest
    else if isBreak c then
      let (breaks, column, rest) := emptyLines indent 0 rest
      (breakChar c :: breaks, column, rest)
    else ([], column, c :: rest)

/-- Lines of a block scalar that were read. -/
structure BlockLines where
  text : List Char
  /-- The break after the last line. -/
  lastBreak : List Char
  /-- The breaks of the empty lines after it. -/
  breaks : List Char
  rest : List Char

/-- What stands between two lines, apart from empty lines. -/
def lineJoint (folded : Bool) (line lineBreak breaks rest : List Char) : List Char :=
  if folded && lineBreak = ['\n'] && !line.head?.any isGap && !rest.head?.any isGap then
    (if breaks.isEmpty then [' '] else [])
  else lineBreak

/-- The lines of a block scalar from one that starts at the given column, behind
empty lines. -/
def blockLines (folded : Bool) (indent : Nat) (breaks : List Char) (column : Nat)
    (text : List Char) : BlockLines :=
  if column != indent || text.isEmpty then ⟨[], [], breaks, text⟩
  else
    let line := text.takeWhile fun c => !isBreak c
    let after := toLineEnd text
    let lineBreak := after.take 1 |>.map breakChar
    let (further, column, rest) := emptyLines indent 0 after.tail
    if column = indent ∧ rest ≠ [] ∧ rest.length < text.length then
      let more := blockLines folded indent further column rest
      { more with text := breaks ++ line ++ lineJoint folded line lineBreak further rest ++ more.text }
    else ⟨breaks ++ line, lineBreak, further, rest⟩
termination_by text.length

/-- The lines with what is kept of the breaks at their end. -/
def BlockLines.chomped (lines : BlockLines) : Chomping → List Char
  | .keep => lines.text ++ lines.lastBreak ++ lines.breaks
  | .clip => lines.text ++ lines.lastBreak
  | .strip => lines.text

/-- A block scalar behind its sign, inside something indented to the given
column, and the rest after it. -/
def blockText (folded : Bool) (outer : Int) (text : List Char) :
    Except Flaw (List Char × List Char) :=
  match blockHeader? text with
  | none => .error .malformed
  | some (header, text) =>
    let least := max 1 (outer + 1).toNat
    let lines := match header.increment with
      | some n =>
        let indent := least + n - 1
        let (breaks, column, rest) := emptyLines indent 0 text
        blockLines folded indent breaks column rest
      | none =>
        let (breaks, widest, column, rest) := leadingLines 0 0 text
        blockLines folded (max least widest) breaks column rest
    .ok (lines.chomped header.chomping, lines.rest)

end Checkup.Yaml
