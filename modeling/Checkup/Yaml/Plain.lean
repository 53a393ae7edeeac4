import Checkup.Yaml.Quoted

/-!
# Plain scalars

A plain scalar is a row of words without quotes. It goes on over line breaks
as long as the lines are indented, and ends at a colon with a blank behind it,
at a comment, and inside brackets also at the signs that stand for structure.
-/

namespace Checkup.Yaml

/-- A sign that stands for structure inside brackets. -/
def isFlowSign (c : Char) : Bool :=
  c = ',' || c = '[' || c = ']' || c = '\x7b' || c = '\x7d'

/-- A plain word ends in front of the text. -/
def endsPlain (inFlow : Bool) : List Char → Bool
  | [] => true
  | c :: rest =>
    atWordEnd (c :: rest) ||
      (c = ':' && (atWordEnd rest || (inFlow && rest.head?.any isFlowSign))) ||
      (inFlow && (isFlowSign c || c = '?'))

/-- A plain word and the rest after it. -/
def plainWord (inFlow : Bool) : List Char → List Char × List Char
  | [] => ([], [])
  | c :: rest =>
    if endsPlain inFlow (c :: rest) then ([], c :: rest)
    else
      let (word, rest) := plainWord inFlow rest
      (c :: word, rest)

/-- What stands between two plain words. -/
structure PlainGap where
  /-- What it is read as. -/
  text : List Char
  /-- It holds a line break. -/
  broken : Bool
  /-- Number of spaces after the last line break. -/
  column : Nat
  rest : List Char

/-- The breaks at the head of a text with spaces around them, none in front of
a document marker, with the column and the rest after them. -/
def plainBreaks : (lineStart : Bool) → (column : Nat) → List Char →
    Option (List Char) × Nat × List Char
  | _, column, [] => (some [], column, [])
  | lineStart, column, c :: rest =>
    if lineStart && isMarker (c :: rest) then (none, column, c :: rest)
    else if c = ' ' then plainBreaks false (column + 1) rest
    else if isBreak c then
      let (breaks, column, rest) := plainBreaks true 0 rest
      (breaks.map (breakChar c :: ·), column, rest)
    else (some [], column, c :: rest)

/-- The gap at the head of a text. -/
def plainGap (text : List Char) : PlainGap :=
  let spaces := text.takeWhile (· = ' ')
  match text.dropWhile (· = ' ') with
  | [] => ⟨spaces, false, 0, []⟩
  | c :: rest =>
    if isBreak c then
      match plainBreaks true 0 rest with
      | (some breaks, column, rest) => ⟨foldBreaks (breakChar c) breaks, true, column, rest⟩
      | (none, column, rest) => ⟨[], true, column, rest⟩
    else ⟨spaces, false, 0, c :: rest⟩

/-- A plain scalar that was read. -/
structure PlainText where
  text : List Char
  /-- A line break follows it. -/
  broken : Bool
  rest : List Char

/-- A plain scalar whose further lines are indented by at least so many columns. -/
def plainText (inFlow : Bool) (indent : Int) (text : List Char) : PlainText :=
  let (word, rest) := plainWord inFlow text
  let gap := plainGap rest
  let ends := gap.text.isEmpty || gap.rest.head? = some '#' ||
    (!inFlow && gap.broken && decide ((gap.column : Int) < indent)) ||
    (plainWord inFlow gap.rest).1.isEmpty
  if !ends && gap.rest.length < text.length then
    let further := plainText inFlow indent gap.rest
    { further with text := word ++ gap.text ++ further.text }
  else ⟨word, gap.broken, gap.rest⟩
termination_by text.length
decreasing_by next h => simpa using (Bool.and_eq_true_iff.mp h).2

end Checkup.Yaml
