import Checkup.Text.Counting

/-!
# Lengths of functions

The lines of a source are read one by one. A line that declares a function
opens it; the function is closed by the first later line at whose end the
braces counted since it was opened are balanced. What is declared inside an
open function is not looked at.
-/

namespace Checkup.Source

open Checkup.Text

/-- The rest of a text after `=` with blanks around it. -/
def afterAssign? (text : List Char) : Option (List Char) :=
  (after? ['='] (trimStart text)).map trimStart

/-- A constant that is given a function: its name and the text after the `=`. -/
def constant? (text : List Char) : Option (List Char × List Char) := do
  let (name, rest) ← run? isWord (← takeBlanks? (← after? "const".toList text))
  some (name, ← afterAssign? rest)

/-- The start of a parameter list, for an asynchronous function maybe. -/
def opensParameters (text : List Char) : Bool :=
  let text := match after? "async".toList text with
    | some rest => trimStart rest
    | none => text
  text.head? = some '('

/-- A call of `memo`. -/
def callsMemo (text : List Char) : Bool :=
  (after? "memo".toList (afterOptional "React.".toList text)).any wordEnds

/-- The name of the function that is declared at a position. -/
def declaration : Recogniser (List Char) := fun _ text =>
  match after? "function".toList text with
  | some rest => do
    let (name, _) ← run? isWord (← takeBlanks? rest)
    some name
  | none => do
    let (name, rest) ← constant? text
    if opensParameters rest || callsMemo rest then some name else none

/-- The name of the first function that a text declares. -/
def declared? (text : List Char) : Option (List Char) := firstSighting declaration none text

/-- Opening braces less closing ones. -/
def braceBalance (line : List Char) : Int := (line.count '\x7b' : Int) - line.count '\x7d'

/-- A function and the number of lines from its first to its last. -/
structure FunctionLength where
  name : String
  length : Int
  deriving DecidableEq, Repr

/-- What has been read: whether a function is open, the last one that was
opened, the braces since, and the long functions so far. -/
structure Tracker where
  isOpen : Bool := false
  name : String := ""
  start : Int := 0
  depth : Int := 0
  long : List FunctionLength := []
  deriving DecidableEq, Repr

namespace Tracker

/-- Open a function at a line. -/
def openAt (tracker : Tracker) (index : Int) (name : List Char) : Tracker :=
  { tracker with isOpen := true, name := String.ofList name, start := index, depth := 0 }

/-- Count the braces of a line, and close the function if it ends there. -/
def advance (limit : Int) (tracker : Tracker) (index : Int) (line : List Char) : Tracker :=
  let depth := tracker.depth + braceBalance line
  if depth ≤ 0 ∧ tracker.start < index then
    let length := index - tracker.start
    { tracker with
      isOpen := false
      depth
      long := if limit < length then tracker.long ++ [⟨tracker.name, length⟩] else tracker.long }
  else { tracker with depth }

/-- Read the line with the given index. -/
def feed (limit : Int) (tracker : Tracker) (index : Int) (line : List Char) : Tracker :=
  if tracker.isOpen then tracker.advance limit index line
  else
    match declared? line with
    | none => tracker
    | some name => (tracker.openAt index name).advance limit index line

/-- Read lines with indices from a first one on. -/
def run (limit : Int) (tracker : Tracker) (index : Int) : List (List Char) → Tracker
  | [] => tracker
  | line :: lines => run limit (tracker.feed limit index line) (index + 1) lines

end Tracker

/-- The functions with more lines than the limit. -/
def longFunctions (limit : Int) (lines : List (List Char)) : List FunctionLength :=
  (Tracker.run limit {} 0 lines).long

/-- The limit unless said otherwise. -/
def functionLimit : Int := 80

end Checkup.Source
