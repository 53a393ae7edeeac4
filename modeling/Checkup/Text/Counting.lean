import Checkup.Text.Blank
import Checkup.Text.LetterCase
import Checkup.Text.Numeral
import Checkup.Text.Occurrence
import Checkup.Text.Word

/-!
# Counting phrases

Tools announce how much they found in phrases such as `3 problems` or
`Found 2 errors`: a number without leading zeros next to fixed words.
-/

namespace Checkup.Text

/-- A decimal run, and the text after it. -/
def takeDigits? (text : List Char) : Option (List Char × List Char) := run? isDecimal text

/-- Blanks, at least one, and the text after them. -/
def takeBlanks? (text : List Char) : Option (List Char) := (run? isBlank text).map (·.2)

/-- A decimal run that starts with an ASCII digit other than zero, and the text after it. -/
def takeCount? : List Char → Option (List Char × List Char)
  | [] => none
  | c :: rest =>
    if '1' ≤ c ∧ c ≤ '9' then some (c :: rest.takeWhile isDecimal, rest.dropWhile isDecimal)
    else none

/-- A count at a word start, blanks, and one of some words in either case, with
an optional s and a word end behind it. -/
def countedCaseless (words : List String) : Recogniser (Option (List Char)) := fun before text => do
  let (digits, rest) ← if wordStarts before then takeCount? text else none
  let rest ← takeBlanks? rest
  let rest ← words.findSome? fun word => afterCaseless? word.toList rest
  if wordEnds (afterLetter 's' rest) then some (some digits) else none

/-- A count at a word start, a gap, and a word with an optional s and a word end behind it. -/
def countedWord (gap : List Char → Option (List Char)) (word : String) :
    Recogniser (Option (List Char)) := fun before text => do
  let (digits, rest) ← if wordStarts before then takeCount? text else none
  let rest ← after? word.toList (← gap rest)
  if wordEnds (afterOptional ['s'] rest) then some (some digits) else none

/-- The word `Found`, a count, and words after it. -/
def foundCount (words : String) : Recogniser (Option (List Char)) := fun _ text => do
  let (digits, rest) ← takeCount? (← after? "Found ".toList text)
  let _ ← after? words.toList rest
  some (some digits)

/-- The same in either case; the words are given in small letters. -/
def foundCountCaseless (words : String) : Recogniser (Option (List Char)) := fun _ text => do
  let (digits, rest) ← takeCount? (← afterCaseless? "found ".toList text)
  let _ ← afterCaseless? words.toList rest
  some (some digits)

/-- A whole word in either case, which counts once. -/
def wholeWordCaseless (word : String) : Recogniser (Option (List Char)) := fun before text => do
  let rest ← if wordStarts before then afterCaseless? word.toList text else none
  if wordEnds rest then some none else none

end Checkup.Text
