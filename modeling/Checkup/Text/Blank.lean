import Checkup.Text.Ranges

/-!
# Blanks

The characters that count as white space, and texts without them at their ends.
-/

namespace Checkup.Text

/-- White space of every script, with the four information separators. -/
def blankRanges : Ranges :=
  [(0x09, 0x0D), (0x1C, 0x20), (0x85, 0x85), (0xA0, 0xA0), (0x1680, 0x1680), (0x2000, 0x200A),
   (0x2028, 0x2029), (0x202F, 0x202F), (0x205F, 0x205F), (0x3000, 0x3000)]

/-- A character that separates words. -/
def isBlank (c : Char) : Bool := blankRanges.has c

/-- Nothing but blanks. -/
def allBlank (text : List Char) : Bool := text.all isBlank

/-- The text from its first character that is not a blank. -/
def trimStart (text : List Char) : List Char := text.dropWhile isBlank

/-- The text up to its last character that is not a blank. -/
def trimEnd : List Char → List Char
  | [] => []
  | c :: rest =>
    match trimEnd rest with
    | [] => if isBlank c then [] else [c]
    | kept => c :: kept

/-- The text without the blanks at its two ends. -/
def trim (text : List Char) : List Char := trimEnd (trimStart text)

/-- The same on strings. -/
def strip (text : String) : String := String.ofList (trim text.toList)

/-- Core's white space is among the blanks. -/
theorem isBlank_of_isWhitespace {c : Char} (h : c.isWhitespace = true) : isBlank c = true := by
  simp only [Char.isWhitespace, Bool.or_eq_true, decide_eq_true_eq] at h
  rcases h with ((h | h) | h) | h <;> subst h <;> decide

end Checkup.Text
