/-!
# Lines

Tool output is cut at every line boundary that a terminal or an editor knows;
source text is cut at line feeds alone.
-/

namespace Checkup.Text

/-- A character that ends a line of tool output. -/
def isLineBreak (c : Char) : Bool :=
  (0x0A ≤ c.toNat && c.toNat ≤ 0x0D) || (0x1C ≤ c.toNat && c.toNat ≤ 0x1E) ||
    c.toNat = 0x85 || c.toNat = 0x2028 || c.toNat = 0x2029

/-- Put a character before the first of some lines. -/
def extendFirst (c : Char) : List (List Char) → List (List Char)
  | [] => [[c]]
  | line :: lines => (c :: line) :: lines

/-- The lines of a text without their ends; a carriage return and the line
feed after it end one line, and what ends the text starts no further line. -/
def lines : List Char → List (List Char)
  | [] => []
  | '\r' :: '\n' :: rest => [] :: lines rest
  | c :: rest => if isLineBreak c then [] :: lines rest else extendFirst c (lines rest)

/-- Lines as an editor counts them: cut at line feeds alone, and a line feed
at the end of the text starts no further line. -/
def sourceLines : List Char → List (List Char)
  | [] => []
  | c :: rest => if c = '\n' then [] :: sourceLines rest else extendFirst c (sourceLines rest)

/-- Text as it is read from a file: every kind of line end becomes a line feed. -/
def unifyLineEnds : List Char → List Char
  | [] => []
  | '\r' :: '\n' :: rest => '\n' :: unifyLineEnds rest
  | c :: rest => (if c = '\r' then '\n' else c) :: unifyLineEnds rest

/-- Cutting at line feeds composes over texts that end with one. -/
theorem sourceLines_append (text rest : List Char) :
    sourceLines (text ++ '\n' :: rest) = sourceLines (text ++ ['\n']) ++ sourceLines rest := by
  induction text with
  | nil => simp [sourceLines]
  | cons c text ih =>
    by_cases h : c = '\n'
    · simp [sourceLines, h, ih]
    · have hne : ∃ line lines, sourceLines (text ++ ['\n']) = line :: lines := by
        cases text with
        | nil => exact ⟨[], [], by simp [sourceLines]⟩
        | cons d text =>
          by_cases hd : d = '\n'
          · exact ⟨[], _, by simp [sourceLines, hd]; rfl⟩
          · cases hl : sourceLines (text ++ ['\n']) with
            | nil => exact ⟨[d], [], by simp [sourceLines, hd, hl, extendFirst]⟩
            | cons line lines => exact ⟨d :: line, lines, by simp [sourceLines, hd, hl, extendFirst]⟩
      obtain ⟨line, lines, hl⟩ := hne
      rw [hl] at ih
      simp [sourceLines, h, ih, hl, extendFirst]

end Checkup.Text
