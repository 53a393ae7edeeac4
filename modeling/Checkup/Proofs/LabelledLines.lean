import Checkup.Proofs.Numerals
import Checkup.Text.Lines
import Checkup.Text.Stretch

/-!
# Labelled lines

A report says much on lines of their own, behind a label. A text that is made of
lines is cut into them again if no line feed stands in any, and a label leads to
what is said behind it if no earlier line starts with the label, too.

A document is read by its headings: each has the lines below it up to the next one, and
these may have headings of their own. What is written as headings with lines below them
is read back as it was written, as long as the lines below do not look like headings.
-/

namespace Checkup.Text

/-- A text without a line feed. -/
def IsOneLine (text : String) : Prop := '\n' ∉ text.toList

/-- Whether a text is on one line can be seen. -/
instance (text : String) : Decidable (IsOneLine text) :=
  inferInstanceAs (Decidable ('\n' ∉ text.toList))

/-- Texts on one line after each other are on one line. -/
theorem IsOneLine.append {text rest : String} (h : IsOneLine text) (hr : IsOneLine rest) :
    IsOneLine (text ++ rest) := by
  unfold IsOneLine
  rw [String.toList_append]
  exact fun hm => (List.mem_append.mp hm).elim h hr

/-- A natural number is written on one line. -/
theorem isOneLine_natCast (n : Nat) : IsOneLine (toString n) := by
  unfold IsOneLine
  rw [show (toString n).toList = Nat.toDigits 10 n from Nat.toList_repr]
  exact not_mem_toDigits (by decide) n

/-- A whole number is written on one line. -/
theorem isOneLine_int (n : Int) : IsOneLine (toString n) := by
  cases n with
  | ofNat n => exact isOneLine_natCast n
  | negSucc n =>
    have hsign : IsOneLine "-" := by decide
    exact hsign.append (isOneLine_natCast (n + 1))

/-- A number and what is counted are on one line. -/
theorem isOneLine_counted (n : Nat) {noun : String} (h : IsOneLine noun) : IsOneLine (toString n ++ noun) :=
  (isOneLine_natCast n).append h

/-- A further number and what is counted stay on the line. -/
theorem IsOneLine.counted {text noun : String} (ht : IsOneLine text) (n : Nat) (h : IsOneLine noun) :
    IsOneLine (text ++ toString n ++ noun) :=
  (ht.append (isOneLine_natCast n)).append h

/-! ## Cutting -/

/-- What stands before a line feed is cut off as a line. -/
theorem sourceLines_append_line {line : List Char} (h : '\n' ∉ line) (rest : List Char) :
    sourceLines (line ++ '\n' :: rest) = line :: sourceLines rest := by
  induction line with
  | nil => rw [List.nil_append, sourceLines, if_pos rfl]
  | cons c line ih =>
    have hc : c ≠ '\n' := fun he => h (he ▸ List.mem_cons_self)
    have hline : '\n' ∉ line := fun hm => h (List.mem_cons_of_mem c hm)
    rw [List.cons_append, sourceLines, if_neg hc, ih hline, extendFirst]

/-- Lines before a rest are cut off where line feeds stand between them all. -/
theorem sourceLines_intercalate {lines rest : List String} (h : ∀ line ∈ lines, IsOneLine line)
    (hr : rest ≠ []) :
    sourceLines (String.intercalate "\n" (lines ++ rest)).toList =
      lines.map String.toList ++ sourceLines (String.intercalate "\n" rest).toList := by
  induction lines with
  | nil => rfl
  | cons line lines ih =>
    have hne : lines ++ rest ≠ [] := List.append_ne_nil_of_right_ne_nil lines hr
    have hline : '\n' ∉ line.toList := h line List.mem_cons_self
    have htext : (line ++ "\n" ++ String.intercalate "\n" (lines ++ rest)).toList =
        line.toList ++ '\n' :: (String.intercalate "\n" (lines ++ rest)).toList := by
      rw [String.toList_append, String.toList_append, List.append_assoc]
      rfl
    rw [List.cons_append, String.intercalate_cons_of_ne_nil hne, htext, sourceLines_append_line hline,
      ih fun each he => h each (List.mem_cons_of_mem line he), List.map_cons, List.cons_append]

/-- Lines before a rest are cut off where a line feed ends each of them. -/
theorem sourceLines_join {lines : List String} (h : ∀ line ∈ lines, IsOneLine line) (rest : List String) :
    sourceLines (String.join ((lines ++ rest).map (· ++ "\n"))).toList =
      lines.map String.toList ++ sourceLines (String.join (rest.map (· ++ "\n"))).toList := by
  induction lines with
  | nil => rfl
  | cons line lines ih =>
    have hline : '\n' ∉ line.toList := h line List.mem_cons_self
    have htext : (String.join ((line :: lines ++ rest).map (· ++ "\n"))).toList =
        line.toList ++ '\n' :: (String.join ((lines ++ rest).map (· ++ "\n"))).toList := by
      rw [String.toList_join, List.cons_append, List.map_cons, List.flatMap_cons, String.toList_append,
        List.append_assoc, String.toList_join]
      rfl
    rw [htext, sourceLines_append_line hline, ih fun each he => h each (List.mem_cons_of_mem line he),
      List.map_cons, List.cons_append]

/-! ## Labels -/

/-- What stands behind a label on the first line that starts with it. -/
def labelled? (label : String) (lines : List (List Char)) : Option (List Char) :=
  lines.findSome? (after? label.toList)

/-- The lines under a heading of the second level, up to the next one. -/
def underHeading (heading : String) (lines : List (List Char)) : List (List Char) :=
  ((lines.dropWhile (· ≠ heading.toList)).drop 1).takeWhile fun line => (after? "## ".toList line).isNone

/-- A line does not start with a label. -/
def Lacks (label : String) (line : List Char) : Prop := after? label.toList line = none

/-- Whether a line starts with a label can be seen. -/
instance (label : String) (line : List Char) : Decidable (Lacks label line) :=
  inferInstanceAs (Decidable (after? label.toList line = none))

/-- A line that starts with another label lacks a label, if neither starts with the other. -/
theorem Lacks.of_isPrefix {label other : String} {line : List Char} (h : ¬label.toList <+: other.toList)
    (ho : ¬other.toList <+: label.toList) (hp : other.toList <+: line) : Lacks label line := by
  unfold Lacks
  cases hr : after? label.toList line with
  | none => rfl
  | some rest =>
    have hlabel : label.toList <+: line := ⟨rest, (after?_eq_some.mp hr).symm⟩
    exact absurd (List.prefix_or_prefix_of_prefix hlabel hp) (not_or.mpr ⟨h, ho⟩)

/-- What stands behind another label lacks a label, if neither starts with the other. -/
theorem Lacks.of_differ {label other : String} (h : ¬label.toList <+: other.toList)
    (ho : ¬other.toList <+: label.toList) (rest : String) : Lacks label (other ++ rest).toList := by
  rw [String.toList_append]
  exact .of_isPrefix h ho (List.prefix_append _ _)

/-- Lines without the label are passed over. -/
theorem labelled?_append {label : String} {front : List (List Char)} (h : ∀ line ∈ front, Lacks label line)
    (lines : List (List Char)) : labelled? label (front ++ lines) = labelled? label lines := by
  unfold labelled?
  rw [List.findSome?_append, List.findSome?_eq_none_iff.mpr h, Option.none_or]

/-- A line without the label is passed over. -/
theorem labelled?_cons_of_lacks {label : String} {line : List Char} (h : Lacks label line)
    (lines : List (List Char)) : labelled? label (line :: lines) = labelled? label lines := by
  unfold labelled?
  rw [List.findSome?_cons, show after? label.toList line = none from h]

/-- The first line that starts with the label is the one that counts. -/
theorem labelled?_cons (label value : String) (lines : List (List Char)) :
    labelled? label ((label ++ value).toList :: lines) = some value.toList := by
  unfold labelled?
  rw [String.toList_append, List.findSome?_cons, after?_eq_some.mpr rfl]

/-- What stands before a heading is passed over. -/
theorem underHeading_append {heading : String} {front : List (List Char)}
    (h : ∀ line ∈ front, Lacks heading line) (lines : List (List Char)) :
    underHeading heading (front ++ heading.toList :: lines) =
      lines.takeWhile fun line => (after? "## ".toList line).isNone := by
  have hfront : ∀ line ∈ front, line ≠ heading.toList := by
    rintro line hline rfl
    have hself : after? heading.toList heading.toList = some [] :=
      after?_eq_some.mpr (List.append_nil _).symm
    have hlacks : after? heading.toList heading.toList = none := h _ hline
    rw [hself] at hlacks
    cases hlacks
  unfold underHeading
  rw [List.dropWhile_append_of_pos (by simpa using hfront), List.dropWhile_cons_of_neg (by simp)]
  rfl

/-! ## Lines under headings -/

/-- A heading with what stands below it. -/
structure Block (α : Type) where
  heading : List Char
  below : List α

variable {α β : Type}

/-- What stands below a heading, read in another way. -/
def Block.under (read : List α → List β) (block : Block α) : Block β := ⟨block.heading, read block.below⟩

/-- The lines of a block, each member below it written as some lines. -/
def Block.lines (write : α → List (List Char)) (block : Block α) : List (List Char) :=
  block.heading :: block.below.flatMap write

/-- The lines that start with a mark, each with the lines below it up to the next one. -/
def headed (mark : String) : List (List Char) → List (Block (List Char))
  | [] => []
  | line :: lines =>
    if Lacks mark line then headed mark lines
    else ⟨line, lines.takeWhile fun below => decide (Lacks mark below)⟩ :: headed mark lines

variable {mark : String}

/-- A line that does not lack a mark starts with it. -/
theorem not_lacks_iff {line : List Char} : ¬Lacks mark line ↔ mark.toList <+: line := by
  unfold Lacks
  rw [← ne_eq, Option.ne_none_iff_exists']
  exact exists_congr fun rest => after?_eq_some.trans eq_comm

/-- Lines without the mark are passed over. -/
theorem headed_append {front : List (List Char)} (h : ∀ line ∈ front, Lacks mark line) (lines : List (List Char)) :
    headed mark (front ++ lines) = headed mark lines := by
  induction front with
  | nil => rfl
  | cons line front ih =>
    rw [List.cons_append, headed, if_pos (h line List.mem_cons_self)]
    exact ih fun each he => h each (List.mem_cons_of_mem line he)

/-- A block whose heading has the mark, and whose lines below lack it. -/
structure Block.IsHeaded (mark : String) (write : α → List (List Char)) (block : Block α) : Prop where
  heading : ¬Lacks mark block.heading
  below : ∀ line ∈ block.below.flatMap write, Lacks mark line

/-- Lines that start with a heading, or no lines. -/
def StartsHeaded (mark : String) (lines : List (List Char)) : Prop := ∀ line ∈ lines.head?, ¬Lacks mark line

/-- A block in front of another heading is read as it was written. -/
theorem headed_block {write : α → List (List Char)} {block : Block α} (h : block.IsHeaded mark write)
    {rest : List (List Char)} (hr : StartsHeaded mark rest) :
    headed mark (block.lines write ++ rest) = block.under (·.flatMap write) :: headed mark rest := by
  have hbelow : (block.below.flatMap write ++ rest).takeWhile (fun below => decide (Lacks mark below)) =
      block.below.flatMap write := by
    rw [List.takeWhile_append_of_pos fun line hl => decide_eq_true (h.below line hl)]
    cases rest with
    | nil => exact List.append_nil _
    | cons line rest =>
      have hline : ¬Lacks mark line := hr line rfl
      rw [List.takeWhile_cons_of_neg (by simpa using hline), List.append_nil]
  unfold Block.lines Block.under
  rw [List.cons_append, headed, if_neg h.heading, hbelow, headed_append h.below]

/-- Blocks start with a heading, and so does what stands behind them if there are none. -/
theorem startsHeaded_blocks {write : α → List (List Char)} {blocks : List (Block α)}
    (h : ∀ block ∈ blocks, block.IsHeaded mark write) {rest : List (List Char)} (hr : StartsHeaded mark rest) :
    StartsHeaded mark (blocks.flatMap (Block.lines write) ++ rest) := by
  cases blocks with
  | nil => exact hr
  | cons block blocks =>
    intro line hl
    cases hl
    exact (h block List.mem_cons_self).heading

/-- Blocks are read as they were written. -/
theorem headed_blocks {write : α → List (List Char)} {blocks : List (Block α)}
    (h : ∀ block ∈ blocks, block.IsHeaded mark write) {rest : List (List Char)} (hr : StartsHeaded mark rest) :
    headed mark (blocks.flatMap (Block.lines write) ++ rest) =
      blocks.map (Block.under (·.flatMap write)) ++ headed mark rest := by
  induction blocks with
  | nil => rfl
  | cons block blocks ih =>
    have hmore : ∀ next ∈ blocks, next.IsHeaded mark write := fun next hn => h next (List.mem_cons_of_mem block hn)
    rw [List.flatMap_cons, List.append_assoc,
      headed_block (h block List.mem_cons_self) (startsHeaded_blocks hmore hr), ih hmore]
    rfl

/-- Blocks without anything behind them are read as they were written. -/
theorem headed_blocks_nil {write : α → List (List Char)} {blocks : List (Block α)}
    (h : ∀ block ∈ blocks, block.IsHeaded mark write) :
    headed mark (blocks.flatMap (Block.lines write)) = blocks.map (Block.under (·.flatMap write)) := by
  have hrest : StartsHeaded mark [] := nofun
  have hread := headed_blocks h hrest
  rwa [List.append_nil, headed, List.append_nil] at hread

/-! ## Empty lines -/

/-- The lines that are not empty. -/
def inked (lines : List (List Char)) : List (List Char) := lines.filter fun line => !line.isEmpty

/-- A line with a character is kept. -/
theorem inked_cons {line : List Char} (h : line ≠ []) (lines : List (List Char)) :
    inked (line :: lines) = line :: inked lines := by
  cases line with
  | nil => exact absurd rfl h
  | cons c line => rfl

theorem inked_append (front back : List (List Char)) : inked (front ++ back) = inked front ++ inked back :=
  List.filter_append front back

theorem mem_of_mem_inked {lines : List (List Char)} {line : List Char} (h : line ∈ inked lines) : line ∈ lines :=
  (List.mem_filter.mp h).1

/-- Lines that all have a character are kept. -/
theorem inked_eq_self {lines : List (List Char)} (h : ∀ line ∈ lines, line ≠ []) : inked lines = lines :=
  List.filter_eq_self.mpr fun line hl => by
    rw [Bool.not_eq_true', List.isEmpty_eq_false_iff]
    exact h line hl

end Checkup.Text
