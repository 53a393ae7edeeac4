import Checkup.Text.Lines
import Checkup.Text.Occurrence

/-!
# Passages of a text

A passage is a part of a text without gaps. A mark occurs in a text exactly if it is a
passage of it, every line is one, and a passage without line ends lies within a line.
So what is said within a line is told from the lines alone, and what two texts after each
other say is told from their lines and the one at the seam.
-/

namespace Checkup.Text

/-- A mark occurs exactly if it is a passage. -/
theorem occurs_iff {mark text : List Char} : occurs mark text = true ↔ mark <:+: text := by
  induction text with
  | nil => simp [occurs]
  | cons c rest ih => rw [occurs, Bool.or_eq_true, ih, List.isPrefixOf_iff_prefix, List.infix_cons_iff]

/-! ## Lines -/

/-- The first of some lines after a character is put before it. -/
theorem headD_extendFirst (c : Char) (lines : List (List Char)) :
    (extendFirst c lines).headD [] = c :: lines.headD [] := by
  cases lines <;> rfl

/-- A line is the first one with the new character, or one of the old lines. -/
theorem mem_extendFirst {c : Char} {lines : List (List Char)} {line : List Char}
    (h : line ∈ extendFirst c lines) : line = c :: lines.headD [] ∨ line ∈ lines := by
  cases lines with
  | nil => exact .inl (List.mem_singleton.mp h)
  | cons first more =>
    rcases List.mem_cons.mp h with h | h
    · exact .inl h
    · exact .inr (List.mem_cons_of_mem first h)

/-- The first line with the new character is one of the new lines. -/
theorem headD_mem_extendFirst (c : Char) (lines : List (List Char)) :
    c :: lines.headD [] ∈ extendFirst c lines := by
  cases lines <;> exact List.mem_cons_self

/-- Every old line is a passage of a new one. -/
theorem exists_mem_extendFirst {lines : List (List Char)} {line : List Char} (h : line ∈ lines) (c : Char) :
    ∃ longer ∈ extendFirst c lines, line <:+: longer := by
  cases lines with
  | nil => cases h
  | cons first more =>
    rcases List.mem_cons.mp h with rfl | h
    · exact ⟨c :: line, List.mem_cons_self, (List.suffix_cons c line).isInfix⟩
    · exact ⟨line, List.mem_cons_of_mem _ h, List.infix_refl line⟩

/-- The first line starts the text. -/
theorem headD_lines_isPrefix (text : List Char) : (lines text).headD [] <+: text := by
  fun_induction lines text with
  | case1 => exact List.nil_prefix
  | case2 rest => exact List.nil_prefix
  | case3 c rest _ hb => exact List.nil_prefix
  | case4 c rest _ hb ih =>
    rw [headD_extendFirst]
    exact List.cons_prefix_cons.mpr ⟨rfl, ih⟩

/-- Every line is a passage of the text. -/
theorem isInfix_of_mem_lines {line text : List Char} (h : line ∈ lines text) : line <:+: text := by
  fun_induction lines text with
  | case1 => cases h
  | case2 rest ih =>
    rcases List.mem_cons.mp h with rfl | h
    · exact List.nil_infix
    · exact List.infix_cons (List.infix_cons (ih h))
  | case3 c rest _ hb ih =>
    rcases List.mem_cons.mp h with rfl | h
    · exact List.nil_infix
    · exact List.infix_cons (ih h)
  | case4 c rest _ hb ih =>
    rcases mem_extendFirst h with rfl | h
    · exact (List.cons_prefix_cons.mpr ⟨rfl, headD_lines_isPrefix rest⟩).isInfix
    · exact List.infix_cons (ih h)

/-- What starts a text without a line end starts its first line. -/
theorem isPrefix_headD_lines {part text : List Char} (hp : ∀ c ∈ part, isLineBreak c = false)
    (h : part <+: text) : part <+: (lines text).headD [] := by
  fun_induction lines text generalizing part with
  | case1 => exact h
  | case2 rest _ =>
    rcases List.prefix_cons_iff.mp h with rfl | ⟨more, rfl, -⟩
    · exact List.nil_prefix
    · exact absurd (hp '\r' List.mem_cons_self) (by decide)
  | case3 c rest _ hb _ =>
    rcases List.prefix_cons_iff.mp h with rfl | ⟨more, rfl, -⟩
    · exact List.nil_prefix
    · exact absurd (hp c List.mem_cons_self) (by rw [hb]; decide)
  | case4 c rest _ hb ih =>
    rw [headD_extendFirst]
    rcases List.prefix_cons_iff.mp h with rfl | ⟨more, rfl, hmore⟩
    · exact List.nil_prefix
    · have hrest := ih (fun d hd => hp d (List.mem_cons_of_mem c hd)) hmore
      exact List.cons_prefix_cons.mpr ⟨rfl, hrest⟩

/-- A passage does not start with a character that it does not hold. -/
theorem isInfix_of_isInfix_cons {part rest : List Char} {c : Char} (hne : part ≠ []) (hc : c ∉ part)
    (h : part <:+: c :: rest) : part <:+: rest := by
  rcases List.infix_cons_iff.mp h with h | h
  · rcases List.prefix_cons_iff.mp h with rfl | ⟨more, rfl, -⟩
    · exact absurd rfl hne
    · exact absurd List.mem_cons_self hc
  · exact h

/-- A passage without a line end lies within a line. -/
theorem exists_mem_lines {part text : List Char} (hne : part ≠ [])
    (hp : ∀ c ∈ part, isLineBreak c = false) (h : part <:+: text) :
    ∃ line ∈ lines text, part <:+: line := by
  have hbreak : ∀ c, isLineBreak c = true → c ∉ part := fun c hb hc => by
    rw [hp c hc] at hb
    cases hb
  fun_induction lines text with
  | case1 => exact absurd (List.infix_nil.mp h) hne
  | case2 rest ih =>
    have hrest := isInfix_of_isInfix_cons hne (hbreak '\r' (by decide)) h
    obtain ⟨line, hl, hpart⟩ := ih (isInfix_of_isInfix_cons hne (hbreak '\n' (by decide)) hrest)
    exact ⟨line, List.mem_cons_of_mem [] hl, hpart⟩
  | case3 c rest _ hb ih =>
    obtain ⟨line, hl, hpart⟩ := ih (isInfix_of_isInfix_cons hne (hbreak c hb) h)
    exact ⟨line, List.mem_cons_of_mem [] hl, hpart⟩
  | case4 c rest _ hb ih =>
    rcases List.infix_cons_iff.mp h with h | h
    · refine ⟨c :: (lines rest).headD [], headD_mem_extendFirst c _, ?_⟩
      rcases List.prefix_cons_iff.mp h with rfl | ⟨more, rfl, hmore⟩
      · exact absurd rfl hne
      · have hrest := isPrefix_headD_lines (fun d hd => hp d (List.mem_cons_of_mem c hd)) hmore
        exact (List.cons_prefix_cons.mpr ⟨rfl, hrest⟩).isInfix
    · obtain ⟨line, hl, hpart⟩ := ih h
      obtain ⟨longer, hlonger, hline⟩ := exists_mem_extendFirst hl c
      exact ⟨longer, hlonger, hpart.trans hline⟩

/-- A text that is empty or starts with the end of a line. -/
def StartsBroken (text : List Char) : Prop := ∀ c ∈ text.head?, isLineBreak c = true

/-- The first line starts the text, and every other one stands behind the end of a line; each reaches
up to the next end. -/
theorem lines_places (text : List Char) :
    (∃ back, text = (lines text).headD [] ++ back ∧ StartsBroken back) ∧
      ∀ line ∈ (lines text).tail, ∃ front c back,
        text = front ++ c :: (line ++ back) ∧ isLineBreak c = true ∧ StartsBroken back := by
  -- Behind the end of a line, each line of the rest has its place in the whole.
  have hbehind : ∀ (c : Char) {rest : List Char}, isLineBreak c = true →
      ((∃ back, rest = (lines rest).headD [] ++ back ∧ StartsBroken back) ∧
        ∀ line ∈ (lines rest).tail, ∃ front d back,
          rest = front ++ d :: (line ++ back) ∧ isLineBreak d = true ∧ StartsBroken back) →
      ∀ line ∈ lines rest, ∃ front d back,
        c :: rest = front ++ d :: (line ++ back) ∧ isLineBreak d = true ∧ StartsBroken back := by
    rintro c rest hc ⟨⟨back, hrest, hback⟩, htail⟩ line hline
    cases hlines : lines rest with
    | nil =>
      rw [hlines] at hline
      cases hline
    | cons first more =>
      rw [hlines] at hline hrest htail
      rcases List.mem_cons.mp hline with rfl | hmore
      · exact ⟨[], c, back, congrArg (c :: ·) hrest, hc, hback⟩
      · obtain ⟨front, d, back, hsplit, hd, hbroken⟩ := htail line hmore
        exact ⟨c :: front, d, back, congrArg (c :: ·) hsplit, hd, hbroken⟩
  have hstart : ∀ {c : Char} {rest : List Char}, isLineBreak c = true → StartsBroken (c :: rest) := by
    rintro c rest hc d hd
    cases hd
    exact hc
  fun_induction lines text with
  | case1 => exact ⟨⟨[], rfl, fun c hc => by cases hc⟩, fun line hline => by cases hline⟩
  | case2 rest ih =>
    refine ⟨⟨_, rfl, hstart (by decide)⟩, fun line hline => ?_⟩
    obtain ⟨front, d, back, hsplit, hd, hback⟩ := hbehind '\n' (by decide) ih line hline
    exact ⟨'\r' :: front, d, back, congrArg ('\r' :: ·) hsplit, hd, hback⟩
  | case3 c rest _ hb ih => exact ⟨⟨_, rfl, hstart hb⟩, hbehind c hb ih⟩
  | case4 c rest _ hb ih =>
    obtain ⟨⟨back, hrest, hback⟩, htail⟩ := ih
    rw [headD_extendFirst]
    refine ⟨⟨back, congrArg (c :: ·) hrest, hback⟩, fun line hline => ?_⟩
    have hmore : line ∈ (lines rest).tail := by
      cases hlines : lines rest with
      | nil =>
        rw [hlines] at hline
        cases hline
      | cons first more =>
        rw [hlines] at hline
        exact hline
    obtain ⟨front, d, back, hsplit, hd, hbroken⟩ := htail line hmore
    exact ⟨c :: front, d, back, congrArg (c :: ·) hsplit, hd, hbroken⟩

/-! ## Sightings -/

/-- Whatever is sighted is recognised at the start of some end of the text. -/
theorem exists_of_mem_sightings {α : Type} {recognise : Recogniser α} {before : Option Char}
    {text : List Char} {found : α} (h : found ∈ sightings recognise before text) :
    ∃ character rest, rest <:+ text ∧ recognise character rest = some found := by
  induction text generalizing before with
  | nil => cases h
  | cons c text ih =>
    rcases List.mem_append.mp h with h | h
    · exact ⟨before, c :: text, List.suffix_refl _, Option.mem_toList.mp h⟩
    · obtain ⟨character, rest, hrest, hfound⟩ := ih h
      exact ⟨character, rest, hrest.trans (List.suffix_cons c text), hfound⟩

/-- What is sighted from some position on is sighted in the text. -/
theorem exists_sightings_append {α : Type} (recognise : Recogniser α) (before : Option Char)
    (front text : List Char) :
    ∃ earlier character,
      sightings recognise before (front ++ text) = earlier ++ sightings recognise character text := by
  induction front generalizing before with
  | nil => exact ⟨[], before, rfl⟩
  | cons c front ih =>
    obtain ⟨earlier, character, h⟩ := ih (some c)
    refine ⟨(recognise before (c :: (front ++ text))).toList ++ earlier, character, ?_⟩
    rw [List.cons_append, sightings, h, List.append_assoc]

/-- A passage at the start of which something is recognised gives a sighting. -/
theorem exists_mem_sightings {α : Type} {recognise : Recogniser α} {part text : List Char} {found : α}
    (hne : part ≠ []) (hp : ∀ before back, recognise before (part ++ back) = some found)
    (h : part <:+: text) (before : Option Char) : found ∈ sightings recognise before text := by
  obtain ⟨front, back, rfl⟩ := h
  obtain ⟨earlier, character, hsplit⟩ := exists_sightings_append recognise before front (part ++ back)
  rw [List.append_assoc, hsplit]
  refine List.mem_append_right earlier ?_
  obtain ⟨c, more, hcons⟩ := List.exists_cons_of_ne_nil hne
  have hfound := hp character back
  rw [hcons, List.cons_append] at hfound ⊢
  rw [sightings, hfound]
  exact List.mem_cons_self

/-- Behind a character a search goes on with the character before it. -/
theorem exists_sightings_cons {α : Type} (recognise : Recogniser α) (before : Option Char) (front : List Char)
    (c : Char) (text : List Char) :
    ∃ earlier, sightings recognise before (front ++ c :: text) = earlier ++ sightings recognise (some c) text := by
  obtain ⟨earlier, character, h⟩ := exists_sightings_append recognise before front (c :: text)
  exact ⟨earlier ++ (recognise character (c :: text)).toList, by rw [h, sightings, List.append_assoc]⟩

/-- What is sighted in a part is sighted with a text behind it that no finding depends on. -/
theorem mem_sightings_append {α : Type} {recognise : Recogniser α} {back : List Char} {found : α}
    (hk : ∀ before text found, recognise before text = some found → recognise before (text ++ back) = some found)
    {before : Option Char} {part : List Char} (h : found ∈ sightings recognise before part) :
    found ∈ sightings recognise before (part ++ back) := by
  induction part generalizing before with
  | nil => cases h
  | cons c part ih =>
    rcases List.mem_append.mp h with h | h
    · refine List.mem_append_left _ (Option.mem_toList.mpr ?_)
      exact hk before (c :: part) found (Option.mem_toList.mp h)
    · exact List.mem_append_right _ (ih h)

/-! ## Pieces -/

/-- The parts of a text between its line ends, empty ones included. -/
def pieces (text : List Char) : List (List Char) := text.splitOnP isLineBreak

/-- What stands before the first line end of a text. -/
def firstPiece (text : List Char) : List Char := (pieces text).headD []

/-- What stands behind the last line end of a text. -/
def lastPiece (text : List Char) : List Char := (pieces text).getLastD []

/-- A text has a piece. -/
theorem pieces_ne_nil (text : List Char) : pieces text ≠ [] := List.splitOnP_ne_nil isLineBreak text

/-- A character ends an empty piece or is put before the first one. -/
theorem pieces_cons (c : Char) (text : List Char) :
    pieces (c :: text) = if isLineBreak c then [] :: pieces text else (c :: firstPiece text) :: (pieces text).tail := by
  obtain ⟨piece, more, hpieces⟩ := List.exists_cons_of_ne_nil (pieces_ne_nil text)
  rw [pieces, List.splitOnP_cons_eq_if_modifyHead, firstPiece, ← pieces, hpieces]
  rfl

/-- The first piece comes first. -/
theorem firstPiece_cons_tail (text : List Char) : firstPiece text :: (pieces text).tail = pieces text := by
  obtain ⟨piece, more, hpieces⟩ := List.exists_cons_of_ne_nil (pieces_ne_nil text)
  rw [firstPiece, hpieces]
  rfl

/-- The last piece comes last. -/
theorem dropLast_append_lastPiece (text : List Char) : (pieces text).dropLast ++ [lastPiece text] = pieces text := by
  have hne := pieces_ne_nil text
  rw [lastPiece, List.getLastD_eq_getLast?, List.getLast?_eq_some_getLast hne]
  exact List.dropLast_concat_getLast hne

/-! ## Lines and pieces -/

variable {keeps : List Char → Bool}

/-- What no empty line has is found among all lines or among the first one and the others. -/
theorem filter_headD_cons_tail (h : keeps [] = false) (lines : List (List Char)) :
    (lines.headD [] :: lines.tail).filter keeps = lines.filter keeps := by
  cases lines with
  | nil => exact List.filter_cons_of_neg (ne_true_of_eq_false h)
  | cons line lines => rfl

/-- The first line is the first piece, and behind it lines and pieces differ in empty ones alone. -/
theorem lines_like_pieces (h : keeps [] = false) (text : List Char) :
    (lines text).headD [] = firstPiece text ∧
      (lines text).tail.filter keeps = (pieces text).tail.filter keeps := by
  -- All lines are told from the pieces once the first one and those behind it are.
  have hall : ∀ rest, (lines rest).headD [] = firstPiece rest ∧
      (lines rest).tail.filter keeps = (pieces rest).tail.filter keeps →
      (lines rest).filter keeps = (pieces rest).filter keeps := by
    intro rest hrest
    rw [← filter_headD_cons_tail h (lines rest), ← firstPiece_cons_tail rest, hrest.1, List.filter_cons,
      List.filter_cons, hrest.2]
  have hempty : ∀ rest, ([] :: pieces rest).filter keeps = (pieces rest).filter keeps :=
    fun rest => List.filter_cons_of_neg (ne_true_of_eq_false h)
  fun_induction lines text with
  | case1 => exact ⟨rfl, rfl⟩
  | case2 rest ih =>
    have hreturn : pieces ('\r' :: '\n' :: rest) = [] :: [] :: pieces rest := by
      rw [pieces_cons, pieces_cons]
      rfl
    rw [firstPiece, hreturn]
    exact ⟨rfl, (hall rest ih).trans (hempty rest).symm⟩
  | case3 c rest _ hbreak ih =>
    rw [firstPiece, pieces_cons, if_pos hbreak]
    exact ⟨rfl, hall rest ih⟩
  | case4 c rest _ hbreak ih =>
    rw [firstPiece, pieces_cons, if_neg hbreak, headD_extendFirst, ih.1]
    refine ⟨rfl, ?_⟩
    rw [List.tail_cons, ← ih.2]
    cases lines rest <;> rfl

/-- What no empty line has is found among the lines of a text just where it is among its pieces. -/
theorem filter_lines (h : keeps [] = false) (text : List Char) :
    (lines text).filter keeps = (pieces text).filter keeps := by
  obtain ⟨hfirst, hothers⟩ := lines_like_pieces h text
  rw [← filter_headD_cons_tail h (lines text), ← firstPiece_cons_tail text, hfirst, List.filter_cons,
    List.filter_cons, hothers]

/-! ## Seams -/

/-- Texts after each other have the pieces of both, with one piece at the seam. -/
theorem pieces_append (text more : List Char) :
    pieces (text ++ more) =
      (pieces text).dropLast ++ (lastPiece text ++ firstPiece more) :: (pieces more).tail := by
  induction text with
  | nil => exact (firstPiece_cons_tail more).symm
  | cons c text ih =>
    obtain ⟨piece, others, hpieces⟩ := List.exists_cons_of_ne_nil (pieces_ne_nil text)
    rw [lastPiece, hpieces] at ih
    by_cases hbreak : isLineBreak c = true
    · rw [List.cons_append, pieces_cons, if_pos hbreak, ih, lastPiece, pieces_cons, if_pos hbreak, hpieces]
      rfl
    · have hfirst : firstPiece text = piece := by
        rw [firstPiece, hpieces]
        rfl
      rw [List.cons_append, pieces_cons, if_neg hbreak, firstPiece, ih, lastPiece, pieces_cons, if_neg hbreak, hfirst,
        hpieces]
      cases others <;> rfl

/-- What no empty line has is found among the lines of two texts after each other where it is
among those of each, except at the seam. -/
theorem filter_lines_append (h : keeps [] = false) (text more : List Char) :
    ∃ before after, (lines text).filter keeps = before ++ [lastPiece text].filter keeps ∧
      (lines more).filter keeps = [firstPiece more].filter keeps ++ after ∧
      (lines (text ++ more)).filter keeps = before ++ ([lastPiece text ++ firstPiece more].filter keeps ++ after) := by
  refine ⟨(pieces text).dropLast.filter keeps, (pieces more).tail.filter keeps, ?_, ?_, ?_⟩
  · rw [filter_lines h, ← List.filter_append, dropLast_append_lastPiece]
  · rw [filter_lines h, ← List.filter_append, List.singleton_append, firstPiece_cons_tail]
  · rw [filter_lines h, ← List.filter_append, ← List.filter_append, List.singleton_append, pieces_append]

/-- Nothing stands before the first line end exactly if one starts the text or nothing does. -/
theorem firstPiece_eq_nil_iff {text : List Char} :
    firstPiece text = [] ↔ ∀ c ∈ text.head?, isLineBreak c = true := by
  cases text with
  | nil => simp [firstPiece, pieces]
  | cons c text =>
    rw [firstPiece, pieces_cons]
    by_cases hbreak : isLineBreak c = true
    · simp [hbreak]
    · simp [hbreak]

/-- Nothing stands behind the last line end exactly if one ends the text or nothing does. -/
theorem lastPiece_eq_nil_iff {text : List Char} :
    lastPiece text = [] ↔ ∀ c ∈ text.getLast?, isLineBreak c = true := by
  rcases List.eq_nil_or_concat text with rfl | ⟨front, c, rfl⟩
  · simp [lastPiece, pieces]
  · have hpieces : pieces (front ++ [c]) =
        (pieces front).dropLast ++ (lastPiece front ++ firstPiece [c]) :: (pieces [c]).tail := pieces_append front [c]
    rw [List.concat_eq_append, List.getLast?_concat, lastPiece, hpieces, firstPiece, pieces_cons]
    by_cases hbreak : isLineBreak c = true
    · rw [if_pos hbreak]
      simp [hbreak, pieces]
    · rw [if_neg hbreak]
      simp [hbreak, pieces]

end Checkup.Text
