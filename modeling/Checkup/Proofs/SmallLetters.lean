import Checkup.Proofs.TextPassages
import Checkup.Text.Blank
import Checkup.Text.LetterCase

/-!
# Words in small letters

A word of plain letters that a text shows in small letters stands in the text itself,
in some case. So it makes no difference whether a text is put into small letters as a
whole or line by line, although a letter may take its form from what stands around it.
-/

namespace Checkup.Text

/-- A small letter of ASCII that no character beyond ASCII becomes: of the others, the
dotted capital i and the kelvin sign become two. -/
def IsPlainLetter (letter : Char) : Prop := letter.isLower = true ∧ letter ≠ 'i' ∧ letter ≠ 'k'

instance (letter : Char) : Decidable (IsPlainLetter letter) :=
  inferInstanceAs (Decidable (letter.isLower = true ∧ letter ≠ 'i' ∧ letter ≠ 'k'))

/-- A word whose letters pass the test is of plain letters. -/
theorem isPlainLetter_of_all {word : List Char}
    (h : word.all (fun letter => decide (IsPlainLetter letter)) = true) : ∀ l ∈ word, IsPlainLetter l :=
  fun l hl => of_decide_eq_true (List.all_eq_true.mp h l hl)

/-- The places of the small letters of ASCII. -/
theorem toNat_of_isLower {c : Char} (h : c.isLower = true) : 97 ≤ c.toNat ∧ c.toNat ≤ 122 := by
  have hplace : (decide (c.val ≥ 'a'.val) && decide (c.val ≤ 'z'.val)) = true := h
  rw [Bool.and_eq_true, decide_eq_true_eq, decide_eq_true_eq] at hplace
  exact ⟨UInt32.le_iff_toNat_le.mp hplace.1, UInt32.le_iff_toNat_le.mp hplace.2⟩

/-- The character of a number beyond ASCII is no small letter of ASCII. -/
theorem isLower_ofNat_eq_false {n : Nat} (h : 0x80 ≤ n) : (Char.ofNat n).isLower = false := by
  rw [Bool.eq_false_iff]
  intro hl
  have hplace := toNat_of_isLower hl
  unfold Char.ofNat at hplace
  by_cases hvalid : n.isValidChar
  · rw [dif_pos hvalid] at hplace
    change 97 ≤ n ∧ n ≤ 122 at hplace
    omega
  · rw [dif_neg hvalid] at hplace
    exact absurd hplace.1 (by decide)

/-- Capitals beyond ASCII have their small letters beyond ASCII, but for the kelvin sign. -/
theorem shift_capitalRuns : ∀ run ∈ capitalRuns,
    (0x80 : Int) ≤ run.first + run.shift ∨ (run.last = 0x212A ∧ run.first = 0x212A ∧ run.shift = -0x20BF) := by
  decide +kernel

/-- Beyond ASCII no character becomes a plain letter by itself. -/
theorem smallLetter_ne_of_isPlainLetter {letter c : Char} (hl : IsPlainLetter letter)
    (hc : 0x80 ≤ c.toNat) : smallLetter c ≠ letter := by
  obtain ⟨hlower, -, hk⟩ := hl
  intro h
  unfold smallLetter at h
  rw [if_neg (Nat.not_lt.mpr hc)] at h
  split at h
  · next run hrun =>
    have hmem := List.mem_of_find?_eq_some hrun
    have hhas := List.find?_some hrun
    simp only [CapitalRun.has, Bool.and_eq_true, decide_eq_true_eq] at hhas
    rcases shift_capitalRuns run hmem with hs | ⟨hlast, hfirst, hs⟩
    · rw [← h, isLower_ofNat_eq_false (by omega)] at hlower
      cases hlower
    · have hkelvin : c.toNat = 0x212A := by omega
      rw [hkelvin, hs] at h
      exact hk (h.symm.trans (by decide))
  · have := toNat_of_isLower hlower
    rw [h] at hc
    omega

/-- A plain letter is the small letter of an ASCII character. -/
theorem toLower_eq_of_mem_smallLetters {letter c : Char} {before after : List Char}
    (hl : IsPlainLetter letter) (h : letter ∈ smallLetters before c after) :
    c.toNat < 0x80 ∧ c.toLower = letter := by
  by_cases hc : c.toNat < 0x80
  · rw [smallLetters_of_ascii hc] at h
    exact ⟨hc, (List.mem_singleton.mp h).symm⟩
  · exfalso
    have hplace := toNat_of_isLower hl.1
    unfold smallLetters at h
    split at h
    · rcases List.mem_cons.mp h with rfl | h
      · exact hl.2.1 rfl
      · rw [List.mem_singleton.mp h] at hplace
        exact absurd hplace.2 (by decide)
    · split at h
      · split at h <;>
        · rw [List.mem_singleton.mp h] at hplace
          exact absurd hplace.2 (by decide)
      · exact smallLetter_ne_of_isPlainLetter hl (Nat.not_lt.mp hc) (List.mem_singleton.mp h).symm

/-! ## Words -/

/-- A text in ASCII that is the given word in some case. -/
def Spells (part word : List Char) : Prop :=
  part.map Char.toLower = word ∧ ∀ c ∈ part, c.toNat < 0x80

/-- No character has no small letters. -/
theorem smallLetters_ne_nil (before : List Char) (c : Char) (after : List Char) :
    smallLetters before c after ≠ [] := by
  unfold smallLetters
  split
  · exact List.cons_ne_nil _ _
  · split <;> exact List.cons_ne_nil _ _

/-- A word that starts a text in small letters starts the text in some case. -/
theorem exists_prefix_of_lowerAfter {word text before : List Char} (hw : ∀ l ∈ word, IsPlainLetter l)
    (h : word <+: lowerAfter before text) : ∃ part, part <+: text ∧ Spells part word := by
  induction word generalizing text before with
  | nil => exact ⟨[], List.nil_prefix, rfl, fun c hc => by cases hc⟩
  | cons letter word ih =>
    cases text with
    | nil => cases List.prefix_nil.mp h
    | cons c text =>
      rw [lowerAfter] at h
      have hletter : letter ∈ smallLetters before c text := by
        obtain ⟨first, more, hsmall⟩ := List.exists_cons_of_ne_nil (smallLetters_ne_nil before c text)
        rw [hsmall, List.cons_append] at h
        rw [hsmall, (List.cons_prefix_cons.mp h).1]
        exact List.mem_cons_self
      obtain ⟨hc, hlower⟩ := toLower_eq_of_mem_smallLetters (hw letter List.mem_cons_self) hletter
      rw [smallLetters_of_ascii hc] at h
      obtain ⟨part, hpart, hspells, hascii⟩ :=
        ih (fun l hl => hw l (List.mem_cons_of_mem letter hl)) (List.cons_prefix_cons.mp h).2
      refine ⟨c :: part, List.cons_prefix_cons.mpr ⟨rfl, hpart⟩, ?_, ?_⟩
      · rw [List.map_cons, hlower, hspells]
      · intro d hd
        rcases List.mem_cons.mp hd with rfl | hd
        · exact hc
        · exact hascii d hd

/-- A passage is not touched by characters before it that it does not hold. -/
theorem isInfix_of_isInfix_append {part front text : List Char} (hne : part ≠ [])
    (hf : ∀ c ∈ front, c ∉ part) (h : part <:+: front ++ text) : part <:+: text := by
  induction front with
  | nil => exact h
  | cons c front ih =>
    have hrest : part <:+: front ++ text := isInfix_of_isInfix_cons hne (hf c List.mem_cons_self) h
    exact ih (fun d hd => hf d (List.mem_cons_of_mem c hd)) hrest

/-- A word of plain letters that a text shows in small letters stands in it in some case. -/
theorem exists_infix_of_lowerAfter {word text before : List Char} (hne : word ≠ [])
    (hw : ∀ l ∈ word, IsPlainLetter l) (h : word <:+: lowerAfter before text) :
    ∃ part, part <:+: text ∧ Spells part word := by
  induction text generalizing before with
  | nil => exact absurd (List.infix_nil.mp h) hne
  | cons c text ih =>
    have hrest (hinside : word <:+: lowerAfter (c :: before) text) :
        ∃ part, part <:+: c :: text ∧ Spells part word := by
      obtain ⟨part, hpart, hspells⟩ := ih hinside
      exact ⟨part, List.infix_cons hpart, hspells⟩
    by_cases hc : c.toNat < 0x80
    · have hlower : lowerAfter before (c :: text) = c.toLower :: lowerAfter (c :: before) text := by
        rw [lowerAfter, smallLetters_of_ascii hc]
        rfl
      rcases List.infix_cons_iff.mp (hlower ▸ h) with hstart | hinside
      · obtain ⟨part, hpart, hspells⟩ := exists_prefix_of_lowerAfter hw (hlower ▸ hstart)
        exact ⟨part, hpart.isInfix, hspells⟩
      · exact hrest hinside
    · rw [lowerAfter] at h
      refine hrest (isInfix_of_isInfix_append hne (fun letter hsmall hmem => ?_) h)
      exact hc (toLower_eq_of_mem_smallLetters (hw letter hmem) hsmall).1

/-- The small letters of ASCII text stand in front of those of what follows. -/
theorem lowerAfter_append_of_ascii {part : List Char} (h : ∀ c ∈ part, c.toNat < 0x80)
    (before text : List Char) :
    lowerAfter before (part ++ text) =
      part.map Char.toLower ++ lowerAfter (part.reverse ++ before) text := by
  induction part generalizing before with
  | nil => rfl
  | cons c part ih =>
    rw [List.cons_append, lowerAfter, smallLetters_of_ascii (h c List.mem_cons_self),
      ih fun d hd => h d (List.mem_cons_of_mem c hd)]
    simp

/-- The small letters of an end of a text end those of the text. -/
theorem exists_lowerAfter_append (front before text : List Char) :
    ∃ letters further, lowerAfter before (front ++ text) = letters ++ lowerAfter further text := by
  induction front generalizing before with
  | nil => exact ⟨[], before, rfl⟩
  | cons c front ih =>
    obtain ⟨letters, further, h⟩ := ih (c :: before)
    refine ⟨smallLetters before c (front ++ text) ++ letters, further, ?_⟩
    rw [List.cons_append, lowerAfter, h, List.append_assoc]

/-- A word that stands in a text in some case is shown by its small letters. -/
theorem isInfix_lower_of_spells {part word text : List Char} (h : Spells part word)
    (hp : part <:+: text) : word <:+: lower text := by
  obtain ⟨front, back, rfl⟩ := hp
  obtain ⟨letters, further, hl⟩ := exists_lowerAfter_append front [] (part ++ back)
  rw [List.append_assoc, lower, hl, lowerAfter_append_of_ascii h.2, h.1]
  exact List.infix_append' _ _ _

/-- Whatever ends a line is a blank. -/
theorem isBlank_of_isLineBreak {c : Char} (h : isLineBreak c = true) : isBlank c = true := by
  simp only [isLineBreak, Bool.or_eq_true, Bool.and_eq_true, decide_eq_true_eq] at h
  simp only [isBlank, blankRanges, Ranges.has, List.any_cons, List.any_nil, Bool.or_eq_true,
    Bool.and_eq_true, decide_eq_true_eq]
  omega

/-- What holds of the characters of ASCII one by one holds of each of them. -/
theorem forall_ascii (holds : Char → Prop) (h : ∀ n < 0x80, holds (Char.ofNat n)) {c : Char}
    (hc : c.toNat < 0x80) : holds c := by
  have hchar := h c.toNat hc
  rwa [Char.ofNat_toNat] at hchar

/-- A character with a small letter of ASCII for its small letter is no blank. -/
theorem isBlank_eq_false_of_isLower_toLower {c : Char} (hc : c.toNat < 0x80)
    (h : c.toLower.isLower = true) : isBlank c = false :=
  forall_ascii (fun c => c.toLower.isLower = true → isBlank c = false) (by decide) hc h

/-- There are no blanks in what spells a word of plain letters. -/
theorem Spells.isBlank_eq_false {part word : List Char} (h : Spells part word)
    (hw : ∀ l ∈ word, IsPlainLetter l) : ∀ c ∈ part, isBlank c = false := by
  intro c hc
  have hmem : c.toLower ∈ word := by
    rw [← h.1]
    exact List.mem_map_of_mem hc
  exact isBlank_eq_false_of_isLower_toLower (h.2 c hc) (hw _ hmem).1

/-- A word of plain letters that a text shows in small letters is shown by a line of it. -/
theorem exists_line_of_lower {word text : List Char} (hne : word ≠ [])
    (hw : ∀ l ∈ word, IsPlainLetter l) (h : word <:+: lower text) :
    ∃ line ∈ lines text, word <:+: lower line := by
  obtain ⟨part, hpart, hspells⟩ := exists_infix_of_lowerAfter hne hw h
  have hpne : part ≠ [] := by
    rintro rfl
    exact hne hspells.1.symm
  have hbreak : ∀ c ∈ part, isLineBreak c = false := fun c hc => by
    have hblank := hspells.isBlank_eq_false hw c hc
    exact Bool.eq_false_iff.mpr fun hb => by rw [isBlank_of_isLineBreak hb] at hblank; cases hblank
  obtain ⟨line, hl, hline⟩ := exists_mem_lines hpne hbreak hpart
  exact ⟨line, hl, isInfix_lower_of_spells hspells hline⟩

/-- A text that shows a word of plain letters is not blank. -/
theorem allBlank_eq_false_of_lower {word text : List Char} (hne : word ≠ [])
    (hw : ∀ l ∈ word, IsPlainLetter l) (h : word <:+: lower text) : allBlank text = false := by
  obtain ⟨part, hpart, hspells⟩ := exists_infix_of_lowerAfter hne hw h
  obtain ⟨c, hc⟩ : ∃ c, c ∈ part := by
    cases part with
    | nil => exact absurd hspells.1.symm hne
    | cons c part => exact ⟨c, List.mem_cons_self⟩
  rw [Bool.eq_false_iff]
  intro hblank
  have hc' := List.all_eq_true.mp hblank c (hpart.subset hc)
  rw [hspells.isBlank_eq_false hw c hc] at hc'
  cases hc'

end Checkup.Text
