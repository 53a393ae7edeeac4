import Checkup.Dialect.Jscpd
import Checkup.Proofs.TextSpans

/-!
# Colours

Colour sequences that are put anywhere into a text, none into another, are taken out again,
and nothing else is: what is left is the text, if it had no sequence of its own to start with.
-/

namespace Checkup.Jscpd

open Text

/-- The character that starts a colour sequence. -/
def escape : Char := '\x1b'

/-- A complete colour sequence: digits and semicolons between its start and a letter. -/
def IsColour (sequence : List Char) : Prop :=
  ∃ parameters letter, sequence = escape :: '[' :: (parameters ++ [letter]) ∧
    (∀ c ∈ parameters, c.isDigit = true ∨ c = ';') ∧ letter.isAlpha = true

/-- A text with colour sequences put into it. -/
inductive Coloured : List Char → List Char → Prop
  | nil : Coloured [] []
  | plain (c : Char) {text shown : List Char} (rest : Coloured text shown) : Coloured (c :: text) (c :: shown)
  | colour {sequence text shown : List Char} (complete : IsColour sequence) (rest : Coloured text shown) :
      Coloured text (sequence ++ shown)

variable {text shown rest : List Char}

/-- Every text is one without colours. -/
theorem Coloured.refl (text : List Char) : Coloured text text := by
  induction text with
  | nil => exact .nil
  | cons c text ih => exact .plain c ih

/-- A character that starts no sequence is left. -/
theorem uncoloured_cons {c : Char} (h : c ≠ escape) (rest : List Char) :
    uncoloured (c :: rest) = c :: uncoloured rest := by
  rw [uncoloured]
  rintro tail rfl -
  exact h rfl

/-- The digits and semicolons of a sequence are its parameters, and the letter is none. -/
theorem isParameter_iff {c : Char} : isParameter c = true ↔ c.isDigit = true ∨ c = ';' := by
  simp only [isParameter, Char.isDigit, Char.le_def, Bool.or_eq_true, Bool.and_eq_true, decide_eq_true_eq,
    ge_iff_le]

/-- No letter is a parameter. -/
theorem isParameter_of_isAlpha {c : Char} (h : c.isAlpha = true) : isParameter c = false := by
  rw [← Bool.not_eq_true, isParameter_iff]
  rintro (hdigit | rfl)
  · change (decide (c.val ≥ 65 ∧ c.val ≤ 90) || decide (c.val ≥ 97) && decide (c.val ≤ 122)) = true at h
    change (decide (c.val ≥ 48) && decide (c.val ≤ 57)) = true at hdigit
    simp only [Bool.or_eq_true, Bool.and_eq_true, decide_eq_true_eq, ge_iff_le, UInt32.le_iff_toNat_le] at h hdigit
    change (65 ≤ c.toNat ∧ c.toNat ≤ 90) ∨ (97 ≤ c.toNat ∧ c.toNat ≤ 122) at h
    change 48 ≤ c.toNat ∧ c.toNat ≤ 57 at hdigit
    omega
  · exact absurd h (by decide)

/-- A sequence at the start of a text is taken out. -/
theorem uncoloured_append {sequence : List Char} (h : IsColour sequence) (rest : List Char) :
    uncoloured (sequence ++ rest) = uncoloured rest := by
  obtain ⟨parameters, letter, rfl, hparameters, hletter⟩ := h
  have hrun : ∀ c ∈ parameters, isParameter c = true := fun c hc => isParameter_iff.mpr (hparameters c hc)
  have hstops : Stops isParameter (letter :: rest) := stops_cons (isParameter_of_isAlpha hletter) rest
  have hafter : afterColour? (parameters ++ letter :: rest) = some rest := by
    unfold afterColour?
    rw [(span_append hrun hstops).2]
    exact if_pos hletter
  have hshape : escape :: '[' :: (parameters ++ [letter]) ++ rest =
      '\x1b' :: '[' :: (parameters ++ letter :: rest) := by
    rw [List.cons_append, List.cons_append, List.append_assoc, List.singleton_append, escape]
  rw [hshape, uncoloured]
  split
  · next tail htail =>
    rw [hafter] at htail
    cases htail
    rfl
  · next hnone =>
    rw [hafter] at hnone
    cases hnone

/-- Without its colours a coloured text is the text again. -/
theorem Coloured.uncoloured_eq (h : Coloured text shown) (hplain : escape ∉ text) : uncoloured shown = text := by
  induction h with
  | nil => rw [uncoloured]
  | plain c rest ih =>
    obtain ⟨hc, hrest⟩ := not_or.mp (mt List.mem_cons.mpr hplain)
    rw [uncoloured_cons (Ne.symm hc), ih hrest]
  | colour complete rest ih => rw [uncoloured_append complete, ih hplain]

/-- A text that holds no start of a sequence is left as it is. -/
theorem uncoloured_of_not_mem (h : escape ∉ text) : uncoloured text = text := (Coloured.refl text).uncoloured_eq h

end Checkup.Jscpd
