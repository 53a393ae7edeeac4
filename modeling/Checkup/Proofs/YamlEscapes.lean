import Mathlib.Algebra.GroupWithZero.Nat
import Checkup.Yaml.Quoted

/-!
# Faults of quoted scalars

Reading a text breaks off at a flaw, and some flaws are faults: they are not wrong by the
rules of the format, but something cannot be built. Within quotes there is one such thing,
an escape with eight digits for a number that is no character's.
-/

namespace Checkup.Yaml

variable {α β : Type}

/-- Every fault among the flaws that a result may be has a cause. -/
def Blames (result : Except Flaw α) (cause : Fault → Prop) : Prop :=
  ∀ fault, result = .error (.fault fault) → cause fault

namespace Blames

variable {cause weaker : Fault → Prop}

theorem ok (value : α) : Blames (.ok value) cause := fun fault h => by cases h

theorem malformed : Blames (.error .malformed : Except Flaw α) cause := fun fault h => by cases h

theorem unfinished : Blames (.error .unfinished : Except Flaw α) cause := fun fault h => by cases h

/-- A fault that has the cause. -/
theorem fault {fault : Fault} (h : cause fault) : Blames (.error (.fault fault) : Except Flaw α) cause := by
  intro found hf
  cases hf
  exact h

/-- A flaw has the same cause wherever it is met. -/
theorem error {flaw : Flaw} (h : Blames (.error flaw : Except Flaw α) cause) :
    Blames (.error flaw : Except Flaw β) cause := by
  intro fault hf
  cases hf
  exact h fault rfl

/-- A cause may be told in a weaker form. -/
theorem mono {result : Except Flaw α} (h : Blames result cause) (hw : ∀ fault, cause fault → weaker fault) :
    Blames result weaker :=
  fun fault hf => hw fault (h fault hf)

/-- One step after another is to blame on what either is to blame on. -/
theorem bind {first : Except Flaw α} {next : α → Except Flaw β} (h : Blames first cause)
    (hn : ∀ value, first = .ok value → Blames (next value) cause) : Blames (first >>= next) cause := by
  intro fault hf
  cases hfirst : first with
  | ok value =>
    rw [hfirst] at hf
    exact hn value hfirst fault hf
  | error flaw =>
    rw [hfirst] at hf
    cases hf
    exact h fault hfirst

/-- What is made of a result brings in no fault. -/
theorem map {result : Except Flaw α} (h : Blames result cause) (f : α → β) : Blames (result.map f) cause := by
  intro fault hf
  cases result with
  | ok value => cases hf
  | error flaw =>
    cases hf
    exact h fault rfl

end Blames

/-- A text holds an escape with eight digits for a number beyond all characters. -/
def HasWrongEscape (text : List Char) (fault : Fault) : Prop :=
  ∃ digits code rest, '\\' :: 'U' :: digits <:+ text ∧ takeHex 8 digits = .ok (code, rest) ∧
    0x10FFFF < code ∧ charOfCode code = .error (.fault fault)

/-- What a part of a text holds, the text holds. -/
theorem HasWrongEscape.of_suffix {text whole : List Char} {fault : Fault} (h : HasWrongEscape text fault)
    (hs : text <:+ whole) : HasWrongEscape whole fault := by
  obtain ⟨digits, code, rest, hescape, hread⟩ := h
  exact ⟨digits, code, rest, hescape.trans hs, hread⟩

/-- Something is read at the head of a text: a part of the text is left, and only a wrong
escape is a fault. -/
structure ReadsOn (text : List Char) (result : Except Flaw (α × List Char)) : Prop where
  blames : Blames result (HasWrongEscape text)
  rest : ∀ found rest, result = .ok (found, rest) → rest <:+ text

namespace ReadsOn

variable {text whole rest : List Char}

theorem ok {found : α} (h : rest <:+ text) : ReadsOn text (.ok (found, rest)) where
  blames := .ok _
  rest found rest hf := by
    cases hf
    exact h

theorem malformed : ReadsOn text (.error .malformed : Except Flaw (α × List Char)) where
  blames := .malformed
  rest found rest hf := by cases hf

theorem unfinished : ReadsOn text (.error .unfinished : Except Flaw (α × List Char)) where
  blames := .unfinished
  rest found rest hf := by cases hf

/-- What is read at the head of a part is read on the text. -/
theorem of_suffix {result : Except Flaw (α × List Char)} (h : ReadsOn text result) (hs : text <:+ whole) :
    ReadsOn whole result where
  blames := h.blames.mono fun _ hf => hf.of_suffix hs
  rest found rest hf := (h.rest found rest hf).trans hs

/-- What is made of what was read does not change what is left. -/
theorem map {result : Except Flaw (α × List Char)} (h : ReadsOn text result) (f : α → β) :
    ReadsOn text (result.map fun (found, rest) => (f found, rest)) where
  blames := h.blames.map _
  rest found rest hf := by
    cases result with
    | ok read =>
      cases hf
      exact h.rest _ _ rfl
    | error flaw => cases hf

end ReadsOn

/-- A hexadecimal digit is less than sixteen. -/
theorem hexValue?_lt {c : Char} {value : Nat} (h : hexValue? c = some value) : value < 16 := by
  have hle (a b : Char) : a ≤ b → a.toNat ≤ b.toNat := fun hab => hab
  unfold hexValue? at h
  split at h
  · next hc =>
    have hnine := hle _ _ hc.2
    cases h
    change c.toNat - 48 < 16
    change c.toNat ≤ 57 at hnine
    omega
  · split at h
    · next hc =>
      have hf := hle _ _ hc.2
      cases h
      change c.toNat ≤ 102 at hf
      omega
    · split at h
      · next hc =>
        have hf := hle _ _ hc.2
        cases h
        change c.toNat ≤ 70 at hf
        omega
      · cases h

/-- Digits below sixteen write a number below the power of sixteen that they reach. -/
theorem foldl_hex_lt {values : List Nat} (h : ∀ value ∈ values, value < 16) (start : Nat) :
    values.foldl (fun value digit => 16 * value + digit) start < (start + 1) * 16 ^ values.length := by
  induction values generalizing start with
  | nil => simp
  | cons digit values ih =>
    have hdigit := h digit List.mem_cons_self
    have hmore := ih (fun value hv => h value (List.mem_cons_of_mem digit hv)) (16 * start + digit)
    have hpower : (16 * start + digit + 1) * 16 ^ values.length ≤ (start + 1) * 16 * 16 ^ values.length :=
      Nat.mul_le_mul_right _ (by omega)
    rw [List.foldl_cons, List.length_cons, Nat.pow_succ, Nat.mul_comm (16 ^ values.length), ← Nat.mul_assoc]
    omega

/-- Hexadecimal digits have one value each, all of them below sixteen. -/
theorem hexValues_lt {digits : List Char} {values : List Nat} (h : digits.mapM hexValue? = some values) :
    values.length = digits.length ∧ ∀ value ∈ values, value < 16 := by
  induction digits generalizing values with
  | nil =>
    cases h
    exact ⟨rfl, fun value hv => by cases hv⟩
  | cons digit digits ih =>
    rw [List.mapM_cons] at h
    obtain ⟨first, hfirst, h⟩ := Option.bind_eq_some_iff.mp h
    obtain ⟨more, hmore, h⟩ := Option.bind_eq_some_iff.mp h
    cases h
    obtain ⟨hlength, hvalues⟩ := ih hmore
    refine ⟨congrArg (· + 1) hlength, fun value hv => ?_⟩
    rcases List.mem_cons.mp hv with rfl | hv
    · exact hexValue?_lt hfirst
    · exact hvalues value hv

/-- So many hexadecimal digits write a number that they reach, and what is left is the text behind them. -/
theorem takeHex_ok {count code : Nat} {text rest : List Char} (h : takeHex count text = .ok (code, rest)) :
    code < 16 ^ count ∧ rest = text.drop count := by
  unfold takeHex at h
  dsimp only at h
  split at h
  · cases h
  · next values hvalues =>
    split at h
    · next hcount =>
      cases h
      obtain ⟨hlength, hvalues⟩ := hexValues_lt hvalues
      have hlt := foldl_hex_lt hvalues 0
      rw [hlength, hcount] at hlt
      exact ⟨by omega, rfl⟩
    · cases h

/-- Digits are never a fault by themselves. -/
theorem takeHex_blames (count : Nat) (text : List Char) {cause : Fault → Prop} :
    Blames (takeHex count text) cause := by
  unfold takeHex
  dsimp only
  split
  · exact .malformed
  · split
    · exact .ok _
    · exact .unfinished

/-- Only a number beyond all characters is a fault. -/
theorem charOfCode_blames (code : Nat) :
    Blames (charOfCode code) fun fault => 0x10FFFF < code ∧ charOfCode code = .error (.fault fault) := by
  intro fault hf
  refine ⟨?_, hf⟩
  unfold charOfCode at hf
  split at hf
  · omega
  · split at hf
    · assumption
    · split at hf
      · cases hf
      · cases hf

/-- Breaks between quotes leave a part of the text. -/
theorem quotedBreaks_suffix {lineStart : Bool} {text breaks rest : List Char}
    (h : quotedBreaks lineStart text = some (breaks, rest)) : rest <:+ text := by
  induction text generalizing lineStart breaks with
  | nil =>
    cases h
    exact List.suffix_rfl
  | cons c text ih =>
    unfold quotedBreaks at h
    split at h
    · cases h
    · split at h
      · exact (ih h).trans (List.suffix_cons c text)
      · split at h
        · obtain ⟨⟨more, left⟩, hmore, h⟩ := Option.map_eq_some_iff.mp h
          cases h
          exact (ih hmore).trans (List.suffix_cons c text)
        · cases h
          exact List.suffix_rfl

theorem breaksPiece_readsOn (read : List Char → List Char) (text : List Char) :
    ReadsOn text (breaksPiece read text) := by
  unfold breaksPiece
  split
  · next breaks rest hbreaks => exact .ok (quotedBreaks_suffix hbreaks)
  · exact .malformed

theorem gapPiece_readsOn (text : List Char) : ReadsOn text (gapPiece text) := by
  have hrest : text.dropWhile isGap <:+ text := List.dropWhile_suffix isGap
  unfold gapPiece
  split
  · exact .unfinished
  · next c rest hgap =>
    rw [hgap] at hrest
    split
    · exact (breaksPiece_readsOn _ rest).of_suffix ((List.suffix_cons c rest).trans hrest)
    · exact .ok hrest

/-- Of the long escapes only that with eight digits reaches beyond all characters. -/
theorem longEscapes_reach {c : Char} {count : Nat} (h : longEscapes.lookup c = some count)
    (hreach : 0x10FFFF < 16 ^ count) : c = 'U' ∧ count = 8 := by
  by_cases hx : c = 'x'
  · subst hx
    cases h
    omega
  · by_cases hu : c = 'u'
    · subst hu
      cases h
      omega
    · by_cases hU : c = 'U'
      · subst hU
        cases h
        exact ⟨rfl, rfl⟩
      · have hnone : longEscapes.lookup c = none := by
          rw [longEscapes, List.lookup_cons, beq_false_of_ne hx, List.lookup_cons, beq_false_of_ne hu,
            List.lookup_cons, beq_false_of_ne hU, List.lookup_nil]
        rw [hnone] at h
        cases h

/-- Behind a backslash only a wrong escape is a fault. -/
theorem escapePiece_readsOn (text : List Char) : ReadsOn ('\\' :: text) (escapePiece text) := by
  unfold escapePiece
  split
  · exact .unfinished
  · next c rest =>
    have hrest : rest <:+ '\\' :: c :: rest := (List.suffix_cons c rest).trans (List.suffix_cons _ _)
    split
    · exact .ok hrest
    · next count _ hcount =>
      split
      · next code left hhex =>
        obtain ⟨hlt, hleft⟩ := takeHex_ok hhex
        constructor
        · refine (charOfCode_blames code).map _ |>.mono ?_
          rintro fault ⟨hcode, hfault⟩
          obtain ⟨rfl, rfl⟩ := longEscapes_reach hcount (Nat.lt_trans hcode hlt)
          exact ⟨rest, code, left, List.suffix_rfl, hhex, hcode, hfault⟩
        · intro found left' hf
          cases hchar : charOfCode code with
          | ok meant =>
            rw [hchar] at hf
            cases hf
            rw [hleft]
            exact (List.drop_suffix count rest).trans hrest
          | error flaw =>
            rw [hchar] at hf
            cases hf
      · next flaw hhex =>
        constructor
        · intro fault hf
          cases hf
          exact takeHex_blames count rest fault hhex
        · intro found left hf
          cases hf
    · split
      · exact (breaksPiece_readsOn id rest).of_suffix hrest
      · exact .malformed

theorem quotedPiece_readsOn (double : Bool) (text : List Char) : ReadsOn text (quotedPiece double text) := by
  unfold quotedPiece
  split
  · exact .unfinished
  · next c rest =>
    have hrest : rest <:+ c :: rest := List.suffix_cons c rest
    split
    · exact gapPiece_readsOn _
    · split
      · split
        · exact .ok hrest
        · split
          · next hc =>
            subst hc
            exact escapePiece_readsOn rest
          · exact .ok hrest
      · split
        · split
          · next rest => exact .ok ((List.suffix_cons _ rest).trans hrest)
          · exact .ok hrest
        · exact .ok hrest

/-- Between quotes only a wrong escape is a fault. -/
theorem quotedText_readsOn (double : Bool) (text : List Char) : ReadsOn text (quotedText double text) := by
  induction text using quotedText.induct double with
  | case1 text flaw hpiece =>
    have hread := quotedPiece_readsOn double text
    rw [hpiece] at hread
    rw [quotedText, hpiece]
    exact ⟨hread.blames.error, fun found rest hf => by cases hf⟩
  | case2 text rest hpiece =>
    have hrest := (quotedPiece_readsOn double text).rest _ _ hpiece
    rw [quotedText, hpiece]
    exact .ok hrest
  | case3 text piece rest hpiece hlt ih =>
    have hrest := (quotedPiece_readsOn double text).rest _ _ hpiece
    rw [quotedText, hpiece]
    dsimp only
    rw [if_pos hlt]
    exact (ih.map _).of_suffix hrest
  | case4 text piece rest hpiece hle =>
    rw [quotedText, hpiece]
    dsimp only
    rw [if_neg hle]
    exact .malformed

end Checkup.Yaml
