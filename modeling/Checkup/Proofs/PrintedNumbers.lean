import Mathlib.Data.List.TakeWhile
import Checkup.Proofs.Announcements
import Checkup.Proofs.Numerals
import Checkup.Proofs.TextSpans

/-!
# Numbers as they are printed

A number is printed by its digits, which no blank, sign or underscore is among. So a reader of
digits takes them up to what is no digit, and a reader of whole numbers gives the number again,
unless it has more digits than are read.
-/

namespace Checkup

namespace Text

variable {text rest : List Char}

/-! ## Digits -/

/-- No code point of a decimal digit is one of a blank. -/
theorem zeros_apart_blankRanges :
    ∀ start ∈ zeros, ∀ blank ∈ blankRanges, blank.2 < start ∨ start + 10 ≤ blank.1 := by
  decide +kernel

/-- A decimal digit is no blank. -/
theorem isBlank_of_isDecimal {c : Char} (h : isDecimal c = true) : isBlank c = false := by
  obtain ⟨value, hvalue⟩ := Option.isSome_iff_exists.mp h
  obtain ⟨start, hstart, hfound⟩ := List.exists_of_findSome?_eq_some hvalue
  rw [Bool.eq_false_iff]
  intro hb
  obtain ⟨blank, hblank, hlow, hhigh⟩ := Ranges.has_iff.mp hb
  have hapart := zeros_apart_blankRanges start hstart blank hblank
  split at hfound
  · omega
  · cases hfound

/-- An ASCII digit is a decimal digit. -/
theorem isDecimal_of_isDigit {c : Char} (h : c.isDigit = true) : isDecimal c = true := by
  rw [isDecimal, digitValue?_of_isDigit h]
  rfl

/-- An ASCII digit is no blank. -/
theorem isBlank_of_isDigit (c : Char) (h : c.isDigit = true) : isBlank c = false :=
  isBlank_of_isDecimal (isDecimal_of_isDigit h)

/-- Decimal digits, one at least. -/
def IsDigits (digits : List Char) : Prop := digits ≠ [] ∧ ∀ c ∈ digits, isDecimal c = true

/-- Digits are taken where they stand, up to what is no digit. -/
theorem takeDigits?_eq_some_iff {digits : List Char} :
    takeDigits? text = some (digits, rest) ↔ IsDigits digits ∧ Stops isDecimal rest ∧ text = digits ++ rest :=
  run?_eq_some_iff.trans and_assoc.symm

/-- Digits are taken up to what is no digit. -/
theorem IsDigits.takeDigits?_append {digits : List Char} (h : IsDigits digits) (hs : Stops isDecimal rest) :
    takeDigits? (digits ++ rest) = some (digits, rest) :=
  takeDigits?_eq_some_iff.mpr ⟨h, hs, rfl⟩

/-- What is no digit is not among digits. -/
theorem IsDigits.not_mem {digits : List Char} (h : IsDigits digits) {c : Char} (hc : isDecimal c = false) :
    c ∉ digits := by
  intro hm
  rw [h.2 c hm] at hc
  cases hc

/-- Digits are no blanks. -/
theorem IsDigits.isBlank_of_mem {digits : List Char} (h : IsDigits digits) : ∀ c ∈ digits, isBlank c = false :=
  fun c hc => isBlank_of_isDecimal (h.2 c hc)

/-- Digits start with no blank. -/
theorem IsDigits.stops {digits : List Char} (h : IsDigits digits) (rest : List Char) :
    Stops isBlank (digits ++ rest) := by
  obtain ⟨c, more, rfl⟩ := List.exists_cons_of_ne_nil h.1
  exact stops_cons (h.isBlank_of_mem c List.mem_cons_self) _

/-- A printed number is made of digits. -/
theorem isDigits_toDigits (n : Nat) : IsDigits (Nat.toDigits 10 n) :=
  ⟨Nat.toDigits_ne_nil, fun _ hc => isDecimal_of_isDigit (isDigit_of_mem_toDigits hc)⟩

/-- A number is taken up to what is no digit. -/
theorem takeDigits?_toDigits (n : Nat) (hs : Stops isDecimal rest) :
    takeDigits? (Nat.toDigits 10 n ++ rest) = some (Nat.toDigits 10 n, rest) :=
  (isDigits_toDigits n).takeDigits?_append hs

/-- A printed number starts with no blank. -/
theorem stops_toDigits (n : Nat) (rest : List Char) : Stops isBlank (Nat.toDigits 10 n ++ rest) :=
  (isDigits_toDigits n).stops rest

/-! ## Whole numbers -/

/-- A text without blanks keeps all of it when a number is looked for. -/
theorem trimNumber_eq_self (h : ∀ c ∈ text, isBlank c = false) : trimNumber text = text := by
  have hkept : ∀ part : List Char, (∀ c ∈ part, isBlank c = false) → part.dropWhile isNumberBlank = part := by
    intro part hpart
    cases part with
    | nil => rfl
    | cons c part =>
      refine List.dropWhile_cons_of_neg ?_
      rw [isNumberBlank, hpart c List.mem_cons_self]
      exact Bool.false_ne_true
  have hback : ∀ c ∈ text.reverse, isBlank c = false := fun c hc => h c (List.mem_reverse.mp hc)
  rw [trimNumber, hkept text h, hkept text.reverse hback, List.reverse_reverse]

/-- A text without signs has no sign. -/
theorem takeSign_eq_self (h : ∀ c ∈ text, c ≠ '-' ∧ c ≠ '+') : takeSign text = (false, text) := by
  unfold takeSign
  split
  · exact absurd rfl (h _ List.mem_cons_self).1
  · exact absurd rfl (h _ List.mem_cons_self).2
  · rfl

/-- Nothing is taken away from a text without underscores. -/
theorem ungroup?_eq_self (h : '_' ∉ text) : ungroup? text = some text := by
  fun_induction ungroup? text with
  | case1 => rfl
  | case2 => exact absurd List.mem_cons_self h
  | case3 => rfl
  | case4 c d rest hc => exact absurd (List.mem_cons_of_mem c List.mem_cons_self) h
  | case5 c d rest hc ih => exact absurd (List.mem_cons_of_mem c List.mem_cons_self) h
  | case6 => exact absurd List.mem_cons_self h
  | case7 c rest hrest hgroup hc ih => rw [ih (mt (List.mem_cons_of_mem c) h), Option.map_some]

/-- A text of digits is the whole number that they write. -/
theorem toInt?_of_isDigit (h : ∀ c ∈ text, c.isDigit = true) :
    toInt? text = (toNat? text).map fun n : Nat => (n : Int) := by
  have hne : ∀ d : Char, d.isDigit = false → ∀ c ∈ text, c ≠ d := by
    rintro d hd c hc rfl
    rw [h c hc] at hd
    cases hd
  have htrim : trimNumber text = text := trimNumber_eq_self fun c hc => isBlank_of_isDigit c (h c hc)
  have hsign : takeSign text = (false, text) :=
    takeSign_eq_self fun c hc => ⟨hne '-' rfl c hc, hne '+' rfl c hc⟩
  have hgroup : ungroup? text = some text := ungroup?_eq_self fun hc => hne '_' rfl '_' hc rfl
  unfold toInt?
  rw [htrim, hsign]
  dsimp only
  rw [hgroup]
  change ((toNat? text).bind fun magnitude => some (magnitude : Int)) = _
  cases toNat? text <;> rfl

/-- A number with more digits than are read is not read. -/
theorem toNat?_toDigits_eq_none {n : Nat} (h : unwritable ≤ n) : toNat? (Nat.toDigits 10 n) = none := by
  have hvalues := mapM_digitValue? fun c hc => isDigit_of_mem_toDigits (n := n) hc
  have hlong : maxDigits < ((Nat.toDigits 10 n).map fun c => c.toNat - 48).length := by
    rw [List.length_map, ← Nat.not_le, length_toDigits_le_maxDigits]
    unfold unwritable at h
    exact Nat.not_lt.mpr h
  exact toNat?_eq_none_of_mapM hvalues hlong

/-- Any other number is. -/
theorem toNat?_toDigits_eq_some {n : Nat} (h : n < unwritable) : toNat? (Nat.toDigits 10 n) = some n := by
  unfold unwritable at h
  exact toNat?_toDigits h

/-! ## Numbers in a sentence -/

/-- The number that the first digits of a text write, zero without any. -/
def firstNumber (text : List Char) : Nat :=
  decimalValue (((text.dropWhile fun c => !c.isDigit).takeWhile Char.isDigit).map fun c => c.toNat - 48)

/-- A number is found behind what has no digits and in front of what starts with none. -/
theorem firstNumber_append {front back : List Char} (hf : front.all (fun c => !c.isDigit) = true)
    (hb : Stops Char.isDigit back) (n : Nat) : firstNumber (front ++ (Nat.toDigits 10 n ++ back)) = n := by
  have hfront : ∀ c ∈ front, (!c.isDigit) = true := List.all_eq_true.mp hf
  have hdigits : ∀ c ∈ Nat.toDigits 10 n, c.isDigit = true := fun c hc => isDigit_of_mem_toDigits hc
  have hstart : Stops (fun c => !c.isDigit) (Nat.toDigits 10 n ++ back) := by
    obtain ⟨c, rest, hn⟩ := List.exists_cons_of_ne_nil (Nat.toDigits_ne_nil (b := 10) (n := n))
    rw [hn] at hdigits ⊢
    exact stops_cons (by rw [hdigits c List.mem_cons_self]; rfl) _
  unfold firstNumber
  rw [(span_append hfront hstart).2, (span_append hdigits hb).1, decimalValue_toDigits]

/-- A text without digits has no number. -/
theorem firstNumber_eq_zero (h : text.all (fun c => !c.isDigit) = true) : firstNumber text = 0 := by
  unfold firstNumber
  rw [List.dropWhile_eq_nil_iff.mpr (List.all_eq_true.mp h)]
  rfl

/-- The number that is printed in a sentence is its first one. -/
theorem firstNumber_sentence {before after : String} (hb : before.toList.all (fun c => !c.isDigit) = true)
    (ha : Stops Char.isDigit after.toList) (n : Nat) :
    firstNumber (before ++ toString n ++ after).toList = n := by
  have hn : (toString n).toList = Nat.toDigits 10 n := Nat.toList_repr
  rw [String.toList_append, String.toList_append, hn, List.append_assoc]
  exact firstNumber_append hb ha n

end Text

namespace Value

open Text

/-- The line that an issue tells of a line that was printed: none if its number is too long to be read. -/
def lineNumber (n : Nat) : Value := if n < unwritable then .int n else .null

/-- A printed line is read back unless its number is too long. -/
theorem toLine_toDigits {n : Nat} (h : 0 < n) :
    toLine (.text (String.ofList (Nat.toDigits 10 n))) = .ok (if n < unwritable then some (n : Int) else none) := by
  have hdigits : ∀ c ∈ Nat.toDigits 10 n, c.isDigit = true := fun c hc => isDigit_of_mem_toDigits hc
  unfold toLine toWhole
  dsimp only
  rw [String.toList_ofList, toInt?_of_isDigit hdigits]
  by_cases hn : n < unwritable
  · rw [toNat?_toDigits_eq_some hn, if_pos hn]
    exact congrArg Except.ok (if_pos (Int.natCast_pos.mpr h))
  · rw [toNat?_toDigits_eq_none (Nat.not_lt.mp hn), if_neg hn]
    rfl

/-- The line of an issue is the one that was read. -/
theorem ofLine?_eq_lineNumber (n : Nat) : ofLine? (if n < unwritable then some (n : Int) else none) = lineNumber n := by
  unfold lineNumber
  split <;> rfl

end Value

end Checkup
