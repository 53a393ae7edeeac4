import Mathlib.Algebra.GroupWithZero.Nat
import Checkup.Fault
import Checkup.Text.Numeral
import Checkup.Value.Display

/-!
# Numbers that are written and read back

A whole number is written with the ten digits of ASCII, which are among the
decimal digits of every reader here. A number that is short enough to be written
is short enough to be read, so the reader of decimal numerals takes back what
was written.
-/

namespace Checkup.Text

/-- An ASCII digit has the value of its place among them. -/
theorem digitValue?_of_isDigit {c : Char} (h : c.isDigit = true) :
    digitValue? c = some (c.toNat - 48) := by
  have hc : 48 ≤ c.toNat ∧ c.toNat < 48 + 10 := by
    simp only [Char.isDigit, Bool.and_eq_true, decide_eq_true_eq, ge_iff_le, UInt32.le_iff_toNat_le] at h
    change 48 ≤ c.toNat ∧ c.toNat ≤ 57 at h
    omega
  unfold digitValue? zeros
  rw [List.findSome?_cons, if_pos hc]

/-- An ASCII digit is a digit of some kind. -/
theorem isDigitLike_of_isDigit {c : Char} (h : c.isDigit = true) : isDigitLike c = true := by
  simp only [isDigitLike, isDecimal, digitValue?_of_isDigit h, Option.isSome_some, Bool.true_or]

/-- The values of a run of ASCII digits. -/
theorem mapM_digitValue? {text : List Char} (h : ∀ c ∈ text, c.isDigit = true) :
    text.mapM digitValue? = some (text.map fun c => c.toNat - 48) := by
  induction text with
  | nil => rfl
  | cons c text ih =>
    have hc := digitValue?_of_isDigit (h c List.mem_cons_self)
    have ht := ih fun d hd => h d (List.mem_cons_of_mem c hd)
    rw [List.mapM_cons, hc, ht]
    rfl

/-- Every digit of a written number is an ASCII digit. -/
theorem isDigit_of_mem_toDigits {n : Nat} {c : Char} (h : c ∈ Nat.toDigits 10 n) : c.isDigit = true :=
  Nat.isDigit_of_mem_toDigits (by decide) (by decide) h

/-- What is no digit does not occur in a written number. -/
theorem not_mem_toDigits {c : Char} (h : c.isDigit = false) (n : Nat) : c ∉ Nat.toDigits 10 n := by
  intro hc
  rw [isDigit_of_mem_toDigits hc] at h
  cases h

/-- A written number is a numeral. -/
theorem isNumeral_toDigits (n : Nat) : isNumeral (Nat.toDigits 10 n) = true := by
  have hne : (Nat.toDigits 10 n).isEmpty = false := by simp [Nat.toDigits_ne_nil]
  have hall : (Nat.toDigits 10 n).all isDigitLike = true :=
    List.all_eq_true.mpr fun c hc => isDigitLike_of_isDigit (isDigit_of_mem_toDigits hc)
  simp only [isNumeral, hne, hall, Bool.not_false, Bool.and_self]

/-- A number is written with no more digits than are read exactly if it is small enough. -/
theorem length_toDigits_le_maxDigits {n : Nat} :
    (Nat.toDigits 10 n).length ≤ maxDigits ↔ n < Nat.pow 10 writableDigits := by
  have hsame : maxDigits = writableDigits := rfl
  rw [hsame, Nat.length_toDigits_le_iff (by decide) (by decide), Nat.pow_eq]

/-- The digits of a written number give the number again. -/
theorem decimalValue_toDigits (n : Nat) :
    decimalValue ((Nat.toDigits 10 n).map fun c => c.toNat - 48) = n := by
  have h := Nat.ofDigitChars_ten_toDigits (n := n)
  rw [Nat.ofDigitChars] at h
  rw [decimalValue, List.foldl_map]
  exact h

/-- A number that is short enough is read back from its digits. -/
theorem toNat?_toDigits {n : Nat} (h : n < Nat.pow 10 writableDigits) :
    toNat? (Nat.toDigits 10 n) = some n := by
  have hd := mapM_digitValue? fun c hc => isDigit_of_mem_toDigits (n := n) hc
  have hl := length_toDigits_le_maxDigits.mpr h
  have hne : ((Nat.toDigits 10 n).map fun c => c.toNat - 48).isEmpty = false := by
    simp [Nat.toDigits_ne_nil]
  unfold toNat?
  rw [hd]
  simp only [Option.bind_eq_bind, Option.bind_some, hne, List.length_map, Bool.false_or,
    decide_eq_true_eq, if_neg (Nat.not_lt.mpr hl), decimalValue_toDigits]

end Checkup.Text

namespace Checkup

/-- A natural number is short enough exactly if it is below the bound. -/
theorem isWritable_natCast {n : Nat} : isWritable (n : Int) = true ↔ n < Nat.pow 10 writableDigits := by
  simp only [isWritable, Int.natAbs_natCast, decide_eq_true_eq]

/-- A number of one digit is short enough. -/
theorem isWritable_of_natAbs_lt_ten {n : Int} (h : n.natAbs < 10) : isWritable n = true := by
  have hle : ∀ digits, digits ≠ 0 → 10 ≤ Nat.pow 10 digits := fun digits hd => Nat.le_self_pow hd 10
  exact decide_eq_true (Nat.lt_of_lt_of_le h (hle writableDigits (by decide)))

/-- A natural number in a message is its digits. -/
theorem toList_display_natCast (n : Nat) : (Value.int (n : Int)).display.toList = Nat.toDigits 10 n :=
  Nat.toList_repr

end Checkup
