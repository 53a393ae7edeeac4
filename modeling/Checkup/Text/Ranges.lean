/-!
# Ranges of code points

A character class that a standard fixes is held as a list of inclusive ranges
of code points. Only membership is used; the order of the ranges is that of
the standard's tables.
-/

namespace Checkup.Text

/-- Inclusive ranges of code points. -/
abbrev Ranges := List (Nat × Nat)

/-- The code point of `c` lies in one of the ranges. -/
def Ranges.has (ranges : Ranges) (c : Char) : Bool :=
  ranges.any fun (low, high) => low ≤ c.toNat && c.toNat ≤ high

/-- Membership, read as a statement about the code point. -/
theorem Ranges.has_iff {ranges : Ranges} {c : Char} :
    ranges.has c = true ↔ ∃ range ∈ ranges, range.1 ≤ c.toNat ∧ c.toNat ≤ range.2 := by
  simp [Ranges.has]

end Checkup.Text
