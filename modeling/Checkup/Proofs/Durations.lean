import Checkup.Proofs.LabelledLines
import Checkup.Report.Duration

/-!
# Durations that can be shown

A clock that counts in floating-point seconds measures no more milliseconds than
a floating-point number holds. Every such duration is shown: it is short enough
to be written, and as seconds it is far from infinite. Whatever is shown is short
enough to be written, and stands on one line. A whole number is too large for a
floating-point number from the middle between the greatest finite one and the power
of two behind it, and not before.
-/

namespace Checkup

namespace Binary64

/-- The least power of two that no finite number reaches. -/
def boundExponent : Nat := 1024

/-- A bound that no finite number reaches. -/
def bound : Nat := Nat.pow 2 boundExponent

/-- Zero is below the bound. -/
theorem bound_pos : 0 < bound := by
  -- For a variable exponent, since the power itself is too large to be evaluated.
  have hpow : ∀ bits, 0 < Nat.pow 2 bits := fun _ => Nat.pow_pos (by decide)
  unfold bound
  exact hpow _

/-- The exponent of a quotient lies near the difference of the two logarithms. -/
theorem fittingExponent_le (numerator denominator : Nat) :
    fittingExponent numerator denominator ≤
      max leastExponent ((numerator.log2 : Int) - denominator.log2 - 52) := by
  have hle : ∀ (least guess : Int) (tooHigh : Bool),
      max least (if tooHigh then guess - 1 else guess) ≤ max least guess := by
    intro least guess tooHigh
    cases tooHigh with
    | false => exact Int.le_refl _
    | true =>
      rw [if_pos rfl]
      omega
  exact hle _ _ _

/-- A quotient whose logarithms differ by little enough is finite. -/
theorem ofRatio_ne_infinite {numerator denominator : Nat}
    (h : numerator.log2 ≤ denominator.log2 + 1022) (negative sign : Bool) :
    ofRatio negative numerator denominator ≠ .infinite sign := by
  have hle := fittingExponent_le numerator denominator
  have hfits : fittingExponent numerator denominator + 1 ≤ greatestExponent := by
    unfold leastExponent at hle
    unfold greatestExponent
    omega
  unfold ofRatio
  by_cases hz : numerator = 0
  · rw [if_pos hz]
    exact fun hi => by cases hi
  · rw [if_neg hz]
    extract_lets exponent mantissa
    have hexponent : exponent + 1 ≤ greatestExponent := hfits
    by_cases hm : mantissa = Nat.pow 2 53
    · rw [if_pos hm]
      dsimp only
      rw [if_neg (Int.not_lt.mpr hexponent)]
      exact fun hi => by cases hi
    · rw [if_neg hm]
      dsimp only
      rw [if_neg (show ¬greatestExponent < exponent by omega)]
      exact fun hi => by cases hi

/-- The exponent of a quotient is little less than the difference of the two logarithms. -/
theorem le_fittingExponent (numerator denominator : Nat) :
    (numerator.log2 : Int) - denominator.log2 - 53 ≤ fittingExponent numerator denominator := by
  have hle : ∀ (least guess : Int) (tooHigh : Bool),
      guess - 1 ≤ max least (if tooHigh then guess - 1 else guess) := by
    intro least guess tooHigh
    cases tooHigh with
    | false =>
      rw [if_neg Bool.false_ne_true]
      omega
    | true =>
      rw [if_pos rfl]
      omega
  have hguess := hle leastExponent ((numerator.log2 : Int) - denominator.log2 - 52)
    (numerator * Nat.pow 2 (-((numerator.log2 : Int) - denominator.log2 - 52)).toNat <
      denominator * Nat.pow 2 ((numerator.log2 : Int) - denominator.log2 - 52).toNat * Nat.pow 2 52)
  exact Int.le_trans (by omega) hguess

/-- A quotient whose logarithms differ by too much is infinite. -/
theorem ofRatio_eq_infinite {numerator denominator : Nat}
    (h : denominator.log2 + 1025 ≤ numerator.log2) (negative : Bool) :
    ofRatio negative numerator denominator = .infinite negative := by
  have hle := le_fittingExponent numerator denominator
  have hlarge : greatestExponent < fittingExponent numerator denominator := by
    unfold greatestExponent
    omega
  have hne : numerator ≠ 0 := by
    rintro rfl
    rw [Nat.log2_zero] at h
    omega
  unfold ofRatio
  rw [if_neg hne]
  extract_lets exponent mantissa
  have hexponent : greatestExponent < exponent := hlarge
  by_cases hm : mantissa = Nat.pow 2 53
  · rw [if_pos hm]
    dsimp only
    rw [if_pos (show greatestExponent < exponent + 1 by omega)]
  · rw [if_neg hm]
    dsimp only
    rw [if_pos hexponent]

end Binary64

/-- A number below the bound of floating-point numbers is short enough to be written. -/
theorem isWritable_of_natAbs_lt_bound {n : Int} (h : n.natAbs < Binary64.bound) : isWritable n = true := by
  have hpow : ∀ p q : Nat, p ≤ q → Nat.pow 2 p ≤ Nat.pow 10 q := by
    intro p q hpq
    have hbase : Nat.pow 2 p ≤ Nat.pow 10 p := Nat.pow_le_pow_left (by decide) p
    have hexponent : Nat.pow 10 p ≤ Nat.pow 10 q := Nat.pow_le_pow_right (by decide) hpq
    exact Nat.le_trans hbase hexponent
  unfold Binary64.bound at h
  exact decide_eq_true (Nat.lt_of_lt_of_le h (hpow Binary64.boundExponent writableDigits (by decide)))

/-- Every duration below the bound of floating-point numbers is shown. -/
theorem exists_showMilliseconds {milliseconds : Int} (h : milliseconds.natAbs < Binary64.bound) :
    ∃ text, showMilliseconds milliseconds = .ok text := by
  unfold showMilliseconds
  by_cases hs : milliseconds < 1000
  · rw [if_pos hs, writeWhole, if_pos (isWritable_of_natAbs_lt_bound h)]
    exact ⟨_, rfl⟩
  · rw [if_neg hs]
    have hn : milliseconds.toNat ≠ 0 := by omega
    have htoNat : milliseconds.toNat = milliseconds.natAbs := by omega
    have hlog : ∀ bits, milliseconds.toNat < Nat.pow 2 bits → milliseconds.toNat.log2 < bits :=
      fun bits hb => (Nat.log2_lt hn).mpr hb
    unfold Binary64.bound at h
    rw [← htoNat] at h
    have hlt := hlog Binary64.boundExponent h
    have hbits : Binary64.boundExponent = 1024 := rfl
    have hthousand : 1 ≤ Nat.log2 1000 := by decide
    have hle : milliseconds.toNat.log2 ≤ Nat.log2 1000 + 1022 := by omega
    have hfinite := Binary64.ofRatio_ne_infinite hle false
    split
    · next sign heq => exact absurd heq (hfinite sign)
    · exact ⟨_, rfl⟩

/-- A number to one place is written on one line. -/
theorem Binary64.isOneLine_onePlace (number : Binary64) : Text.IsOneLine (String.ofList number.onePlace) := by
  unfold Text.IsOneLine
  rw [String.toList_ofList]
  cases number with
  | nan => decide
  | infinite negative => cases negative <;> decide
  | finite negative mantissa exponent =>
    have hdigits : ∀ n, '\n' ∉ digitsOf n := fun n => Text.not_mem_toDigits (by decide) n
    unfold onePlace
    cases negative <;> simp [hdigits]

/-- A duration that is shown is short enough to be written. -/
theorem isWritable_of_showMilliseconds {milliseconds : Int} {text : String}
    (h : showMilliseconds milliseconds = .ok text) : isWritable milliseconds = true := by
  unfold showMilliseconds at h
  by_cases hs : milliseconds < 1000
  · rw [if_pos hs, writeWhole] at h
    by_cases hw : isWritable milliseconds = true
    · exact hw
    · rw [if_neg hw] at h
      cases h
  · rw [if_neg hs] at h
    -- For any number of digits, since the power itself is too large to be evaluated.
    have hlog : ∀ digits, Nat.pow 10 digits ≤ milliseconds.toNat → digits ≤ milliseconds.toNat.log2 := by
      intro digits hd
      have hbase : 2 ^ digits ≤ 10 ^ digits := Nat.pow_le_pow_left (by decide) digits
      have hn : milliseconds.toNat ≠ 0 := by omega
      exact (Nat.le_log2 hn).mpr (Nat.le_trans hbase hd)
    by_cases hlt : milliseconds.natAbs < Nat.pow 10 writableDigits
    · exact decide_eq_true hlt
    · have hle : Nat.pow 10 writableDigits ≤ milliseconds.toNat := by
        have htoNat : milliseconds.toNat = milliseconds.natAbs := by omega
        rw [htoNat]
        exact Nat.not_lt.mp hlt
      have hspan : Nat.log2 1000 + 1025 ≤ writableDigits := by decide
      have hlarge : Nat.log2 1000 + 1025 ≤ milliseconds.toNat.log2 :=
        Nat.le_trans hspan (hlog writableDigits hle)
      rw [Binary64.ofRatio_eq_infinite hlarge false] at h
      cases h

/-- A duration is shown on one line. -/
theorem isOneLine_of_showMilliseconds {milliseconds : Int} {text : String}
    (h : showMilliseconds milliseconds = .ok text) : Text.IsOneLine text := by
  have hwritable := isWritable_of_showMilliseconds h
  unfold showMilliseconds at h
  by_cases hs : milliseconds < 1000
  · rw [if_pos hs, writeWhole, if_pos hwritable] at h
    cases h
    exact (Text.isOneLine_int milliseconds).append (by decide)
  · rw [if_neg hs] at h
    split at h
    · cases h
    · cases h
      exact (Binary64.isOneLine_onePlace _).append (by decide)

/-! ## Whole numbers that are too large -/

namespace Binary64

/-- The power of two that is half a unit of the greatest finite number. -/
def halfExponent : Nat := 970

/-- The least magnitude of a whole number that is too large. -/
def leastTooLarge : Nat := bound - Nat.pow 2 halfExponent

/-- The exponent of a whole number of more than 52 bits leaves 53 of them. -/
theorem fittingExponent_whole {n : Nat} (hn : n ≠ 0) (h : 52 ≤ n.log2) :
    fittingExponent n 1 = (n.log2 : Int) - 52 := by
  have hguess : (n.log2 : Int) - Nat.log2 1 - 52 = ((n.log2 - 52 : Nat) : Int) := by
    have hone : Nat.log2 1 = 0 := by decide
    omega
  have hsplit : Nat.pow 2 (n.log2 - 52) * Nat.pow 2 52 = 2 ^ n.log2 := by
    have hpow : ∀ few many : Nat, few ≤ many → Nat.pow 2 (many - few) * Nat.pow 2 few = 2 ^ many :=
      fun few many hle => Nat.pow_sub_mul_pow 2 hle
    exact hpow 52 n.log2 h
  have hfits : ¬ n * Nat.pow 2 (-((n.log2 - 52 : Nat) : Int)).toNat <
      1 * Nat.pow 2 ((n.log2 - 52 : Nat) : Int).toNat * Nat.pow 2 52 := by
    have hzero : (-((n.log2 - 52 : Nat) : Int)).toNat = 0 := by omega
    rw [hzero, Int.toNat_natCast, Nat.one_mul, hsplit, Nat.not_lt]
    change 2 ^ n.log2 ≤ n * 1
    rw [Nat.mul_one]
    exact Nat.log2_self_le hn
  unfold fittingExponent
  rw [hguess]
  dsimp only
  rw [decide_eq_false hfits, if_neg Bool.false_ne_true]
  unfold leastExponent
  omega

/-- A whole number is rounded by the last of its bits. -/
theorem scaled_whole (n bits : Nat) : scaled n 1 (bits : Int) = roundHalfEven n (Nat.pow 2 bits) := by
  have hzero : (-(bits : Int)).toNat = 0 := by omega
  unfold scaled
  rw [hzero, Int.toNat_natCast, Nat.one_mul]
  exact congrArg (roundHalfEven · _) (Nat.mul_one n)

/-- A number is rounded up to an even bound exactly from half a unit below it on. -/
theorem roundHalfEven_eq_iff {numerator half bound : Nat} (heven : bound % 2 = 0) (hpos : 0 < half)
    (hlt : numerator < bound * (2 * half)) :
    roundHalfEven numerator (2 * half) = bound ↔ bound * (2 * half) ≤ numerator + half := by
  have hsum : 2 * half * (numerator / (2 * half)) + numerator % (2 * half) = numerator := Nat.div_add_mod _ _
  have hrest : numerator % (2 * half) < 2 * half := Nat.mod_lt _ (by omega)
  have hquotient : numerator / (2 * half) < bound := Nat.div_lt_of_lt_mul (by rwa [Nat.mul_comm])
  unfold roundHalfEven
  dsimp only
  generalize numerator / (2 * half) = quotient at hsum hquotient ⊢
  generalize numerator % (2 * half) = rest at hsum hrest ⊢
  by_cases hnext : quotient + 1 = bound
  · -- The quotient before an even bound is odd, so that a half is rounded up.
    have hproduct : bound * (2 * half) = 2 * half * quotient + 2 * half := by
      rw [← hnext, Nat.add_one_mul, Nat.mul_comm quotient]
    rw [hproduct]
    split
    · omega
    · split <;> omega
  · have hproduct : 2 * half * quotient + 2 * half + 2 * half ≤ bound * (2 * half) := by
      have hle : quotient + 2 ≤ bound := by omega
      calc 2 * half * quotient + 2 * half + 2 * half = (quotient + 2) * (2 * half) := by
            rw [Nat.add_mul, Nat.mul_comm quotient]
            omega
        _ ≤ bound * (2 * half) := Nat.mul_le_mul_right _ hle
    split
    · omega
    · split <;> omega

/-- A positive quotient is infinite exactly if its exponent is too large, with the one that rounding may
add. -/
theorem ofRatio_infinite_iff {numerator denominator : Nat} (hn : numerator ≠ 0) (negative : Bool) :
    (∃ sign, ofRatio negative numerator denominator = .infinite sign) ↔
      greatestExponent < fittingExponent numerator denominator +
        if scaled numerator denominator (fittingExponent numerator denominator) = Nat.pow 2 53 then 1 else 0 := by
  unfold ofRatio
  rw [if_neg hn]
  extract_lets exponent mantissa
  change _ ↔ greatestExponent < exponent + if mantissa = Nat.pow 2 53 then 1 else 0
  have hfinite : ∀ mantissa exponent, ¬∃ sign, Binary64.finite negative mantissa exponent = .infinite sign := by
    rintro mantissa exponent ⟨sign, hsign⟩
    cases hsign
  by_cases hm : mantissa = Nat.pow 2 53
  · rw [if_pos hm, if_pos hm]
    dsimp only
    split
    · next hlarge => exact iff_of_true ⟨negative, rfl⟩ hlarge
    · next hsmall => exact iff_of_false (hfinite _ _) hsmall
  · rw [if_neg hm, if_neg hm, Int.add_zero]
    dsimp only
    split
    · next hlarge => exact iff_of_true ⟨negative, rfl⟩ hlarge
    · next hsmall => exact iff_of_false (hfinite _ _) hsmall

/-- The last power of two from which on there are finite numbers, and half a unit of these: the least
magnitude that is too large lies half a unit below the next power. -/
structure Between (half middle : Nat) : Prop where
  pos : 0 < half
  le : half ≤ middle
  below : ∀ bits ≤ 1023, 2 ^ bits ≤ middle
  above : ∀ bits, 1023 ≤ bits → middle ≤ 2 ^ bits
  rounded : ∀ n, scaled n 1 greatestExponent = roundHalfEven n (2 * half)
  top : Nat.pow 2 53 * (2 * half) = 2 * middle
  least : leastTooLarge + half = 2 * middle

/-- The least magnitude that is too large lies half a unit below a power of two. -/
theorem exists_between : ∃ half middle, Between half middle := by
  -- For variable exponents, since the powers themselves are too large to be evaluated.
  have hpow : ∀ low mid top : Nat, mid = low + 53 → top = low + 54 →
      Nat.pow 2 53 * (2 * Nat.pow 2 low) = 2 * Nat.pow 2 mid ∧
        Nat.pow 2 top - Nat.pow 2 low + Nat.pow 2 low = 2 * Nat.pow 2 mid ∧ Nat.pow 2 low ≤ Nat.pow 2 mid ∧
        0 < Nat.pow 2 low ∧ (∀ bits ≤ mid, 2 ^ bits ≤ Nat.pow 2 mid) ∧
        (∀ bits, mid ≤ bits → Nat.pow 2 mid ≤ 2 ^ bits) ∧ Nat.pow 2 (low + 1) = 2 * Nat.pow 2 low := by
    rintro low mid top rfl rfl
    have hmono : ∀ {few many : Nat}, few ≤ many → 2 ^ few ≤ 2 ^ many := Nat.pow_le_pow_right (by decide)
    refine ⟨?_, ?_, hmono (Nat.le_add_right _ _), Nat.pow_pos (by decide), fun _ => hmono, fun _ => hmono,
      Nat.pow_succ'⟩
    · change 2 ^ 53 * (2 * 2 ^ low) = 2 * 2 ^ (low + 53)
      rw [Nat.pow_add]
      omega
    · have hle : Nat.pow 2 low ≤ Nat.pow 2 (low + 54) := hmono (Nat.le_add_right _ _)
      rw [Nat.sub_add_cancel hle]
      exact Nat.pow_succ'
  have hmid : halfExponent + 53 = 1023 := by decide
  obtain ⟨htop, hleast, hle, hpos, hbelow, habove, hunit⟩ :=
    hpow halfExponent (halfExponent + 53) boundExponent rfl (by decide)
  have hrounded : ∀ n, scaled n 1 greatestExponent = roundHalfEven n (2 * Nat.pow 2 halfExponent) := by
    intro n
    have hexponent : greatestExponent = ((halfExponent + 1 : Nat) : Int) := by decide
    rw [hexponent, scaled_whole, hunit]
  have hlargest : leastTooLarge + Nat.pow 2 halfExponent = 2 * Nat.pow 2 (halfExponent + 53) := by
    unfold leastTooLarge bound
    exact hleast
  refine ⟨Nat.pow 2 halfExponent, Nat.pow 2 (halfExponent + 53), hpos, hle, ?_, ?_, hrounded, htop, hlargest⟩
  · exact fun bits hbits => hbelow bits (hmid ▸ hbits)
  · exact fun bits hbits => habove bits (hmid ▸ hbits)

/-- A whole number has no nearest number exactly if it is too large. -/
theorem ofInt?_eq_none_iff (n : Int) : ofInt? n = none ↔ leastTooLarge ≤ n.natAbs := by
  have hinfinite : ofInt? n = none ↔ ∃ sign, ofRatio (n < 0) n.natAbs 1 = .infinite sign := by
    unfold ofInt?
    cases ofRatio (n < 0) n.natAbs 1 with
    | infinite sign => exact iff_of_true rfl ⟨sign, rfl⟩
    | nan => exact iff_of_false nofun nofun
    | finite sign mantissa exponent => exact iff_of_false nofun nofun
  obtain ⟨half, middle, h⟩ := exists_between
  have hpos := h.pos
  have hle := h.le
  have hleast := h.least
  rw [hinfinite]
  generalize n.natAbs = m
  generalize (decide (n < 0)) = negative
  by_cases hzero : m = 0
  · subst hzero
    refine iff_of_false ?_ (by omega)
    rintro ⟨sign, hsign⟩
    cases hsign
  have hself : 2 ^ m.log2 ≤ m := Nat.log2_self_le hzero
  have hnext : m < 2 ^ (m.log2 + 1) := Nat.lt_log2_self
  rcases Nat.lt_trichotomy m.log2 1023 with hlow | hsame | hhigh
  · refine iff_of_false ?_ ?_
    · rintro ⟨sign, hsign⟩
      exact ofRatio_ne_infinite (by omega) negative sign hsign
    · have hbelow := h.below _ hlow
      omega
  · have hexponent : (m.log2 : Int) - 52 = greatestExponent := by
      unfold greatestExponent
      omega
    have htop : m < Nat.pow 2 53 * (2 * half) := by
      have hhalf := h.below m.log2 (by omega)
      rw [h.top]
      rw [Nat.pow_succ] at hnext
      omega
    have hround := roundHalfEven_eq_iff (by decide) hpos htop
    rw [h.top, ← hleast, Nat.add_le_add_iff_right] at hround
    rw [ofRatio_infinite_iff hzero, fittingExponent_whole hzero (by omega), hexponent, h.rounded, ← hround]
    by_cases hcarry : roundHalfEven m (2 * half) = Nat.pow 2 53
    · rw [if_pos hcarry]
      exact iff_of_true (by omega) hcarry
    · rw [if_neg hcarry]
      exact iff_of_false (by omega) hcarry
  · refine iff_of_true ?_ ?_
    · rw [ofRatio_infinite_iff hzero, fittingExponent_whole hzero (by omega)]
      unfold greatestExponent
      split <;> omega
    · have habove := h.above (m.log2 - 1) (by omega)
      have hsplit : 2 ^ m.log2 = 2 * 2 ^ (m.log2 - 1) := by
        rw [← Nat.pow_succ', Nat.succ_eq_add_one, Nat.sub_add_cancel (by omega)]
      omega

end Binary64

end Checkup
