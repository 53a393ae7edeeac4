import Checkup.Proofs.Numerals
import Checkup.Text.Counting

/-!
# Runs and what stops them

A text is a run of admitted characters and a rest that another character starts, in one
way. With this the readers of runs, blanks and words are said as equations between texts:
what they take, and what they leave. A number is read only from a run of few enough digits,
so in a text with short runs every number can be read.
-/

namespace Checkup.Text

/-- No run of decimal digits in the text is longer than the bound. -/
def RunsWithin (bound : Nat) (text : List Char) : Prop :=
  ∀ run, run <:+: text → (∀ c ∈ run, isDecimal c = true) → run.length ≤ bound

namespace RunsWithin

variable {bound : Nat} {text part : List Char}

/-- The runs of a passage are runs of the text. -/
theorem of_isInfix (h : RunsWithin bound text) (hp : part <:+: text) : RunsWithin bound part :=
  fun run hrun hdigits => h run (hrun.trans hp) hdigits

/-- A short text has short runs. -/
theorem of_length_le (h : text.length ≤ bound) : RunsWithin bound text :=
  fun _ hrun _ => Nat.le_trans hrun.length_le h

/-- A character that is no digit keeps the runs before it apart from those behind it. -/
theorem append_cons {rest : List Char} {c : Char} (h : RunsWithin bound text) (hc : isDecimal c = false)
    (hr : RunsWithin bound rest) : RunsWithin bound (text ++ c :: rest) := by
  intro run hrun hdigits
  have hnot : c ∉ run := fun hmem => by
    rw [hdigits c hmem] at hc
    cases hc
  rcases List.infix_append_iff.mp hrun with hfront | hback | ⟨first, second, rfl, hfirst, hsecond⟩
  · exact h run hfront hdigits
  · rcases List.infix_cons_iff.mp hback with hstart | hinside
    · rcases List.prefix_cons_iff.mp hstart with rfl | ⟨more, rfl, -⟩
      · exact Nat.zero_le bound
      · exact absurd List.mem_cons_self hnot
    · exact hr run hinside hdigits
  · -- A run across the character would hold it.
    rcases List.prefix_cons_iff.mp hsecond with rfl | ⟨more, rfl, -⟩
    · rw [List.append_nil] at hdigits ⊢
      exact h first hfirst.isInfix hdigits
    · exact absurd (List.mem_append_right first List.mem_cons_self) hnot

end RunsWithin

/-! ## Numbers that can be read -/

/-- Decimal digits have values. -/
theorem exists_mapM_digitValue? {digits : List Char} (h : ∀ c ∈ digits, isDecimal c = true) :
    ∃ values, digits.mapM digitValue? = some values ∧ values.length = digits.length := by
  induction digits with
  | nil => exact ⟨[], rfl, rfl⟩
  | cons c digits ih =>
    obtain ⟨value, hvalue⟩ := Option.isSome_iff_exists.mp (h c List.mem_cons_self)
    obtain ⟨values, hvalues, hlength⟩ := ih fun d hd => h d (List.mem_cons_of_mem c hd)
    refine ⟨value :: values, ?_, congrArg Nat.succ hlength⟩
    rw [List.mapM_cons, hvalue, hvalues]
    rfl

/-- Digits with values, few enough of them, write the number of their values. -/
theorem toNat?_of_mapM {digits : List Char} {values : List Nat} (h : digits.mapM digitValue? = some values)
    (hne : values ≠ []) (hl : values.length ≤ maxDigits) : toNat? digits = some (decimalValue values) := by
  have hempty : values.isEmpty = false := by
    cases values with
    | nil => exact absurd rfl hne
    | cons value values => rfl
  unfold toNat?
  rw [h]
  simp only [Option.bind_eq_bind, Option.bind_some, hempty, Bool.false_or, decide_eq_true_eq,
    if_neg (Nat.not_lt.mpr hl)]

/-- Few decimal digits, one at least, can be read. -/
theorem exists_toNat? {digits : List Char} (hne : digits ≠ []) (hd : ∀ c ∈ digits, isDecimal c = true)
    (hl : digits.length ≤ maxDigits) : ∃ n, toNat? digits = some n := by
  obtain ⟨values, hvalues, hlength⟩ := exists_mapM_digitValue? hd
  refine ⟨_, toNat?_of_mapM hvalues (fun hv => ?_) (hlength ▸ hl)⟩
  rw [hv] at hlength
  exact hne (List.length_eq_zero_iff.mp hlength.symm)

/-- Each further digit makes a number ten times as large at least. -/
theorem mul_pow_le_foldl_digits (values : List Nat) (n : Nat) :
    n * 10 ^ values.length ≤ values.foldl (fun value digit => 10 * value + digit) n := by
  induction values generalizing n with
  | nil => exact Nat.le_of_eq (Nat.mul_one n)
  | cons value values ih =>
    calc n * 10 ^ (values.length + 1) = 10 * n * 10 ^ values.length := by
          rw [Nat.pow_succ, Nat.mul_comm _ 10, ← Nat.mul_assoc, Nat.mul_comm n 10]
      _ ≤ (10 * n + value) * 10 ^ values.length := Nat.mul_le_mul_right _ (Nat.le_add_right _ value)
      _ ≤ values.foldl (fun value digit => 10 * value + digit) (10 * n + value) := ih _

/-- A number whose first digit is not zero is as large as its number of digits says. -/
theorem pow_le_decimalValue {value : Nat} (h : 0 < value) (values : List Nat) :
    10 ^ values.length ≤ decimalValue (value :: values) := by
  have hle := mul_pow_le_foldl_digits values (10 * 0 + value)
  rw [Nat.mul_zero, Nat.zero_add] at hle
  unfold decimalValue
  rw [List.foldl_cons, Nat.mul_zero, Nat.zero_add]
  exact Nat.le_trans (Nat.le_mul_of_pos_left _ h) hle

/-- Nines write the number before a power of ten. -/
theorem exists_values_of_nines (n : Nat) :
    ∃ values, (List.replicate n '9').mapM digitValue? = some values ∧ decimalValue values + 1 = 10 ^ n := by
  have hvalues : (List.replicate n '9').mapM digitValue? = some (List.replicate n 9) := by
    induction n with
    | zero => rfl
    | succ n ih =>
      rw [List.replicate_succ, List.mapM_cons, ih]
      rfl
  have hfold : ∀ start, (List.replicate n 9).foldl (fun value digit => 10 * value + digit) start + 1 =
      (start + 1) * 10 ^ n := by
    clear hvalues
    induction n with
    | zero => exact fun start => (Nat.mul_one _).symm
    | succ n ih =>
      intro start
      rw [List.replicate_succ, List.foldl_cons, ih, Nat.pow_succ, Nat.mul_comm _ 10, ← Nat.mul_assoc]
      congr 1
      omega
  refine ⟨_, hvalues, ?_⟩
  have hzero := hfold 0
  rwa [Nat.zero_add, Nat.one_mul] at hzero

/-- A maximal run is not empty, and the text is the run and what follows it. -/
theorem run?_eq_some {admits : Char → Bool} {text taken rest : List Char}
    (h : run? admits text = some (taken, rest)) :
    taken ≠ [] ∧ taken = text.takeWhile admits ∧ rest = text.dropWhile admits := by
  unfold run? at h
  split at h
  · cases h
  · next hne =>
    cases h
    exact ⟨hne, rfl, rfl⟩

/-- A run of digits that is taken from a text with short runs can be read, and what
follows has short runs as well. -/
theorem RunsWithin.takeDigits? {text digits rest : List Char} (h : RunsWithin maxDigits text)
    (ht : takeDigits? text = some (digits, rest)) :
    (∃ n, toNat? digits = some n) ∧ RunsWithin maxDigits rest := by
  obtain ⟨hne, hdigits, hrest⟩ := run?_eq_some ht
  have hall : ∀ c ∈ digits, isDecimal c = true := by
    rw [hdigits]
    exact List.all_eq_true.mp List.all_takeWhile
  have hinside : digits <:+: text := by
    rw [hdigits]
    exact (List.takeWhile_prefix isDecimal).isInfix
  refine ⟨exists_toNat? hne hall (h digits hinside hall), h.of_isInfix ?_⟩
  rw [hrest]
  exact (List.dropWhile_suffix isDecimal).isInfix

/-- A digit from one to nine has the value of its place, which is not zero. -/
theorem digitValue?_of_count {c : Char} (h : '1' ≤ c ∧ c ≤ '9') :
    ∃ value, digitValue? c = some value ∧ 0 < value := by
  have hplace : 49 ≤ c.toNat ∧ c.toNat ≤ 57 := h
  have hdigit : c.isDigit = true := by
    simp only [Char.isDigit, Bool.and_eq_true, decide_eq_true_eq, ge_iff_le, UInt32.le_iff_toNat_le]
    exact ⟨Nat.le_trans (by decide) hplace.1, hplace.2⟩
  exact ⟨_, digitValue?_of_isDigit hdigit, by omega⟩

/-- A count starts the text with a digit from one to nine, and goes on with digits. -/
theorem takeCount?_eq_some {text digits rest : List Char} (h : takeCount? text = some (digits, rest)) :
    ∃ c more, digits = c :: more ∧ ('1' ≤ c ∧ c ≤ '9') ∧ (∀ d ∈ more, isDecimal d = true) ∧
      text = digits ++ rest := by
  cases text with
  | nil => cases h
  | cons c text =>
    rw [takeCount?] at h
    split at h
    · next hc =>
      cases h
      exact ⟨c, _, rfl, hc, List.all_eq_true.mp List.all_takeWhile,
        congrArg (c :: ·) List.takeWhile_append_dropWhile.symm⟩
    · cases h

/-- A digit from one to nine and the digits behind it are taken as a count. -/
theorem takeCount?_append {c d : Char} {digits rest : List Char} (hc : '1' ≤ c ∧ c ≤ '9')
    (hd : ∀ e ∈ digits, isDecimal e = true) (he : isDecimal d = false) :
    takeCount? (c :: (digits ++ d :: rest)) = some (c :: digits, d :: rest) := by
  have hstop : ¬isDecimal d = true := Bool.eq_false_iff.mp he
  rw [takeCount?, if_pos hc, List.takeWhile_append_of_pos hd, List.dropWhile_append_of_pos hd,
    List.takeWhile_cons_of_neg hstop, List.dropWhile_cons_of_neg hstop, List.append_nil]

/-- The digits of a count have values, the first of which is not zero. -/
theorem exists_values_of_takeCount? {text digits rest : List Char}
    (h : takeCount? text = some (digits, rest)) :
    ∃ value values, digits.mapM digitValue? = some (value :: values) ∧ 0 < value := by
  obtain ⟨c, more, rfl, hc, hmore, -⟩ := takeCount?_eq_some h
  obtain ⟨value, hvalue, hpos⟩ := digitValue?_of_count hc
  obtain ⟨values, hvalues, -⟩ := exists_mapM_digitValue? hmore
  refine ⟨value, values, ?_, hpos⟩
  rw [List.mapM_cons, hvalue, hvalues]
  rfl

/-- Digits with values, too many of them, write a number that is not read. -/
theorem toNat?_eq_none_of_mapM {digits : List Char} {values : List Nat}
    (h : digits.mapM digitValue? = some values) (hl : maxDigits < values.length) :
    toNat? digits = none := by
  unfold toNat?
  rw [h]
  simp only [Option.bind_eq_bind, Option.bind_some, decide_eq_true hl, Bool.or_true, if_pos]

/-! ## What readers of runs take -/

variable {admits : Char → Bool} {text rest : List Char}

/-- No admitted character stands at the head of the text. -/
def Stops (admits : Char → Bool) (text : List Char) : Prop := ∀ c ∈ text.head?, admits c = false

/-- A text that starts with another character stops a run. -/
theorem stops_cons {c : Char} (h : admits c = false) (text : List Char) : Stops admits (c :: text) := by
  intro d hd
  cases hd
  exact h

/-- A text that is not empty stops a run in front of another one as it does alone. -/
theorem stops_append_iff {front back : List Char} (h : front ≠ []) :
    Stops admits (front ++ back) ↔ Stops admits front := by
  obtain ⟨c, rest, rfl⟩ := List.exists_cons_of_ne_nil h
  exact Iff.rfl

/-- What is left behind a run stops it. -/
theorem stops_dropWhile (admits : Char → Bool) (text : List Char) : Stops admits (text.dropWhile admits) := by
  intro c hc
  have hhead := List.head?_dropWhile_not admits text
  rw [Option.mem_def.mp hc] at hhead
  exact hhead

/-- A text is a run and what stops it in one way. -/
theorem span_append {run : List Char} (hr : ∀ c ∈ run, admits c = true) (hs : Stops admits rest) :
    (run ++ rest).takeWhile admits = run ∧ (run ++ rest).dropWhile admits = rest := by
  rw [List.takeWhile_append_of_pos hr, List.dropWhile_append_of_pos hr]
  cases rest with
  | nil => exact ⟨List.append_nil run, rfl⟩
  | cons c rest =>
    have hc : ¬admits c = true := by
      rw [hs c rfl]
      exact Bool.false_ne_true
    rw [List.takeWhile_cons_of_neg hc, List.dropWhile_cons_of_neg hc, List.append_nil]
    exact ⟨rfl, rfl⟩

/-- A run is taken where admitted characters stand, one at least, and another behind them. -/
theorem run?_eq_some_iff {taken : List Char} :
    run? admits text = some (taken, rest) ↔
      taken ≠ [] ∧ (∀ c ∈ taken, admits c = true) ∧ Stops admits rest ∧ text = taken ++ rest := by
  constructor
  · intro h
    obtain ⟨hne, rfl, rfl⟩ := run?_eq_some h
    exact ⟨hne, List.all_eq_true.mp List.all_takeWhile, stops_dropWhile admits text,
      List.takeWhile_append_dropWhile.symm⟩
  · rintro ⟨hne, hr, hs, rfl⟩
    obtain ⟨htake, hdrop⟩ := span_append hr hs
    unfold run?
    rw [htake, hdrop]
    split
    · exact absurd rfl hne
    · rfl

/-- Blanks are taken where blanks stand, one at least, and another character behind them. -/
theorem takeBlanks?_eq_some_iff :
    takeBlanks? text = some rest ↔
      Stops isBlank rest ∧ ∃ blanks, blanks ≠ [] ∧ allBlank blanks = true ∧ text = blanks ++ rest := by
  unfold takeBlanks?
  constructor
  · intro h
    obtain ⟨⟨blanks, back⟩, hr, rfl⟩ := Option.map_eq_some_iff.mp h
    obtain ⟨hne, hb, hs, htext⟩ := run?_eq_some_iff.mp hr
    exact ⟨hs, blanks, hne, List.all_eq_true.mpr hb, htext⟩
  · rintro ⟨hs, blanks, hne, hb, htext⟩
    have hr : run? isBlank text = some (blanks, rest) :=
      run?_eq_some_iff.mpr ⟨hne, List.all_eq_true.mp hb, hs, htext⟩
    rw [hr]
    rfl

/-- Behind the blanks at the start of a text stands what another character starts. -/
theorem trimStart_eq_iff :
    trimStart text = rest ↔ Stops isBlank rest ∧ ∃ blanks, allBlank blanks = true ∧ text = blanks ++ rest := by
  unfold trimStart
  constructor
  · rintro rfl
    exact ⟨stops_dropWhile isBlank text, text.takeWhile isBlank, List.all_takeWhile,
      List.takeWhile_append_dropWhile.symm⟩
  · rintro ⟨hs, blanks, hb, rfl⟩
    exact (span_append (List.all_eq_true.mp hb) hs).2

/-- A start that begins with another character is not there. -/
theorem after?_cons_of_ne {first c : Char} (h : first ≠ c) (start text : List Char) :
    after? (first :: start) (c :: text) = none := by
  rw [after?, if_neg h]

/-- No code point of a blank is one of a letter beyond the ASCII range. -/
theorem blankRanges_apart_letterRanges :
    ∀ blank ∈ blankRanges, ∀ letter ∈ letterRanges, blank.2 < letter.1 ∨ letter.2 < blank.1 := by
  decide +kernel

/-- A word character is no blank. -/
theorem isBlank_of_isWord {c : Char} (h : isWord c = true) : isBlank c = false := by
  rw [Bool.eq_false_iff]
  intro hb
  obtain ⟨blank, hblank, hlow, hhigh⟩ := Ranges.has_iff.mp hb
  simp only [isWord, Bool.or_eq_true, Bool.and_eq_true, decide_eq_true_eq] at h
  rcases h with (h | rfl) | ⟨-, h⟩
  · have hascii : ∀ range ∈ blankRanges, range.2 < 48 ∨ 122 < range.1 := by decide
    have hrange := hascii blank hblank
    change ((decide (c.val ≥ 65 ∧ c.val ≤ 90) || decide (c.val ≥ 97) && decide (c.val ≤ 122)) ||
      decide (c.val ≥ 48) && decide (c.val ≤ 57)) = true at h
    simp only [Bool.or_eq_true, Bool.and_eq_true, decide_eq_true_eq, ge_iff_le, UInt32.le_iff_toNat_le] at h
    change ((65 ≤ c.toNat ∧ c.toNat ≤ 90) ∨ (97 ≤ c.toNat ∧ c.toNat ≤ 122)) ∨
      (48 ≤ c.toNat ∧ c.toNat ≤ 57) at h
    omega
  · revert hb
    decide
  · obtain ⟨letter, hletter, hfrom, hto⟩ := Ranges.has_iff.mp h
    have hapart := blankRanges_apart_letterRanges blank hblank letter hletter
    omega

/-- A letter or digit of a name is a word character. -/
theorem isWord_of_isAlphanum {c : Char} (h : c.isAlphanum = true) : isWord c = true := by
  unfold isWord
  rw [h]
  rfl

/-- Blanks and what no word starts with end a word. -/
theorem stops_blanks_append {blanks : List Char} (hw : ∀ c, admits c = true → isBlank c = false)
    (hb : allBlank blanks = true) (hs : Stops admits rest) : Stops admits (blanks ++ rest) := by
  cases blanks with
  | nil => exact hs
  | cons c blanks =>
    refine stops_cons (Bool.eq_false_iff.mpr fun hc => ?_) _
    have hblank := List.all_eq_true.mp hb c List.mem_cons_self
    rw [hw c hc] at hblank
    cases hblank

/-- Blanks, one at least. -/
def IsGap (gap : List Char) : Prop := gap ≠ [] ∧ allBlank gap = true

/-- Blanks are taken where they stand before another character. -/
theorem takeBlanks?_gap {gap : List Char} (hg : IsGap gap) (hs : Stops isBlank rest) :
    takeBlanks? (gap ++ rest) = some rest :=
  takeBlanks?_eq_some_iff.mpr ⟨hs, gap, hg.1, hg.2, rfl⟩

/-- Blanks hold no other character. -/
theorem not_mem_of_allBlank {c : Char} {blanks : List Char} (h : allBlank blanks = true) (hc : isBlank c = false) :
    c ∉ blanks := by
  intro hm
  have hblank := List.all_eq_true.mp h c hm
  rw [hc] at hblank
  cases hblank

/-- An optional word stands before what is left behind it, or nothing does. -/
theorem exists_optional (start text : List Char) :
    ∃ optional, (optional = [] ∨ optional = start) ∧ text = optional ++ afterOptional start text := by
  unfold afterOptional
  cases hs : after? start text with
  | none => exact ⟨[], .inl rfl, rfl⟩
  | some behind => exact ⟨start, .inr rfl, after?_eq_some.mp hs⟩

/-- An optional word is read up to a text that begins with another character. -/
theorem afterOptional_append {first c : Char} {start optional : List Char}
    (ho : optional = [] ∨ optional = first :: start) (h : first ≠ c) (text : List Char) :
    afterOptional (first :: start) (optional ++ c :: text) = c :: text := by
  unfold afterOptional
  rcases ho with rfl | rfl
  · rw [List.nil_append, after?_cons_of_ne h]
    rfl
  · rw [after?_eq_some.mpr rfl]
    rfl

/-- A text of word characters, one at least. -/
def IsWordText (word : List Char) : Prop := word ≠ [] ∧ ∀ c ∈ word, isWord c = true

/-- A word ends where no word character follows. -/
theorem wordEnds_iff : wordEnds text = true ↔ Stops isWord text := by
  cases text with
  | nil => simp [wordEnds, Stops]
  | cons c text => simp [wordEnds, Stops]

/-- Word characters are no blanks. -/
theorem IsWordText.stops {word : List Char} (h : IsWordText word) (text : List Char) :
    Stops isBlank (word ++ text) := by
  obtain ⟨c, letters, rfl⟩ := List.exists_cons_of_ne_nil h.1
  exact stops_cons (isBlank_of_isWord (h.2 c List.mem_cons_self)) _

/-- A gap ends a word. -/
theorem IsGap.stops {gap : List Char} (h : IsGap gap) (text : List Char) : Stops isWord (gap ++ text) := by
  obtain ⟨c, blanks, rfl⟩ := List.exists_cons_of_ne_nil h.1
  refine stops_cons (Bool.eq_false_iff.mpr fun hc => ?_) _
  have hblank := List.all_eq_true.mp h.2 c List.mem_cons_self
  rw [isBlank_of_isWord hc] at hblank
  cases hblank

end Checkup.Text
