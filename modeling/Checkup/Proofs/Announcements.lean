import Checkup.Dialect
import Checkup.Proofs.Outcomes
import Checkup.Proofs.TextSpans
import Checkup.Proofs.TextPassages

/-!
# Announced findings

Output without a known structure gives the issues of its lines. If they give none, the
findings that it announces are counted and become one issue that says their number.
Here is what becomes of such output in each case: the one issue is given whenever
anything is announced, unless the number is too long to be written.
-/

namespace Checkup

namespace Text

/-- Announcements that name a number start it with a digit other than zero. -/
def IsCounting (recognise : Recogniser (Option (List Char))) : Prop :=
  ∀ before text digits, recognise before text = some (some digits) →
    ∃ start rest, takeCount? start = some (digits, rest)

/-- Counts before one of some words count. -/
theorem isCounting_countedCaseless (words : List String) : IsCounting (countedCaseless words) := by
  intro before text digits h
  unfold countedCaseless at h
  dsimp only at h
  split at h
  · obtain ⟨⟨taken, rest⟩, htaken, h⟩ := Option.bind_eq_some_iff.mp h
    obtain ⟨_, -, h⟩ := Option.bind_eq_some_iff.mp h
    obtain ⟨_, -, h⟩ := Option.bind_eq_some_iff.mp h
    split at h
    · cases h
      exact ⟨text, rest, htaken⟩
    · cases h
  · cases h

/-- Counts before a word count. -/
theorem isCounting_countedWord (gap : List Char → Option (List Char)) (word : String) :
    IsCounting (countedWord gap word) := by
  intro before text digits h
  unfold countedWord at h
  dsimp only at h
  split at h
  · obtain ⟨⟨taken, rest⟩, htaken, h⟩ := Option.bind_eq_some_iff.mp h
    obtain ⟨_, -, h⟩ := Option.bind_eq_some_iff.mp h
    obtain ⟨_, -, h⟩ := Option.bind_eq_some_iff.mp h
    split at h
    · cases h
      exact ⟨text, rest, htaken⟩
    · cases h
  · cases h

/-- Counts behind the word `Found` count. -/
theorem isCounting_foundCount (words : String) : IsCounting (foundCount words) := by
  intro before text digits h
  unfold foundCount at h
  obtain ⟨start, -, h⟩ := Option.bind_eq_some_iff.mp h
  obtain ⟨⟨taken, rest⟩, htaken, h⟩ := Option.bind_eq_some_iff.mp h
  obtain ⟨_, -, h⟩ := Option.bind_eq_some_iff.mp h
  cases h
  exact ⟨start, rest, htaken⟩

/-- The same in either case. -/
theorem isCounting_foundCountCaseless (words : String) : IsCounting (foundCountCaseless words) := by
  intro before text digits h
  unfold foundCountCaseless at h
  obtain ⟨start, -, h⟩ := Option.bind_eq_some_iff.mp h
  obtain ⟨⟨taken, rest⟩, htaken, h⟩ := Option.bind_eq_some_iff.mp h
  obtain ⟨_, -, h⟩ := Option.bind_eq_some_iff.mp h
  cases h
  exact ⟨start, rest, htaken⟩

/-- Announcements without numbers name none. -/
theorem isCounting_of_forall {recognise : Recogniser (Option (List Char))}
    (h : ∀ before text digits, recognise before text ≠ some (some digits)) : IsCounting recognise :=
  fun before text digits hd => absurd hd (h before text digits)

/-- A whole word names no number. -/
theorem wholeWordCaseless_ne_some (word : String) (before : Option Char) (text digits : List Char) :
    wholeWordCaseless word before text ≠ some (some digits) := by
  intro h
  unfold wholeWordCaseless at h
  dsimp only at h
  split at h
  · obtain ⟨rest, -, h⟩ := Option.bind_eq_some_iff.mp h
    split at h
    · cases h
    · cases h
  · cases h

end Text

/-- The first number that is too long to be written. -/
def unwritable : Nat := Nat.pow 10 writableDigits

/-- A number with more than the digits that can be written. -/
theorem unwritable_le {digits : Nat} (h : writableDigits ≤ digits) : unwritable ≤ 10 ^ digits := by
  have hmono : ∀ {few many : Nat}, few ≤ many → Nat.pow 10 few ≤ 10 ^ many :=
    fun hle => Nat.pow_le_pow_right (by decide) hle
  unfold unwritable
  exact hmono h

/-- The first number that is too long to be written is not zero. -/
theorem unwritable_pos : 0 < unwritable := by
  have hpos : ∀ digits, 0 < Nat.pow 10 digits := fun digits => Nat.pow_pos (by decide)
  unfold unwritable
  exact hpos writableDigits

/-- A number of one digit can be written. -/
theorem lt_unwritable {n : Nat} (h : n < 10) : n < unwritable := by
  have hmono : ∀ {many : Nat}, 1 ≤ many → 10 ^ 1 ≤ Nat.pow 10 many :=
    fun hle => Nat.pow_le_pow_right (by decide) hle
  unfold unwritable
  exact Nat.lt_of_lt_of_le h (hmono (by decide))

/-- Natural numbers below that one can be written. -/
theorem isWritable_iff {n : Nat} : isWritable (n : Int) = true ↔ n < unwritable := by
  unfold unwritable
  exact isWritable_natCast

namespace Dialect

variable {Payload : Type} (dialect : Dialect Payload)

/-- The number of findings that an announcement stands for, however many digits it has. -/
def worth : Option (List Char) → Nat
  | none => 1
  | some digits => Text.decimalValue ((digits.mapM Text.digitValue?).getD [])

/-- The announcements of a text. -/
def announcements (text : String) : List (Option (List Char)) :=
  Text.sightings dialect.announcement none text.toList

/-- The number of findings that a text announces altogether. -/
def total (text : String) : Nat := ((dialect.announcements text).map worth).sum

/-- The issue about so many findings that are announced. -/
def unreadIssue (count : Nat) : Issue where
  severity := dialect.unreadSeverity
  message := .text (dialect.unreadMessage count)
  rule := .text (dialect.ruleStem ++ "/unparsed")

/-- Output without a known structure has no finding in any of its lines. -/
def FindsNothing (stdout stderr : String) : Prop :=
  dialect.read stdout stderr = .ok .empty ∨
    ∃ text, dialect.read stdout stderr = .ok (.text text) ∧ dialect.ofText text = .ok []

/-- Output whose lines give nothing announces more findings than a number that can be
written. -/
def Overflows (stdout stderr : String) : Prop :=
  dialect.FindsNothing stdout stderr ∧ unwritable ≤ dialect.total (dialect.scanned stdout stderr)

variable {dialect} {stdout stderr text : String}

/-! ## The sum of the numbers -/

/-- A number is worth what its digits write. -/
theorem worth_of_mapM {digits : List Char} {values : List Nat}
    (h : digits.mapM Text.digitValue? = some values) : worth (some digits) = Text.decimalValue values := by
  unfold worth
  dsimp only
  rw [h]
  rfl

/-- An announcement stands for a finding at least, and it is read unless its number is too
long to be written. -/
theorem announced_cases (hc : Text.IsCounting dialect.announcement) {found : Option (List Char)}
    (hf : found ∈ dialect.announcements text) :
    0 < worth found ∧ (announced found = .ok (worth found) ∨
      unwritable ≤ worth found ∧ ∃ count, announced found = .error (.tooManyDigits count)) := by
  cases found with
  | none => exact ⟨Nat.one_pos, .inl rfl⟩
  | some digits =>
    obtain ⟨before, rest, -, hfound⟩ := Text.exists_of_mem_sightings hf
    obtain ⟨start, further, hcount⟩ := hc before rest digits hfound
    obtain ⟨value, values, hvalues, hpos⟩ := Text.exists_values_of_takeCount? hcount
    have hlarge := Text.pow_le_decimalValue hpos values
    rw [worth_of_mapM hvalues]
    refine ⟨Nat.lt_of_lt_of_le (Nat.pow_pos (by decide)) hlarge, ?_⟩
    unfold announced
    dsimp only
    by_cases hl : (value :: values).length ≤ Text.maxDigits
    · rw [Text.toNat?_of_mapM hvalues (List.cons_ne_nil _ _) hl]
      exact .inl rfl
    · have hmany : Text.maxDigits < (value :: values).length := Nat.not_le.mp hl
      rw [Text.toNat?_eq_none_of_mapM hvalues hmany]
      exact .inr ⟨Nat.le_trans (unwritable_le (Nat.le_of_lt_succ hmany)) hlarge, _, rfl⟩

/-- Numbers that are each read or too long are read one by one, or too long together. -/
theorem mapM_announced_cases {found : List (Option (List Char))}
    (h : ∀ each ∈ found, announced each = .ok (worth each) ∨
      unwritable ≤ worth each ∧ ∃ count, announced each = .error (.tooManyDigits count)) :
    found.mapM announced = .ok (found.map worth) ∨
      unwritable ≤ (found.map worth).sum ∧ ∃ count, found.mapM announced = .error (.tooManyDigits count) := by
  induction found with
  | nil => exact .inl rfl
  | cons first found ih =>
    rw [List.mapM_cons, List.map_cons, List.sum_cons]
    rcases h first List.mem_cons_self with hfirst | ⟨hlarge, count, hfirst⟩
    · rw [hfirst]
      rcases ih fun each he => h each (List.mem_cons_of_mem first he) with hfound | ⟨hlarge, count, hfound⟩
      · rw [hfound]
        exact .inl rfl
      · rw [hfound]
        exact .inr ⟨Nat.le_trans hlarge (Nat.le_add_left _ _), count, rfl⟩
    · rw [hfirst]
      exact .inr ⟨Nat.le_trans hlarge (Nat.le_add_right _ _), count, rfl⟩

/-- The announcements of a text are read as their sum, unless it is too long to be written. -/
theorem announcedIn_cases (hc : Text.IsCounting dialect.announcement) (text : String) :
    dialect.announcedIn text = .ok (dialect.total text) ∨
      unwritable ≤ dialect.total text ∧ ∃ count, dialect.announcedIn text = .error (.tooManyDigits count) := by
  unfold announcedIn
  have heach : ∀ found ∈ dialect.announcements text, announced found = .ok (worth found) ∨
      unwritable ≤ worth found ∧ ∃ count, announced found = .error (.tooManyDigits count) :=
    fun found hf => (announced_cases hc hf).2
  rcases mapM_announced_cases heach with
    hread | ⟨hlarge, count, hread⟩
  · refine .inl (bind_eq_ok_iff.mpr ⟨_, hread, ?_⟩)
    rw [total, List.sum_eq_foldl_nat]
  · refine .inr ⟨hlarge, count, ?_⟩
    change ((dialect.announcements text).mapM announced >>= fun counts => .ok (counts.foldl (· + ·) 0)) = _
    rw [hread]
    rfl

/-- Nothing is announced exactly if the sum is zero. -/
theorem total_eq_zero_iff (hc : Text.IsCounting dialect.announcement) :
    dialect.total text = 0 ↔ dialect.announcements text = [] := by
  constructor
  · intro h
    rw [total, List.sum_eq_zero_iff_forall_eq_nat] at h
    refine List.eq_nil_iff_forall_not_mem.mpr fun found hf => ?_
    exact Nat.ne_of_gt (announced_cases hc hf).1 (h _ (List.mem_map_of_mem hf))
  · intro h
    rw [total, h]
    rfl

/-- Announcements that name no numbers stand for one character each at least. -/
theorem total_le_length (hn : ∀ before text digits, dialect.announcement before text ≠ some (some digits))
    (text : String) : dialect.total text ≤ text.toList.length := by
  have hone : ∀ before rest, ((dialect.announcement before rest).toList.map worth).sum ≤ 1 := by
    intro before rest
    cases hseen : dialect.announcement before rest with
    | none => exact Nat.zero_le 1
    | some found =>
      cases found with
      | none => exact Nat.le_refl 1
      | some digits => exact absurd hseen (hn before rest digits)
  have hsum : ∀ rest before,
      ((Text.sightings dialect.announcement before rest).map worth).sum ≤ rest.length := by
    intro rest
    induction rest with
    | nil => exact fun _ => Nat.le_refl 0
    | cons c rest ih =>
      intro before
      rw [Text.sightings, List.map_append, List.sum_append_nat, List.length_cons, Nat.add_comm]
      exact Nat.add_le_add (ih (some c)) (hone before (c :: rest))
  exact hsum text.toList none

/-! ## The issue about unread findings -/

/-- What is said about findings that are announced is nothing, or one issue. -/
theorem unread_gives_of {holds : List Issue → Prop} (hnone : holds [])
    (hone : ∀ count, holds [dialect.unreadIssue count]) (text : String) : Gives (dialect.unread text) holds := by
  refine .bind fun count => ?_
  split
  · exact .ok hnone
  · split
    · exact .ok (hone count)
    · exact .error _

/-- Nothing announced is no issue. -/
theorem unread_of_nil (h : dialect.announcements text = []) : dialect.unread text = .ok [] := by
  have hcount : dialect.announcedIn text = .ok 0 := by
    unfold announcedIn
    rw [show Text.sightings dialect.announcement none text.toList = [] from h]
    rfl
  exact bind_eq_ok_iff.mpr ⟨0, hcount, rfl⟩

/-- Announced findings are one issue that says their number, if it can be written. -/
theorem unread_of_ne_nil (hc : Text.IsCounting dialect.announcement)
    (h : dialect.announcements text ≠ []) (hw : dialect.total text < unwritable) :
    dialect.unread text = .ok [dialect.unreadIssue (dialect.total text)] := by
  rcases announcedIn_cases hc text with hread | ⟨hlarge, -⟩
  · refine bind_eq_ok_iff.mpr ⟨_, hread, ?_⟩
    have hwritable : isWritable (dialect.total text) = true := isWritable_iff.mpr hw
    rw [if_neg fun hz => h ((total_eq_zero_iff hc).mp hz), if_pos hwritable]
    rfl
  · exact absurd hw (Nat.not_lt.mpr hlarge)

/-- A number of announced findings that cannot be written is a fault. -/
theorem unread_of_unwritable (hc : Text.IsCounting dialect.announcement)
    (hw : unwritable ≤ dialect.total text) :
    ∃ fault, dialect.unread text = .error fault ∧ fault.kind = "ValueError" := by
  unfold unread
  rcases announcedIn_cases hc text with hread | ⟨-, count, hread⟩
  · have hpos : dialect.total text ≠ 0 := Nat.ne_of_gt (Nat.lt_of_lt_of_le unwritable_pos hw)
    have hlong : ¬isWritable (dialect.total text) = true := fun hi => Nat.not_lt.mpr hw (isWritable_iff.mp hi)
    refine ⟨.tooLongNumber, ?_, rfl⟩
    rw [hread]
    change (if dialect.total text = 0 then _ else _) = _
    rw [if_neg hpos, if_neg hlong]
  · refine ⟨.tooManyDigits count, ?_, rfl⟩
    rw [hread]
    rfl

/-- The announcements of a text are a fault exactly if their sum cannot be written. -/
theorem unread_failsBy (hc : Text.IsCounting dialect.announcement) (text : String) :
    FailsBy (dialect.unread text) fun fault =>
      unwritable ≤ dialect.total text ∧ fault.kind = "ValueError" := by
  by_cases hw : dialect.total text < unwritable
  · have hread : Succeeds (dialect.unread text) := by
      by_cases h : dialect.announcements text = []
      · exact ⟨[], unread_of_nil h⟩
      · exact ⟨_, unread_of_ne_nil hc h hw⟩
    exact (FailsBy.of_succeeds hread).congr fun fault =>
      ⟨False.elim, fun h => Nat.not_lt.mpr h.1 hw⟩
  · obtain ⟨fault, hfault, hkind⟩ := unread_of_unwritable hc (Nat.not_lt.mp hw)
    constructor
    · intro found hf
      rw [hfault] at hf
      cases hf
      exact ⟨Nat.not_lt.mp hw, hkind⟩
    · exact fun _ _ => ⟨fault, hfault⟩

/-! ## Output without a known structure -/

/-- Text gives the issues of its lines, or else what it announces. -/
theorem issues_of_text (hr : dialect.read stdout stderr = .ok (.text text)) :
    dialect.issues stdout stderr = (dialect.ofText text >>= fun found =>
      if found.isEmpty then dialect.unread (dialect.scanned stdout stderr) else .ok found) := by
  unfold issues
  rw [hr]
  rfl

/-- Where the lines give nothing, the announcements are counted. -/
theorem FindsNothing.issues_eq (h : dialect.FindsNothing stdout stderr) :
    dialect.issues stdout stderr = dialect.unread (dialect.scanned stdout stderr) := by
  rcases h with h | ⟨text, h, hf⟩
  · unfold issues
    rw [h]
    rfl
  · rw [issues_of_text h, hf]
    rfl

/-- Where the lines give issues, these are the issues. -/
theorem issues_of_ofText {found : List Issue} (hr : dialect.read stdout stderr = .ok (.text text))
    (hf : dialect.ofText text = .ok found) (hne : found ≠ []) :
    dialect.issues stdout stderr = .ok found := by
  have hfull : ¬found.isEmpty = true := fun he => hne (List.isEmpty_iff.mp he)
  rw [issues_of_text hr, hf]
  exact if_neg hfull

/-- Where the lines cannot be scanned, there are no issues. -/
theorem issues_of_ofText_error {fault : Fault} (hr : dialect.read stdout stderr = .ok (.text text))
    (hf : dialect.ofText text = .error fault) : dialect.issues stdout stderr = .error fault := by
  rw [issues_of_text hr, hf]
  rfl

/-- Lines that give nothing are told from other output. -/
theorem FindsNothing.of_text (h : dialect.FindsNothing stdout stderr)
    (hr : dialect.read stdout stderr = .ok (.text text)) : dialect.ofText text = .ok [] := by
  rcases h with h | ⟨found, h, hf⟩
  · rw [hr] at h
    cases h
  · rw [hr] at h
    cases h
    exact hf

/-- Output of a known structure does not count as output without findings. -/
theorem not_findsNothing {schema : String} {payload : Payload}
    (hr : dialect.read stdout stderr = .ok (.structured schema payload)) :
    ¬dialect.FindsNothing stdout stderr := by
  rintro (h | ⟨text, h, -⟩) <;>
  · rw [hr] at h
    cases h

/-- Output without findings in its lines fails exactly if it announces too many. -/
theorem FindsNothing.issues_failsBy (hc : Text.IsCounting dialect.announcement)
    (h : dialect.FindsNothing stdout stderr) :
    FailsBy (dialect.issues stdout stderr) fun fault =>
      dialect.Overflows stdout stderr ∧ fault.kind = "ValueError" := by
  rw [h.issues_eq]
  exact (unread_failsBy hc _).congr fun fault => and_congr_left fun _ => ⟨fun hw => ⟨h, hw⟩, And.right⟩

/-- Where all texts can be read, output fails exactly for the causes of its structure, or
if it has none and announces too many findings. -/
theorem issues_failsBy (causes : String → Payload → Fault → Prop) {reading : Reading Payload}
    (hc : Text.IsCounting dialect.announcement) (hr : dialect.read stdout stderr = .ok reading)
    (hs : ∀ schema payload, reading = .structured schema payload →
      FailsBy (dialect.ofStructured schema payload) (causes schema payload))
    (ht : ∀ text, reading = .text text → Succeeds (dialect.ofText text)) :
    FailsBy (dialect.issues stdout stderr) fun fault =>
      (∃ schema payload, dialect.read stdout stderr = .ok (.structured schema payload) ∧
        causes schema payload fault) ∨
      (dialect.Overflows stdout stderr ∧ fault.kind = "ValueError") := by
  cases reading with
  | structured schema payload =>
    have hissues : dialect.issues stdout stderr = dialect.ofStructured schema payload := by
      unfold issues
      rw [hr]
      rfl
    rw [hissues]
    refine (hs schema payload rfl).congr fun fault => ⟨fun h => .inl ⟨schema, payload, hr, h⟩, ?_⟩
    rintro (⟨schema', payload', hr', h⟩ | ⟨h, -⟩)
    · rw [hr] at hr'
      cases hr'
      exact h
    · exact absurd h.1 (not_findsNothing hr)
  | text text =>
    obtain ⟨found, hfound⟩ := ht text rfl
    have hplain : ∀ fault, ¬∃ schema payload, dialect.read stdout stderr = .ok (.structured schema payload) ∧
        causes schema payload fault := by
      rintro fault ⟨schema, payload, hr', -⟩
      rw [hr] at hr'
      cases hr'
    by_cases hne : found = []
    · subst hne
      exact (FindsNothing.issues_failsBy hc (.inr ⟨text, hr, hfound⟩)).congr fun fault =>
        (or_iff_right (hplain fault)).symm
    · refine (FailsBy.of_succeeds ⟨found, issues_of_ofText hr hfound hne⟩).congr fun fault => ?_
      refine ⟨False.elim, fun h => ?_⟩
      rcases h with h | ⟨h, -⟩
      · exact hplain fault h
      · have hnone := h.1.of_text hr
        rw [hfound] at hnone
        cases hnone
        exact hne rfl
  | empty =>
    refine (FindsNothing.issues_failsBy hc (.inl hr)).congr fun fault => (or_iff_right ?_).symm
    rintro ⟨schema, payload, hr', -⟩
    rw [hr] at hr'
    cases hr'

end Dialect

end Checkup
