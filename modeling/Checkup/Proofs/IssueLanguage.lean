import Checkup.Proofs.Outcomes
import Checkup.Proofs.TextSpans
import Checkup.Proofs.IssueLines

/-!
# The language of issue lines

Which texts are read as issues, said without the reader: they have their three bars, a
letter of a severity before the first one, and behind the last colon of the location
no digits that write no number. Of these texts exactly those are written again as they
were whose line number, if they have one, is written as numbers are: in ASCII, above
zero and without zeros before it.
-/

namespace Checkup.Issue

open Checkup.Text

/-! ## Texts that are issue lines -/

/-- What stands before the first bar. -/
def letterField (text : List Char) : List Char := text.takeWhile (· ≠ '|')

/-- What stands between the first bar and the second. -/
def locationField (text : List Char) : List Char :=
  ((text.dropWhile (· ≠ '|')).drop 1).takeWhile (· ≠ '|')

/-- The text behind the last colon of a location, if it is made of digits. -/
def IsLineSuffix (numeral location : List Char) : Prop :=
  ∃ front, location = front ++ ':' :: numeral ∧ ':' ∉ numeral ∧ isNumeral numeral = true

/-- A text with the form of an issue line. -/
structure IsLine (text : List Char) : Prop where
  bars : 3 ≤ text.count '|'
  letter : letterField text ∈ [['E'], ['W'], ['I']]
  suffix : ∀ numeral, IsLineSuffix numeral (locationField text) → ∀ c ∈ numeral, isDecimal c = true

/-- A number as it is written: in ASCII, above zero, and without zeros before it. -/
def IsWrittenNumber (numeral : List Char) : Prop := ∃ n, 0 < n ∧ numeral = Nat.toDigits 10 n

/-! ## Fields -/

/-- A field without bars ends at the next bar. -/
theorem takeWhile_append_bar {field : List Char} (h : '|' ∉ field) (rest : List Char) :
    (field ++ '|' :: rest).takeWhile (· ≠ '|') = field ∧
      (field ++ '|' :: rest).dropWhile (· ≠ '|') = '|' :: rest := by
  have hpos : ∀ c ∈ field, decide (c ≠ '|') = true := fun c hc =>
    decide_eq_true fun he => h (he ▸ hc)
  constructor
  · rw [List.takeWhile_append_of_pos hpos]
    simp
  · rw [List.dropWhile_append_of_pos hpos]
    simp

/-- The first two fields of a text are those that its bars show. -/
theorem fields_of_fields? {text letter location message rule : List Char}
    (h : fields? text = some (letter, location, message, rule)) :
    letterField text = letter ∧ locationField text = location := by
  obtain ⟨rfl, hletter, hlocation, -⟩ := fields?_eq_some.mp h
  have hfirst := takeWhile_append_bar hletter (location ++ '|' :: (message ++ '|' :: rule))
  have hsecond := takeWhile_append_bar hlocation (message ++ '|' :: rule)
  refine ⟨hfirst.1, ?_⟩
  unfold locationField
  rw [hfirst.2]
  exact hsecond.1

/-- A text with a bar is cut at its first one, and the bars behind it are one fewer. -/
theorem exists_cut_of_count {text : List Char} {n : Nat} (h : n + 1 ≤ text.count '|') :
    ∃ field rest, text = field ++ '|' :: rest ∧ '|' ∉ field ∧ n ≤ rest.count '|' := by
  have hbar : '|' ∈ text := List.count_pos_iff.mp (Nat.lt_of_lt_of_le (Nat.succ_pos n) h)
  obtain ⟨field, rest, rfl, hfield⟩ := List.eq_append_cons_of_mem hbar
  refine ⟨field, rest, rfl, hfield, ?_⟩
  rw [List.count_append, List.count_eq_zero.mpr hfield, List.count_cons_self] at h
  omega

/-- Fields are found exactly in a text with three bars. -/
theorem exists_fields?_iff {text : List Char} :
    (∃ parts, fields? text = some parts) ↔ 3 ≤ text.count '|' := by
  constructor
  · rintro ⟨⟨letter, location, message, rule⟩, h⟩
    obtain ⟨rfl, -⟩ := fields?_eq_some.mp h
    simp only [List.count_append, List.count_cons_self]
    omega
  · intro h
    obtain ⟨letter, rest, rfl, hletter, hrest⟩ := exists_cut_of_count h
    obtain ⟨location, rest, rfl, hlocation, hrest⟩ := exists_cut_of_count hrest
    have hbar : '|' ∈ rest := List.count_pos_iff.mp hrest
    cases hcut : cutLast? '|' rest with
    | none => exact absurd hbar (cutLast?_eq_none.mp hcut)
    | some parts =>
      obtain ⟨message, rule⟩ := parts
      obtain ⟨rfl, hrule⟩ := cutLast?_eq_some.mp hcut
      exact ⟨_, fields?_eq_some.mpr ⟨rfl, hletter, hlocation, hrule⟩⟩

/-! ## Letters -/

/-- A severity is read from its own letter and from nothing else. -/
theorem ofLetter_eq_ok_iff {letter : List Char} {severity : Severity} :
    Severity.ofLetter (String.ofList letter) = .ok severity ↔ letter = [severity.letter] := by
  constructor
  · intro h
    unfold Severity.ofLetter at h
    split at h
    · next found hfound =>
      cases h
      have hmatch := List.find?_some hfound
      simpa using hmatch
    · cases h
  · rintro rfl
    exact ofLetter_letter severity

/-- The letters of severities are these three. -/
theorem exists_letter_iff {letter : List Char} :
    (∃ severity : Severity, letter = [severity.letter]) ↔ letter ∈ [['E'], ['W'], ['I']] := by
  constructor
  · rintro ⟨severity, rfl⟩
    cases severity <;> decide
  · intro h
    simp only [List.mem_cons, List.not_mem_nil, or_false] at h
    rcases h with rfl | rfl | rfl
    · exact ⟨.error, rfl⟩
    · exact ⟨.warning, rfl⟩
    · exact ⟨.info, rfl⟩

/-- Any other text is no letter of a severity. -/
theorem ofLetter_failsBy (letter : List Char) :
    FailsBy (Severity.ofLetter (String.ofList letter)) fun fault =>
      fault.kind = "ValueError" ∧ letter ∉ [['E'], ['W'], ['I']] where
  caused fault h := by
    constructor
    · unfold Severity.ofLetter at h
      split at h
      · cases h
      · cases h
        rfl
    · intro hl
      obtain ⟨severity, hs⟩ := exists_letter_iff.mpr hl
      rw [ofLetter_eq_ok_iff.mpr hs] at h
      cases h
  fails fault h := by
    cases hread : Severity.ofLetter (String.ofList letter) with
    | ok severity => exact absurd (exists_letter_iff.mp ⟨severity, ofLetter_eq_ok_iff.mp hread⟩) h.2
    | error found => exact ⟨found, rfl⟩

/-! ## Line numbers -/

/-- A line number is what its decimal digits write. -/
theorem lineNumber_eq_ok_iff {numeral : List Char} {n : Int} :
    lineNumber numeral = .ok n ↔ ∃ value : Nat, toNat? numeral = some value ∧ n = value := by
  unfold lineNumber
  cases toNat? numeral with
  | some value =>
    constructor
    · intro h
      cases h
      exact ⟨value, rfl, rfl⟩
    · rintro ⟨found, hfound, rfl⟩
      cases hfound
      rfl
  | none =>
    constructor
    · intro h
      dsimp only at h
      split at h <;> cases h
    · rintro ⟨found, hfound, -⟩
      cases hfound

/-- Digits that are not all decimal have no values. -/
theorem mapM_digitValue?_eq_none {numeral : List Char} {c : Char} (hc : c ∈ numeral)
    (h : isDecimal c = false) : numeral.mapM digitValue? = none := by
  have hnone : digitValue? c = none := Option.isSome_eq_false_iff.mp h |> Option.isNone_iff_eq_none.mp
  induction numeral with
  | nil => cases hc
  | cons d numeral ih =>
    rw [List.mapM_cons]
    rcases List.mem_cons.mp hc with rfl | hrest
    · rw [hnone]
      rfl
    · rw [ih hrest]
      cases digitValue? d <;> rfl

/-- Few digits are read as a number exactly if they are all decimal. -/
theorem exists_lineNumber_iff {numeral : List Char} (hnumeral : isNumeral numeral = true)
    (hruns : RunsWithin maxDigits numeral) :
    (∃ n, lineNumber numeral = .ok n) ↔ ∀ c ∈ numeral, isDecimal c = true := by
  have hne : numeral ≠ [] := by
    rintro rfl
    cases hnumeral
  constructor
  · rintro ⟨n, hn⟩ c hc
    obtain ⟨value, hvalue, -⟩ := lineNumber_eq_ok_iff.mp hn
    cases hd : isDecimal c with
    | true => rfl
    | false =>
      unfold toNat? at hvalue
      rw [mapM_digitValue?_eq_none hc hd] at hvalue
      cases hvalue
  · intro hall
    obtain ⟨value, hvalue⟩ := exists_toNat? hne hall (hruns numeral (List.infix_refl _) hall)
    exact ⟨value, lineNumber_eq_ok_iff.mpr ⟨value, hvalue, rfl⟩⟩

/-- Other digits write no line number. -/
theorem lineNumber_failsBy {numeral : List Char} (hnumeral : isNumeral numeral = true)
    (hruns : RunsWithin maxDigits numeral) :
    FailsBy (lineNumber numeral) fun fault =>
      fault.kind = "ValueError" ∧ ¬∀ c ∈ numeral, isDecimal c = true where
  caused fault h := by
    constructor
    · unfold lineNumber at h
      split at h
      · cases h
      · split at h <;> cases h <;> rfl
    · intro hall
      obtain ⟨n, hn⟩ := (exists_lineNumber_iff hnumeral hruns).mpr hall
      rw [hn] at h
      cases h
  fails fault h := by
    cases hread : lineNumber numeral with
    | ok n => exact absurd ((exists_lineNumber_iff hnumeral hruns).mp ⟨n, hread⟩) h.2
    | error found => exact ⟨found, rfl⟩

/-- The number that is read from a written one is that number. -/
theorem eq_of_toNat?_toDigits {n value : Nat} (h : toNat? (Nat.toDigits 10 n) = some value) : value = n := by
  have hvalues := mapM_digitValue? fun c hc => isDigit_of_mem_toDigits (n := n) hc
  by_cases hlong : maxDigits < ((Nat.toDigits 10 n).map fun c => c.toNat - 48).length
  · rw [toNat?_eq_none_of_mapM hvalues hlong] at h
    cases h
  · rw [toNat?_of_mapM hvalues (by simp [Nat.toDigits_ne_nil]) (Nat.not_lt.mp hlong),
      decimalValue_toDigits] at h
    exact (Option.some.inj h).symm

/-! ## Locations -/

/-- A location with a line suffix is cut before it. -/
theorem splitLocation_of_isLineSuffix {numeral location : List Char} (h : IsLineSuffix numeral location) :
    ∃ front, location = front ++ ':' :: numeral ∧ splitLocation location = (front, some numeral) := by
  obtain ⟨front, rfl, hcolon, hnumeral⟩ := h
  exact ⟨front, rfl, splitLocation_append hcolon hnumeral⟩

/-- A location without a line suffix stays whole. -/
theorem splitLocation_of_no_suffix {location : List Char} (h : ∀ numeral, ¬IsLineSuffix numeral location) :
    splitLocation location = (location, none) :=
  splitLocation_of_not fun ⟨front, numeral, hends⟩ => h numeral ⟨front, hends⟩

/-- A location has one line suffix at most. -/
theorem IsLineSuffix.unique {numeral other location : List Char} (h : IsLineSuffix numeral location)
    (ho : IsLineSuffix other location) : other = numeral := by
  obtain ⟨front, -, hcut⟩ := splitLocation_of_isLineSuffix h
  obtain ⟨first, -, hother⟩ := splitLocation_of_isLineSuffix ho
  rw [hcut] at hother
  cases hother
  rfl

/-! ## Reading -/

variable {text : String} {letter location message rule front numeral : List Char}

/-- The issue that is read from its fields. -/
def ofFields (severity : Severity) (file : List Char) (line : Value) (message rule : List Char) : Issue where
  severity
  message := .text (String.ofList message)
  file := .ofText? (nonEmpty? file)
  line
  rule := .ofText? (nonEmpty? rule)

/-- Without a line suffix the whole location is the file. -/
theorem decode_of_no_suffix (h : fields? text.toList = some (letter, location, message, rule))
    (hs : ∀ numeral, ¬IsLineSuffix numeral location) :
    decode text = (Severity.ofLetter (String.ofList letter) >>= fun severity =>
      .ok (ofFields severity location .null message rule)) := by
  unfold decode
  rw [h]
  dsimp only
  rw [splitLocation_of_no_suffix hs]
  rfl

/-- A line suffix is the line, and what stands before its colon is the file. -/
theorem decode_of_suffix (h : fields? text.toList = some (letter, location, message, rule))
    (hs : splitLocation location = (front, some numeral)) :
    decode text = (Severity.ofLetter (String.ofList letter) >>= fun severity =>
      lineNumber numeral >>= fun n => .ok (ofFields severity front (.int n) message rule)) := by
  unfold decode
  rw [h]
  dsimp only
  rw [hs]
  dsimp only
  cases lineNumber numeral <;> rfl

/-- A text without its fields is no issue line. -/
theorem decode_of_no_fields (h : fields? text.toList = none) : decode text = .error .malformedIssue := by
  unfold decode
  rw [h]

/-- With its fields found, a text is an issue line if its letter and its location are
those of one. -/
theorem isLine_iff_of_fields (h : fields? text.toList = some (letter, location, message, rule)) :
    IsLine text.toList ↔ letter ∈ [['E'], ['W'], ['I']] ∧
      ∀ numeral, IsLineSuffix numeral location → ∀ c ∈ numeral, isDecimal c = true := by
  obtain ⟨hletter, hlocation⟩ := fields_of_fields? h
  constructor
  · intro hline
    exact ⟨hletter ▸ hline.letter, hlocation ▸ hline.suffix⟩
  · rintro ⟨hl, hs⟩
    exact ⟨exists_fields?_iff.mp ⟨_, h⟩, hletter ▸ hl, hlocation ▸ hs⟩

/-- A location stands inside the text whose field it is. -/
theorem isInfix_of_fields? (h : fields? text.toList = some (letter, location, message, rule)) :
    location <:+: text.toList := by
  obtain ⟨htext, -⟩ := fields?_eq_some.mp h
  rw [htext]
  exact ⟨letter ++ ['|'], '|' :: (message ++ '|' :: rule), by simp⟩

/-- A text is read unless it is no issue line, and then its fault is one of values. -/
theorem decode_failsBy (h : RunsWithin maxDigits text.toList) :
    FailsBy (decode text) fun fault => fault.kind = "ValueError" ∧ ¬IsLine text.toList := by
  cases hfields : fields? text.toList with
  | none =>
    have hbars : ¬IsLine text.toList := fun hline => by
      obtain ⟨parts, hparts⟩ := exists_fields?_iff.mpr hline.bars
      rw [hfields] at hparts
      cases hparts
    rw [decode_of_no_fields hfields]
    exact ⟨fun fault hf => by cases hf; exact ⟨rfl, hbars⟩, fun _ _ => ⟨_, rfl⟩⟩
  | some parts =>
    obtain ⟨letter, location, message, rule⟩ := parts
    rw [isLine_iff_of_fields hfields]
    by_cases hs : ∃ numeral, IsLineSuffix numeral location
    · obtain ⟨numeral, hsuffix⟩ := hs
      obtain ⟨front, hlocation, hcut⟩ := splitLocation_of_isLineSuffix hsuffix
      obtain ⟨-, -, -, hnumeral⟩ := id hsuffix
      have hinside : numeral <:+: text.toList := by
        refine List.IsInfix.trans ?_ (isInfix_of_fields? hfields)
        exact ⟨front ++ [':'], [], by simp [hlocation]⟩
      have hnumber := lineNumber_failsBy hnumeral (h.of_isInfix hinside)
      rw [decode_of_suffix hfields hcut]
      refine ((ofLetter_failsBy letter).bind fun severity _ =>
        hnumber.bind_succeeds fun n => .ok _).congr fun fault => ?_
      rw [← and_or_left, ← Classical.not_and_iff_not_or_not]
      refine and_congr_right fun _ => not_congr (and_congr_right fun _ => ?_)
      exact ⟨fun hall other ho => hsuffix.unique ho ▸ hall, fun hall => hall numeral hsuffix⟩
    · have hnone : ∀ numeral, ¬IsLineSuffix numeral location := fun numeral hn => hs ⟨numeral, hn⟩
      rw [decode_of_no_suffix hfields hnone]
      refine ((ofLetter_failsBy letter).bind_succeeds fun severity => .ok _).congr fun fault => ?_
      refine and_congr_right fun _ => not_congr ?_
      exact ⟨fun hl => ⟨hl, fun numeral hn => absurd hn (hnone numeral)⟩, fun hl => hl.1⟩

/-! ## Writing again -/

/-- A field that is read as a text is written as it was. -/
theorem toList_ofText?_nonEmpty? (field : List Char) :
    (if (Value.ofText? (nonEmpty? field)).isGiven then (Value.ofText? (nonEmpty? field)).display
      else "").toList = field := by
  cases field with
  | nil => rfl
  | cons c rest =>
    have hgiven : (Value.text (String.ofList (c :: rest))).isGiven = true := by simp [Value.isGiven]
    change (if (Value.text (String.ofList (c :: rest))).isGiven then
      (Value.text (String.ofList (c :: rest))).display else "").toList = c :: rest
    rw [if_pos hgiven]
    exact String.toList_ofList

/-- The line of an issue that was read is its line again if its location is. -/
theorem encode_ofFields_iff (h : fields? text.toList = some (letter, location, message, rule))
    {severity : Severity} (hl : letter = [severity.letter]) (file : List Char) (line : Value) :
    (ofFields severity file line message rule).encode = text ↔
      (ofFields severity file line message rule).encodeLocation.toList = location := by
  obtain ⟨htext, -⟩ := fields?_eq_some.mp h
  have hmessage : (ofFields severity file line message rule).message.display.toList = message :=
    String.toList_ofList
  have hrule : (ofFields severity file line message rule).ruleText.toList = rule :=
    toList_ofText?_nonEmpty? rule
  have hsame : (ofFields severity file line message rule).severity = severity := rfl
  rw [← String.toList_inj, toList_encode, htext, hmessage, hrule, hl, hsame]
  simp only [List.singleton_append, List.cons.injEq, true_and]
  exact List.append_left_inj _

/-- A location without a line suffix is written as it was. -/
theorem encodeLocation_ofFields_null (severity : Severity) (file message rule : List Char) :
    (ofFields severity file .null message rule).encodeLocation.toList = file := by
  rw [encodeLocation_of_null rfl]
  exact toList_ofText?_nonEmpty? file

/-- A location with a line suffix is written as it was exactly if the suffix is a
number as it is written. -/
theorem encodeLocation_ofFields_iff (severity : Severity) (message rule : List Char) {n : Int}
    (hn : lineNumber numeral = .ok n) :
    (ofFields severity front (.int n) message rule).encodeLocation.toList = front ++ ':' :: numeral ↔
      IsWrittenNumber numeral := by
  obtain ⟨value, hvalue, rfl⟩ := lineNumber_eq_ok_iff.mp hn
  have hfile : (ofFields severity front (.int value) message rule).fileText.toList = front :=
    toList_ofText?_nonEmpty? front
  by_cases hpos : 0 < value
  · rw [toList_encodeLocation_of_int rfl hpos, hfile, List.append_cancel_left_eq, List.cons.injEq]
    constructor
    · rintro ⟨-, rfl⟩
      exact ⟨value, hpos, rfl⟩
    · rintro ⟨written, -, rfl⟩
      exact ⟨rfl, by rw [eq_of_toNat?_toDigits hvalue]⟩
  · have hzero : value = 0 := Nat.eq_zero_of_not_pos hpos
    have hlocation : (ofFields severity front (.int value) message rule).encodeLocation.toList = front := by
      rw [encodeLocation, if_neg (by simp [ofFields, Value.isGiven, hzero]), hfile]
    rw [hlocation]
    constructor
    · intro h
      simp at h
    · rintro ⟨written, hwritten, rfl⟩
      have hsame := eq_of_toNat?_toDigits hvalue
      omega

/-- An issue that was read is written as it was read exactly if its line suffix, if it
has one, is a number as it is written. -/
theorem encode_of_decode {issue : Issue} (h : decode text = .ok issue) :
    issue.encode = text ↔
      ∀ numeral, IsLineSuffix numeral (locationField text.toList) → IsWrittenNumber numeral := by
  cases hfields : fields? text.toList with
  | none =>
    rw [decode_of_no_fields hfields] at h
    cases h
  | some parts =>
    obtain ⟨letter, location, message, rule⟩ := parts
    rw [(fields_of_fields? hfields).2]
    by_cases hs : ∃ numeral, IsLineSuffix numeral location
    · obtain ⟨numeral, hsuffix⟩ := hs
      obtain ⟨front, hlocation, hcut⟩ := splitLocation_of_isLineSuffix hsuffix
      rw [decode_of_suffix hfields hcut] at h
      obtain ⟨severity, hletter, h⟩ := bind_eq_ok_iff.mp h
      obtain ⟨n, hn, h⟩ := bind_eq_ok_iff.mp h
      cases h
      rw [encode_ofFields_iff hfields (ofLetter_eq_ok_iff.mp hletter), hlocation,
        encodeLocation_ofFields_iff severity message rule hn, ← hlocation]
      exact ⟨fun hw other ho => hsuffix.unique ho ▸ hw, fun hw => hw numeral hsuffix⟩
    · have hnone : ∀ numeral, ¬IsLineSuffix numeral location := fun numeral hn => hs ⟨numeral, hn⟩
      rw [decode_of_no_suffix hfields hnone] at h
      obtain ⟨severity, hletter, h⟩ := bind_eq_ok_iff.mp h
      cases h
      rw [encode_ofFields_iff hfields (ofLetter_eq_ok_iff.mp hletter), encodeLocation_ofFields_null]
      exact ⟨fun _ numeral hn => absurd hn (hnone numeral), fun _ => rfl⟩

/-- Exactly the issue lines are read, every other text is a fault of values, and exactly
those whose line suffix is a number as it is written are written as they were read. -/
theorem decode_language (h : RunsWithin maxDigits text.toList) :
    ((∃ issue, decode text = .ok issue) ↔ IsLine text.toList) ∧
      (∀ fault, decode text = .error fault → fault.kind = "ValueError") ∧
        ∀ issue, decode text = .ok issue → (issue.encode = text ↔
          ∀ numeral, IsLineSuffix numeral (locationField text.toList) → IsWrittenNumber numeral) := by
  have hfails := decode_failsBy h
  refine ⟨⟨?_, fun hline => ?_⟩, fun fault hf => (hfails.caused fault hf).1, fun issue => encode_of_decode⟩
  · rintro ⟨issue, hissue⟩
    refine Classical.byContradiction fun hline => ?_
    obtain ⟨found, hfound⟩ := hfails.fails .malformedIssue ⟨rfl, hline⟩
    rw [hissue] at hfound
    cases hfound
  · exact hfails.succeeds fun fault hc => hc.2 hline

/-- A line number with zeros before it is read and not written again, and a superscript
is not even read. -/
theorem decode_language_zeros :
    (RunsWithin maxDigits "W|a.ts:007|b|c|".toList ∧
      ∃ issue, decode "W|a.ts:007|b|c|" = .ok issue ∧ issue.encode ≠ "W|a.ts:007|b|c|") ∧
    (RunsWithin maxDigits "W|a.ts:²|b|".toList ∧ ¬∃ issue, decode "W|a.ts:²|b|" = .ok issue) := by
  have hzeros : RunsWithin maxDigits "W|a.ts:007|b|c|".toList := .of_length_le (by decide)
  have hsuperscript : RunsWithin maxDigits "W|a.ts:²|b|".toList := .of_length_le (by decide)
  have hsuffix : IsLineSuffix "007".toList (locationField "W|a.ts:007|b|c|".toList) :=
    ⟨"a.ts".toList, by decide, by decide, by decide⟩
  have hdecimal : ∀ c ∈ "007".toList, isDecimal c = true := List.all_eq_true.mp (by decide)
  refine ⟨⟨hzeros, ?_⟩, hsuperscript, fun hread => ?_⟩
  · have hline : IsLine "W|a.ts:007|b|c|".toList :=
      ⟨by decide, by decide, fun numeral hn => hsuffix.unique hn ▸ hdecimal⟩
    obtain ⟨issue, hissue⟩ := (decode_language hzeros).1.mpr hline
    refine ⟨issue, hissue, fun hsame => ?_⟩
    obtain ⟨n, -, hn⟩ := ((decode_language hzeros).2.2 issue hissue).mp hsame _ hsuffix
    have hseven : toNat? (Nat.toDigits 10 n) = some 7 := by
      rw [← hn]
      decide
    rw [← eq_of_toNat?_toDigits hseven] at hn
    exact absurd hn (by decide)
  · have hline := (decode_language hsuperscript).1.mp hread
    have hall := hline.suffix ['²'] ⟨"a.ts".toList, by decide, by decide, by decide⟩
    exact absurd (hall '²' List.mem_cons_self) (by decide)

end Checkup.Issue
