import Checkup.Json.Reader
import Checkup.Json.Writer
import Checkup.Proofs.Numerals

/-!
# JSON documents read back

A document of names, whole numbers, texts, lists and mappings is read back as it
was written: texts through their escapes, numbers through their digits, and lists
and mappings part by part. The reader's bound is never the reason for a refusal,
since every part is shorter than the text that it stands in.
-/

namespace Checkup.Json

open Checkup.Text

/-- A document that is read back: no floating-point numbers, no number too long
to be written, and different texts for the keys of a mapping. -/
inductive IsPlain : Value → Prop where
  | null : IsPlain .null
  | bool (value : Bool) : IsPlain (.bool value)
  | int (n : Int) (short : isWritable n = true) : IsPlain (.int n)
  | text (value : String) : IsPlain (.text value)
  | list (items : List Value) (plain : ∀ item ∈ items, IsPlain item) : IsPlain (.list items)
  | mapping (entries : Entries) (texts : ∀ entry ∈ entries, ∃ key, entry.1 = .text key)
      (distinct : (entries.map Prod.fst).Nodup) (plain : ∀ entry ∈ entries, IsPlain entry.2) :
      IsPlain (.mapping entries)

/-- A list of one plain value is plain. -/
theorem IsPlain.singleton {value : Value} (h : IsPlain value) : IsPlain (.list [value]) :=
  .list _ (List.forall_mem_singleton.mpr h)

/-- So is a mapping of one text to it. -/
theorem IsPlain.entry {value : Value} (h : IsPlain value) (key : String) : IsPlain (.mapping [(.text key, value)]) :=
  .mapping _ (List.forall_mem_singleton.mpr ⟨key, rfl⟩) (by simp) (List.forall_mem_singleton.mpr h)

/-- What may stand behind a value: nothing, or what goes on with the list or the
mapping that it is part of. -/
def Ends (rest : List Char) : Prop := ∀ c ∈ rest.head?, c = ',' ∨ c = ']' ∨ c = '\x7d'

/-- What starts with a mark between parts may stand behind a value. -/
theorem ends_cons {c : Char} (h : c = ',' ∨ c = ']' ∨ c = '\x7d') {rest : List Char} :
    Ends (c :: rest) := by
  intro d hd
  cases hd
  exact h

/-- A value is read from its text, and nothing of what stands behind it. -/
def ReadsBack (value : Value) : Prop :=
  ∀ bound rest, (write value).length ≤ bound → Ends rest →
    readValue bound (write value ++ rest) = .ok (value, rest)

/-! ## Texts -/

/-- A hexadecimal digit is read back. -/
theorem hexValue?_hexDigit : ∀ digit < 16, hexValue? (hexDigit digit) = some digit := by
  decide

/-- Four hexadecimal digits are read back. -/
theorem hex4?_hex {n : Nat} (h : n < 65536) (rest : List Char) :
    hex4? (hex 4 n ++ rest) = some (n, rest) := by
  have ha := hexValue?_hexDigit (n / 16 / 16 / 16 % 16) (Nat.mod_lt _ (by decide))
  have hb := hexValue?_hexDigit (n / 16 / 16 % 16) (Nat.mod_lt _ (by decide))
  have hc := hexValue?_hexDigit (n / 16 % 16) (Nat.mod_lt _ (by decide))
  have hd := hexValue?_hexDigit (n % 16) (Nat.mod_lt _ (by decide))
  have hn : ((n / 16 / 16 / 16 % 16 * 16 + n / 16 / 16 % 16) * 16 + n / 16 % 16) * 16 + n % 16 = n := by
    omega
  simp only [hex, List.nil_append, List.cons_append, hex4?, ha, hb, hc, hd, Option.bind_eq_bind,
    Option.bind_some, hn]

/-- An escape of a control character is read back. -/
theorem unitEscape?_hex {c : Char} (h : c.toNat < 0x20) (rest : List Char) :
    unitEscape? (hex 4 c.toNat ++ rest) = some (c, rest) := by
  have hl : ¬(0xD800 ≤ c.toNat ∧ c.toNat ≤ 0xDBFF) := by omega
  have hh : ¬(0xDC00 ≤ c.toNat ∧ c.toNat ≤ 0xDFFF) := by omega
  rw [unitEscape?, hex4?_hex (by omega)]
  simp only [Option.bind_eq_bind, Option.bind_some, if_neg hl, if_neg hh, Char.ofNat_toNat]

/-- A character that is not escaped is read as it is. -/
theorem readText_plain {c : Char} (hq : c ≠ '"') (hc : ¬c.toNat < 0x20) (hs : c ≠ '\\') (bound : Nat)
    (rest : List Char) :
    readText (bound+1) (c :: rest) =
      (readText bound rest).map fun found => (c :: found.1, found.2) := by
  rw [readText.eq_def]
  dsimp only
  rw [if_neg hq, if_neg hc, if_neg hs]
  cases readText bound rest <;> rfl

/-- A simple escape is read as the character that it stands for. -/
theorem readText_escape {c e : Char} (he : escaped? e = some c) (hu : e ≠ 'u') (bound : Nat)
    (rest : List Char) :
    readText (bound+1) ('\\' :: e :: rest) =
      (readText bound rest).map fun found => (c :: found.1, found.2) := by
  rw [readText.eq_def]
  dsimp only
  rw [if_neg (by decide), if_neg (by decide), if_pos rfl]
  split
  · next hnil => cases hnil
  · next hcons =>
    cases hcons
    exact absurd rfl hu
  · next hcons =>
    cases hcons
    rw [he]
    cases readText bound rest <;> rfl

/-- An escape by code point is read as the character that it stands for. -/
theorem readText_unit {c : Char} {text rest : List Char} (h : unitEscape? text = some (c, rest))
    (bound : Nat) :
    readText (bound+1) ('\\' :: 'u' :: text) =
      (readText bound rest).map fun found => (c :: found.1, found.2) := by
  rw [readText.eq_def]
  dsimp only
  rw [if_neg (by decide), if_neg (by decide), if_pos rfl]
  split
  · next hnil => cases hnil
  · next hcons =>
    cases hcons
    rw [h]
    dsimp only
    cases readText bound rest <;> rfl
  · next hne hcons =>
    cases hcons
    exact (hne rfl).elim

/-- A character is written as a simple escape, by its code point, or as it is. -/
theorem writeChar_cases (c : Char) :
    (∃ e, writeChar c = ['\\', e] ∧ escaped? e = some c ∧ e ≠ 'u') ∨
      (writeChar c = '\\' :: 'u' :: hex 4 c.toNat ∧ c.toNat < 0x20) ∨
        (writeChar c = [c] ∧ c ≠ '"' ∧ ¬c.toNat < 0x20 ∧ c ≠ '\\') := by
  by_cases hs : c ∈ ['"', '\\', '\n', '\r', '\t', '\x08', '\x0c']
  · simp only [List.mem_cons, List.not_mem_nil, or_false] at hs
    rcases hs with rfl | rfl | rfl | rfl | rfl | rfl | rfl <;> exact .inl ⟨_, rfl, rfl, by decide⟩
  · simp only [List.mem_cons, List.not_mem_nil, or_false, not_or] at hs
    obtain ⟨hq, hb, hn, hr, ht, hx, hf⟩ := hs
    have hw : writeChar c = if c.toNat < 0x20 then '\\' :: 'u' :: hex 4 c.toNat else [c] := by
      rw [writeChar, if_neg hq, if_neg hb, if_neg hn, if_neg hr, if_neg ht, if_neg hx, if_neg hf]
    by_cases hc : c.toNat < 0x20
    · exact .inr (.inl ⟨by rw [hw, if_pos hc], hc⟩)
    · exact .inr (.inr ⟨by rw [hw, if_neg hc], hq, hc, hb⟩)

/-- Every character of a text is read back, whether it is escaped or not. -/
theorem readText_writeChar (bound : Nat) (c : Char) (rest : List Char) :
    readText (bound+1) (writeChar c ++ rest) =
      (readText bound rest).map fun found => (c :: found.1, found.2) := by
  rcases writeChar_cases c with ⟨e, hw, he, hu⟩ | ⟨hw, hc⟩ | ⟨hw, hq, hc, hs⟩
  · rw [hw]
    exact readText_escape he hu bound rest
  · rw [hw]
    exact readText_unit (unitEscape?_hex hc rest) bound
  · rw [hw]
    exact readText_plain hq hc hs bound rest

/-- A text is read up to its closing quote. -/
theorem readText_flatMap {text : List Char} {bound : Nat} (h : text.length < bound) (rest : List Char) :
    readText bound (text.flatMap writeChar ++ '"' :: rest) = .ok (text, rest) := by
  induction text generalizing bound with
  | nil =>
    obtain ⟨bound, rfl⟩ : ∃ k, bound = k+1 := ⟨bound - 1, by simp only [List.length_nil] at h; omega⟩
    rfl
  | cons c text ih =>
    simp only [List.length_cons] at h
    obtain ⟨bound, rfl⟩ : ∃ k, bound = k+1 := ⟨bound - 1, by omega⟩
    rw [List.flatMap_cons, List.append_assoc, readText_writeChar, ih (by omega)]
    rfl

/-! ## Numbers -/

/-- The digits of JSON are those of ASCII. -/
theorem isDigit_eq (c : Char) : isDigit c = c.isDigit := by
  simp only [isDigit, Char.isDigit, Char.le_def, ge_iff_le]

/-- The digits of a number end where the text behind it begins. -/
theorem takeWhile_isDigit_append {digits rest : List Char} (hd : ∀ c ∈ digits, c.isDigit = true)
    (hr : ∀ c ∈ rest.head?, isDigit c = false) : (digits ++ rest).takeWhile isDigit = digits := by
  have hrest : rest.takeWhile isDigit = [] := by
    cases rest with
    | nil => rfl
    | cons c rest =>
      rw [List.takeWhile_cons, hr c rfl]
      rfl
  have hall : ∀ c ∈ digits, isDigit c = true := fun c hc => (isDigit_eq c).trans (hd c hc)
  rw [List.takeWhile_append_of_pos hall, hrest, List.append_nil]

/-- No digit stands behind a whole number. -/
theorem Ends.isDigit {rest : List Char} (hr : Ends rest) : ∀ c ∈ rest.head?, Json.isDigit c = false := by
  intro c hc
  rcases hr c hc with rfl | rfl | rfl <;> rfl

/-- Behind a whole number stands no fraction. -/
theorem readFraction_of_ends {rest : List Char} (hr : Ends rest) : readFraction rest = ([], rest) := by
  cases rest with
  | nil => rfl
  | cons c rest => rcases hr c rfl with rfl | rfl | rfl <;> rfl

/-- Behind a whole number stands no power. -/
theorem readPower_of_ends {rest : List Char} (hr : Ends rest) : readPower rest = (none, rest) := by
  cases rest with
  | nil => rfl
  | cons c rest => rcases hr c rfl with rfl | rfl | rfl <;> rfl

/-- A number above zero is written without a zero in front. -/
theorem toDigits_ne_zero_cons {n : Nat} (h : 0 < n) (digits : List Char) :
    Nat.toDigits 10 n ≠ '0' :: digits := by
  induction n using Nat.strongRecOn generalizing digits with
  | ind n ih =>
    by_cases hn : n < 10
    · rw [Nat.toDigits_of_lt_base hn]
      intro he
      have hz := (List.cons.inj he).1
      rw [Nat.digitChar_eq_zero] at hz
      omega
    · rw [Nat.toDigits_of_base_le (by decide) (by omega)]
      cases hd : Nat.toDigits 10 (n / 10) with
      | nil => exact absurd hd Nat.toDigits_ne_nil
      | cons c more =>
        intro he
        have hc := (List.cons.inj he).1
        subst hc
        exact ih (n / 10) (by omega) (by omega) more hd

/-- The digits that a written number starts with are all its digits. -/
theorem wholePart_toDigits (n : Nat) {rest : List Char} (hr : ∀ c ∈ rest.head?, isDigit c = false) :
    wholePart (Nat.toDigits 10 n ++ rest) = Nat.toDigits 10 n := by
  have htake := takeWhile_isDigit_append (fun c hc => isDigit_of_mem_toDigits (n := n) hc) hr
  by_cases hn : n = 0
  · subst hn
    rfl
  · unfold wholePart
    split
    · next heq =>
      cases hd : Nat.toDigits 10 n with
      | nil => exact absurd hd Nat.toDigits_ne_nil
      | cons c more =>
        rw [hd] at heq
        have hc := (List.cons.inj heq).1
        subst hc
        exact absurd hd (toDigits_ne_zero_cons (by omega) more)
    · exact htake

/-- The digits of a written number give the number again. -/
theorem digitsValue_toDigits (n : Nat) : digitsValue (Nat.toDigits 10 n) = n := by
  have h := Nat.ofDigitChars_ten_toDigits (n := n)
  rw [Nat.ofDigitChars] at h
  exact h

/-- Digits are read as their number with its sign, unless they are too many. -/
theorem readMagnitude_append (negative : Bool) (n : Nat) {rest : List Char}
    (hd : ∀ c ∈ rest.head?, isDigit c = false) (hf : readFraction rest = ([], rest))
    (hp : readPower rest = (none, rest)) :
    readMagnitude negative (Nat.toDigits 10 n ++ rest) =
      if maxDigits < (Nat.toDigits 10 n).length then .error (.tooManyDigits (Nat.toDigits 10 n).length)
      else .ok (.int (if negative then -(n : Int) else n), rest) := by
  have hw := wholePart_toDigits n hd
  have hne : (Nat.toDigits 10 n).isEmpty = false := by simp [Nat.toDigits_ne_nil]
  unfold readMagnitude
  dsimp only
  rw [hw, hne, List.drop_left, hf, hp]
  dsimp only
  rw [if_neg (by decide), if_pos (by decide), digitsValue_toDigits]

/-- A number that is short enough is read back from its digits, with its sign. -/
theorem readMagnitude_toDigits (negative : Bool) {n : Nat} (h : n < Nat.pow 10 writableDigits)
    {rest : List Char} (hr : Ends rest) :
    readMagnitude negative (Nat.toDigits 10 n ++ rest) =
      .ok (.int (if negative then -(n : Int) else n), rest) := by
  have hl := length_toDigits_le_maxDigits.mpr h
  rw [readMagnitude_append negative n hr.isDigit (readFraction_of_ends hr) (readPower_of_ends hr),
    if_neg (Nat.not_lt.mpr hl)]

/-! ## Values -/

/-- What starts with no letter of a name is not read as one. -/
theorem readName?_eq_none {c : Char} (h : c ∉ ['n', 't', 'f', 'N', 'I', '-']) (rest : List Char) :
    readName? (c :: rest) = none := by
  simp only [List.mem_cons, List.not_mem_nil, or_false, not_or] at h
  obtain ⟨hn, ht, hf, hN, hI, hm⟩ := h
  simp [readName?, names, after?, Ne.symm hn, Ne.symm ht, Ne.symm hf, Ne.symm hN, Ne.symm hI,
    Ne.symm hm]

/-- A hyphen before anything but the first letter of a name is not read as one. -/
theorem readName?_minus {c : Char} (h : c ≠ 'I') (rest : List Char) :
    readName? ('-' :: c :: rest) = none := by
  simp [readName?, names, after?, Ne.symm h]

/-- A digit is no mark of a document. -/
theorem not_mem_of_isDigit {c : Char} {marks : List Char} (h : c.isDigit = true)
    (hm : marks.any Char.isDigit = false) : c ∉ marks := by
  intro hc
  have hany := List.any_eq_true.mpr ⟨c, hc, h⟩
  rw [hm] at hany
  cases hany

/-- A written number starts with a digit. -/
theorem toDigits_eq_cons (n : Nat) : ∃ c digits, Nat.toDigits 10 n = c :: digits ∧ c.isDigit = true := by
  cases hd : Nat.toDigits 10 n with
  | nil => exact absurd hd Nat.toDigits_ne_nil
  | cons c digits =>
    have hc : c ∈ Nat.toDigits 10 n := by rw [hd]; exact List.mem_cons_self
    exact ⟨c, digits, rfl, isDigit_of_mem_toDigits hc⟩

/-- A number from zero on is written with its digits. -/
theorem write_natCast (n : Nat) : write (.int n) = Nat.toDigits 10 n := Nat.toList_repr

/-- A number below zero is written with a hyphen and digits. -/
theorem write_negSucc (n : Nat) : write (.int (Int.negSucc n)) = '-' :: Nat.toDigits 10 (n+1) := by
  have h : (toString (Int.negSucc n)).toList = ("-" ++ Nat.repr (n+1)).toList := rfl
  simp only [write, writeScalar, h, String.toList_append, Nat.toList_repr]
  rfl

/-- A value that starts with a digit is a number. -/
theorem readValue_digit {c : Char} (h : c.isDigit = true) (bound : Nat) (rest : List Char) :
    readValue (bound+1) (c :: rest) = readMagnitude false (c :: rest) := by
  have hc : c ∉ ['n', 't', 'f', 'N', 'I', '-', '"', '[', '\x7b'] := not_mem_of_isDigit h rfl
  simp only [List.mem_cons, List.not_mem_nil, or_false, not_or] at hc
  rw [readValue.eq_def]
  dsimp only
  rw [readName?_eq_none (not_mem_of_isDigit h rfl)]
  dsimp only
  split <;> simp_all

/-- A value that starts with the digits of a number is a number. -/
theorem readValue_toDigits (bound n : Nat) (rest : List Char) :
    readValue (bound+1) (Nat.toDigits 10 n ++ rest) = readMagnitude false (Nat.toDigits 10 n ++ rest) := by
  obtain ⟨c, digits, hd, hc⟩ := toDigits_eq_cons n
  rw [hd]
  exact readValue_digit hc bound (digits ++ rest)

/-- A value that starts with a hyphen and a digit is a number below zero. -/
theorem readValue_minus {c : Char} (h : c.isDigit = true) (bound : Nat) (rest : List Char) :
    readValue (bound+1) ('-' :: c :: rest) = readMagnitude true (c :: rest) := by
  have hc : c ∉ ['I'] := not_mem_of_isDigit h rfl
  rw [readValue.eq_def]
  dsimp only
  rw [readName?_minus fun he => hc (List.mem_singleton.mpr he)]
  rfl

/-- A value that starts with a quote is a text. -/
theorem readValue_quote (bound : Nat) (rest : List Char) :
    readValue (bound+1) ('"' :: rest) =
      (readText (rest.length+1) rest).map fun found => (.text (String.ofList found.1), found.2) := by
  rw [readValue.eq_def]
  dsimp only
  rw [readName?_eq_none (by decide)]
  change (readText (rest.length+1) rest >>= fun found =>
    .ok (Value.text (String.ofList found.1), found.2)) = _
  cases readText (rest.length+1) rest <;> rfl

/-- A value that starts with a bracket is a list. -/
theorem readValue_bracket {rest more : List Char} {c : Char} (h : skipGap rest = c :: more) (hc : c ≠ ']')
    (bound : Nat) :
    readValue (bound+1) ('[' :: rest) =
      (readItems bound (c :: more)).map fun found => (.list found.1, found.2) := by
  rw [readValue.eq_def]
  dsimp only
  rw [readName?_eq_none (by decide)]
  simp only [h]
  split
  · next heq => exact absurd (List.cons.inj heq).1 hc
  · cases readItems bound (c :: more) <;> rfl

/-- A value that starts with a brace is a mapping. -/
theorem readValue_brace {rest more : List Char} {c : Char} (h : skipGap rest = c :: more) (hc : c ≠ '\x7d')
    (bound : Nat) :
    readValue (bound+1) ('\x7b' :: rest) =
      (readEntries bound [] (c :: more)).map fun found => (.mapping found.1, found.2) := by
  rw [readValue.eq_def]
  dsimp only
  rw [readName?_eq_none (by decide)]
  simp only [h]
  split
  · next heq => exact absurd (List.cons.inj heq).1 hc
  · cases readEntries bound [] (c :: more) <;> rfl

/-- A number is read back. -/
theorem readsBack_int {n : Int} (h : isWritable n = true) : ReadsBack (.int n) := by
  intro bound rest hb hr
  cases n with
  | ofNat n =>
    obtain ⟨c, digits, hd, hc⟩ := toDigits_eq_cons n
    have hw : write (.int (Int.ofNat n)) = Nat.toDigits 10 n := write_natCast n
    rw [hw, hd] at hb
    obtain ⟨bound, rfl⟩ : ∃ k, bound = k+1 := ⟨bound - 1, by simp only [List.length_cons] at hb; omega⟩
    rw [hw, readValue_toDigits, readMagnitude_toDigits false (isWritable_natCast.mp h) hr]
    rfl
  | negSucc n =>
    obtain ⟨c, digits, hd, hc⟩ := toDigits_eq_cons (n+1)
    have hshort : n+1 < Nat.pow 10 writableDigits := of_decide_eq_true h
    rw [write_negSucc, hd] at hb
    obtain ⟨bound, rfl⟩ : ∃ k, bound = k+1 := ⟨bound - 1, by simp only [List.length_cons] at hb; omega⟩
    rw [write_negSucc, hd, List.cons_append, List.cons_append, readValue_minus hc, ← List.cons_append,
      ← hd, readMagnitude_toDigits true hshort hr]
    rfl

/-- A text is not longer than it is when written. -/
theorem length_le_length_flatMap (text : List Char) : text.length ≤ (text.flatMap writeChar).length := by
  induction text with
  | nil => exact Nat.le_refl 0
  | cons c text ih =>
    have hc : 1 ≤ (writeChar c).length := by
      rcases writeChar_cases c with ⟨e, hw, he, hu⟩ | ⟨hw, hc⟩ | ⟨hw, hc⟩
      · rw [hw]
        exact Nat.le_add_left 1 1
      · rw [hw]
        exact Nat.le_add_left 1 _
      · rw [hw]
        exact Nat.le_refl 1
    rw [List.flatMap_cons, List.length_append, List.length_cons]
    omega

/-- What stands between quotes is read back, whatever follows it. -/
theorem readText_writeText (text rest : List Char) :
    let written := text.flatMap writeChar ++ '"' :: rest
    readText (written.length+1) written = .ok (text, rest) := by
  have hl := length_le_length_flatMap text
  refine readText_flatMap ?_ rest
  rw [List.length_append, List.length_cons]
  omega

/-- A text is read back. -/
theorem readsBack_text (value : String) : ReadsBack (.text value) := by
  intro bound rest hb hr
  have hw : write (.text value) = '"' :: (value.toList.flatMap writeChar ++ ['"']) := rfl
  rw [hw, List.length_cons] at hb
  obtain ⟨bound, rfl⟩ : ∃ k, bound = k+1 := ⟨bound - 1, by omega⟩
  rw [hw, List.cons_append, List.append_assoc, List.cons_append, List.nil_append, readValue_quote,
    readText_writeText]
  simp only [Except.map, String.ofList_toList]

/-- A name is read back. -/
theorem readsBack_name {value : Value} (h : ∀ rest, readName? (write value ++ rest) = some (value, rest))
    (hne : write value ≠ []) : ReadsBack value := by
  intro bound rest hb hr
  have hpos := List.length_pos_iff.mpr hne
  obtain ⟨bound, rfl⟩ : ∃ k, bound = k+1 := ⟨bound - 1, by omega⟩
  rw [readValue.eq_def]
  dsimp only
  rw [h]

/-! ## Lists and mappings -/

/-- What may stand at the start of a value: neither white space nor a closing bracket. -/
def Starts (text : List Char) : Prop := ∃ c rest, text = c :: rest ∧ isGap c = false ∧ c ≠ ']'

/-- Nothing is skipped before a value. -/
theorem Starts.skipGap_append {text : List Char} (h : Starts text) (rest : List Char) :
    skipGap (text ++ rest) = text ++ rest := by
  obtain ⟨c, more, rfl, hc, -⟩ := h
  simp [skipGap, hc]

/-- A written number starts as a value does. -/
theorem starts_toDigits (n : Nat) : Starts (Nat.toDigits 10 n) := by
  obtain ⟨c, digits, hd, hc⟩ := toDigits_eq_cons n
  have hm : c ∉ [' ', '\t', '\n', '\r', ']'] := not_mem_of_isDigit hc rfl
  simp only [List.mem_cons, List.not_mem_nil, or_false, not_or] at hm
  obtain ⟨hs, ht, hn, hr, hb⟩ := hm
  exact ⟨c, digits, hd, by simp [isGap, hs, ht, hn, hr], hb⟩

/-- A plain document starts with no white space and with no closing bracket. -/
theorem IsPlain.starts {value : Value} (h : IsPlain value) : Starts (write value) := by
  cases h with
  | null => exact ⟨'n', _, rfl, rfl, by decide⟩
  | bool value =>
    cases value with
    | false => exact ⟨'f', _, rfl, rfl, by decide⟩
    | true => exact ⟨'t', _, rfl, rfl, by decide⟩
  | int n short =>
    cases n with
    | ofNat n => exact write_natCast n ▸ starts_toDigits n
    | negSucc n => exact ⟨'-', _, write_negSucc n, rfl, by decide⟩
  | text value => exact ⟨'"', _, rfl, rfl, by decide⟩
  | list items plain => exact ⟨'[', _, rfl, rfl, by decide⟩
  | mapping entries texts distinct plain => exact ⟨'\x7b', _, rfl, rfl, by decide⟩

/-- A part of a list or a mapping: it is read back, and it starts as values do. -/
structure IsPart (value : Value) : Prop where
  readsBack : ReadsBack value
  starts : Starts (write value)

/-- An entry of a mapping: its key is a text, and its value a part. -/
structure IsEntry (entry : Scalar × Value) : Prop where
  key : ∃ text, entry.1 = .text text
  value : IsPart entry.2

/-- An item before a bracket is the last one. -/
theorem readItems_last {text rest : List Char} {item : Value} {bound : Nat}
    (h : readValue bound text = .ok (item, ']' :: rest)) :
    readItems (bound+1) text = .ok ([item], rest) := by
  rw [readItems.eq_def]
  dsimp only
  rw [h]
  rfl

/-- An item before a comma is followed by another one. -/
theorem readItems_next {text rest : List Char} {item : Value} {bound : Nat}
    (h : readValue bound text = .ok (item, ',' :: rest)) :
    readItems (bound+1) text =
      (readItems bound (skipGap rest)).map fun found => (item :: found.1, found.2) := by
  rw [readItems.eq_def]
  dsimp only
  rw [h]
  change (readItems bound (skipGap rest) >>= fun found => .ok (item :: found.1, found.2)) = _
  cases readItems bound (skipGap rest) <;> rfl

/-- Two items of a list stand with a comma between them. -/
theorem writeItems_cons_cons (item next : Value) (items : List Value) :
    writeItems (item :: next :: items) = write item ++ ',' :: writeItems (next :: items) := by
  simp only [writeItems]

/-- The items of a list start as its first item does. -/
theorem starts_writeItems {item : Value} (h : Starts (write item)) (items : List Value) :
    Starts (writeItems (item :: items)) := by
  obtain ⟨c, rest, hw, hc⟩ := h
  cases items with
  | nil => exact ⟨c, rest, hw, hc⟩
  | cons next items =>
    refine ⟨c, rest ++ ',' :: writeItems (next :: items), ?_, hc⟩
    rw [writeItems_cons_cons, hw]
    rfl

/-- The items of a list are read back up to the closing bracket. -/
theorem readItems_writeItems {item : Value} {items : List Value}
    (h : ∀ each ∈ item :: items, IsPart each) {bound : Nat}
    (hb : (writeItems (item :: items)).length < bound) (rest : List Char) :
    readItems bound (writeItems (item :: items) ++ ']' :: rest) = .ok (item :: items, rest) := by
  obtain ⟨bound, rfl⟩ : ∃ k, bound = k+1 := ⟨bound - 1, by omega⟩
  have hitem := (h item List.mem_cons_self).readsBack
  induction items generalizing item bound with
  | nil =>
    have hread := hitem bound (']' :: rest) (Nat.le_of_lt_succ hb) (ends_cons (.inr (.inl rfl)))
    exact readItems_last hread
  | cons next items ih =>
    have hmore : ∀ each ∈ next :: items, IsPart each :=
      fun each he => h each (List.mem_cons_of_mem item he)
    have hnext := hmore next List.mem_cons_self
    rw [writeItems_cons_cons, List.length_append, List.length_cons] at hb
    obtain ⟨bound, rfl⟩ : ∃ k, bound = k+1 := ⟨bound - 1, by omega⟩
    have hread := hitem (bound+1) (',' :: (writeItems (next :: items) ++ ']' :: rest)) (by omega)
      (ends_cons (.inl rfl))
    rw [writeItems_cons_cons, List.append_assoc, List.cons_append, readItems_next hread,
      (starts_writeItems hnext.starts items).skipGap_append, ih hmore bound (by omega) hnext.readsBack]
    rfl

/-- A key that is not there goes behind all others. -/
theorem insertWith_of_not_mem {entries : Entries} {key : Scalar} (h : key ∉ entries.map Prod.fst)
    (value : Value) : entries.insertWith (· = ·) key value = entries ++ [(key, value)] := by
  induction entries with
  | nil => rfl
  | cons entry entries ih =>
    obtain ⟨k, v⟩ := entry
    rw [List.map_cons, List.mem_cons, not_or] at h
    have hk : k ≠ key := Ne.symm h.1
    rw [Entries.insertWith, if_neg (by simpa using hk), ih h.2]
    rfl

/-- An entry before a brace is the last one. -/
theorem readEntries_last {text written rest : List Char} {key : List Char} {value : Value} {bound : Nat}
    (hk : readText (text.length+1) text = .ok (key, ':' :: written))
    (hv : readValue bound (skipGap written) = .ok (value, '\x7d' :: rest)) (entries : Entries) :
    readEntries (bound+1) entries ('"' :: text) =
      .ok (entries.insertWith (· = ·) (.text (String.ofList key)) value, rest) := by
  rw [readEntries.eq_def]
  change (readText (text.length+1) text >>= _) = _
  rw [hk]
  change (readValue bound (skipGap written) >>= _) = _
  rw [hv]
  rfl

/-- An entry before a comma is followed by another one. -/
theorem readEntries_next {text written rest : List Char} {key : List Char} {value : Value} {bound : Nat}
    (hk : readText (text.length+1) text = .ok (key, ':' :: written))
    (hv : readValue bound (skipGap written) = .ok (value, ',' :: rest)) (entries : Entries) :
    readEntries (bound+1) entries ('"' :: text) =
      readEntries bound (entries.insertWith (· = ·) (.text (String.ofList key)) value) (skipGap rest) := by
  rw [readEntries.eq_def]
  change (readText (text.length+1) text >>= _) = _
  rw [hk]
  change (readValue bound (skipGap written) >>= _) = _
  rw [hv]
  rfl

/-- A written text is a quote, its characters, and a quote again. -/
theorem writeText_append (text rest : List Char) :
    writeText text ++ rest = '"' :: (text.flatMap writeChar ++ '"' :: rest) := by
  simp only [writeText, List.cons_append, List.append_assoc, List.nil_append]

/-- One entry of a mapping is its key, a colon and its value. -/
theorem writeEntries_singleton (key : String) (value : Value) (rest : List Char) :
    writeEntries [(.text key, value)] ++ rest =
      '"' :: (key.toList.flatMap writeChar ++ '"' :: ':' :: (write value ++ rest)) := by
  simp only [writeEntries, writeKey, List.append_assoc, List.cons_append, writeText_append]

/-- Two entries of a mapping stand with a comma between them. -/
theorem writeEntries_cons_cons (key : String) (value : Value) (next : Scalar × Value)
    (entries : Entries) (rest : List Char) :
    writeEntries ((.text key, value) :: next :: entries) ++ rest =
      '"' :: (key.toList.flatMap writeChar ++
        '"' :: ':' :: (write value ++ ',' :: (writeEntries (next :: entries) ++ rest))) := by
  simp only [writeEntries, writeKey, List.append_assoc, List.cons_append, writeText_append]

/-- The entries of a mapping start with a quote. -/
theorem starts_writeEntries (key : String) (value : Value) (entries : Entries) :
    Starts (writeEntries ((.text key, value) :: entries)) := by
  cases entries with
  | nil =>
    have hw := writeEntries_singleton key value []
    rw [List.append_nil] at hw
    exact ⟨'"', _, hw, rfl, by decide⟩
  | cons next entries =>
    have hw := writeEntries_cons_cons key value next entries []
    rw [List.append_nil] at hw
    exact ⟨'"', _, hw, rfl, by decide⟩

/-- Where all keys differ, no key stands among those before it. -/
theorem not_mem_of_nodup {before entries : Entries} {key : Scalar} {value : Value}
    (h : ((before ++ (key, value) :: entries).map Prod.fst).Nodup) : key ∉ before.map Prod.fst := by
  intro hm
  rw [List.map_append, List.nodup_append] at h
  exact h.2.2 key hm key List.mem_cons_self rfl

/-- The entries of a mapping are read back up to the closing brace, behind those before. -/
theorem readEntries_writeEntries {key : String} {value : Value} {entries before : Entries}
    (hv : IsPart value) (h : ∀ each ∈ entries, IsEntry each)
    (hd : ((before ++ (.text key, value) :: entries).map Prod.fst).Nodup) {bound : Nat}
    (hb : (writeEntries ((.text key, value) :: entries)).length < bound) (rest : List Char) :
    readEntries bound before (writeEntries ((.text key, value) :: entries) ++ '\x7d' :: rest) =
      .ok (before ++ (.text key, value) :: entries, rest) := by
  obtain ⟨bound, rfl⟩ : ∃ k, bound = k+1 := ⟨bound - 1, by omega⟩
  induction entries generalizing key value before bound with
  | nil =>
    have hl := congrArg List.length (writeEntries_singleton key value [])
    simp only [List.append_nil, List.length_cons, List.length_append] at hl
    have hk := readText_writeText key.toList (':' :: (write value ++ '\x7d' :: rest))
    have hread := hv.readsBack bound ('\x7d' :: rest) (by omega) (ends_cons (.inr (.inr rfl)))
    rw [← hv.starts.skipGap_append] at hread
    rw [writeEntries_singleton, readEntries_last hk hread, String.ofList_toList,
      insertWith_of_not_mem (not_mem_of_nodup hd)]
  | cons next entries ih =>
    obtain ⟨k, v⟩ := next
    have hnext : IsPart v := (h (k, v) List.mem_cons_self).value
    obtain ⟨text, rfl⟩ : ∃ text, k = .text text := (h (k, v) List.mem_cons_self).key
    have hfresh := not_mem_of_nodup hd
    have hl := congrArg List.length (writeEntries_cons_cons key value (.text text, v) entries [])
    simp only [List.append_nil, List.length_cons, List.length_append] at hl
    have hmore : ∀ each ∈ entries, IsEntry each := fun each he => h each (List.mem_cons_of_mem _ he)
    let behind := writeEntries ((.text text, v) :: entries) ++ '\x7d' :: rest
    have hk := readText_writeText key.toList (':' :: (write value ++ ',' :: behind))
    have hread := hv.readsBack bound (',' :: behind) (by omega) (ends_cons (.inl rfl))
    rw [← hv.starts.skipGap_append] at hread
    have happend : before ++ (.text key, value) :: (.text text, v) :: entries =
        (before ++ [(.text key, value)]) ++ (.text text, v) :: entries := by
      rw [List.append_assoc, List.singleton_append]
    rw [happend] at hd ⊢
    obtain ⟨bound, rfl⟩ : ∃ k, bound = k+1 := ⟨bound - 1, by omega⟩
    rw [writeEntries_cons_cons, readEntries_next hk hread, String.ofList_toList,
      insertWith_of_not_mem hfresh, (starts_writeEntries text v entries).skipGap_append]
    exact ih hnext hmore hd bound (by omega)

/-! ## Documents -/

/-- A list is read back if its items are. -/
theorem readsBack_list {items : List Value} (h : ∀ item ∈ items, IsPart item) :
    ReadsBack (.list items) := by
  intro bound rest hb hr
  rw [write, List.length_append, List.length_cons, List.length_singleton] at hb
  obtain ⟨bound, rfl⟩ : ∃ k, bound = k+1 := ⟨bound - 1, by omega⟩
  rw [write, List.cons_append, List.cons_append, List.append_assoc, List.singleton_append]
  cases items with
  | nil =>
    rw [readValue.eq_def]
    rfl
  | cons item items =>
    have hs := starts_writeItems (h item List.mem_cons_self).starts items
    have hskip := hs.skipGap_append (']' :: rest)
    obtain ⟨c, more, hw, hc, hne⟩ := hs
    rw [hw, List.cons_append] at hskip
    rw [hw, List.cons_append, readValue_bracket hskip hne, ← List.cons_append, ← hw,
      readItems_writeItems h (by omega)]
    rfl

/-- A mapping is read back if its values are. -/
theorem readsBack_mapping {entries : Entries} (hd : (entries.map Prod.fst).Nodup)
    (h : ∀ entry ∈ entries, IsEntry entry) : ReadsBack (.mapping entries) := by
  intro bound rest hb hr
  rw [write, List.length_append, List.length_cons, List.length_singleton] at hb
  obtain ⟨bound, rfl⟩ : ∃ k, bound = k+1 := ⟨bound - 1, by omega⟩
  rw [write, List.cons_append, List.cons_append, List.append_assoc, List.singleton_append]
  cases entries with
  | nil =>
    rw [readValue.eq_def]
    rfl
  | cons entry entries =>
    obtain ⟨k, v⟩ := entry
    have hv : IsPart v := (h (k, v) List.mem_cons_self).value
    obtain ⟨text, rfl⟩ : ∃ text, k = .text text := (h (k, v) List.mem_cons_self).key
    have hmore : ∀ each ∈ entries, IsEntry each := fun each he => h each (List.mem_cons_of_mem _ he)
    have hskip := (starts_writeEntries text v entries).skipGap_append ('\x7d' :: rest)
    have hstart : ∃ more, writeEntries ((.text text, v) :: entries) ++ '\x7d' :: rest = '"' :: more := by
      cases entries with
      | nil => exact ⟨_, writeEntries_singleton text v _⟩
      | cons next entries => exact ⟨_, writeEntries_cons_cons text v next entries _⟩
    obtain ⟨more, hw⟩ := hstart
    rw [hw] at hskip
    have hread : readEntries bound [] (writeEntries ((.text text, v) :: entries) ++ '\x7d' :: rest) =
        .ok ((.text text, v) :: entries, rest) :=
      readEntries_writeEntries hv hmore hd (by omega) rest
    rw [hw] at hread ⊢
    rw [readValue_brace hskip (by decide), hread]
    rfl

/-- Every plain document is read back, whatever it is part of. -/
theorem IsPlain.readsBack {document : Value} (h : IsPlain document) : ReadsBack document := by
  induction h with
  | null => exact readsBack_name (fun rest => rfl) (by decide)
  | bool value =>
    cases value with
    | false => exact readsBack_name (fun rest => rfl) (by decide)
    | true => exact readsBack_name (fun rest => rfl) (by decide)
  | int n short => exact readsBack_int short
  | text value => exact readsBack_text value
  | list items plain ih =>
    exact readsBack_list fun item hi => ⟨ih item hi, (plain item hi).starts⟩
  | mapping entries texts distinct plain ih =>
    exact readsBack_mapping distinct fun entry he =>
      ⟨texts entry he, ih entry he, (plain entry he).starts⟩

/-- A plain document is read back as it was written. -/
theorem IsPlain.read_write {document : Value} (h : IsPlain document) :
    read (write document) = .ok document := by
  have hskip := h.starts.skipGap_append []
  have hread := h.readsBack (2 * (write document).length + 2) [] (by omega)
    (by intro c hc; cases hc)
  rw [List.append_nil] at hskip hread
  unfold read
  rw [hskip, hread]
  rfl

end Checkup.Json
