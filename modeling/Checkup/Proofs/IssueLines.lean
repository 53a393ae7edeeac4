import Checkup.Issue.Line
import Checkup.Proofs.Numerals

/-!
# Issues read back from their lines

The line of an issue is one format inside another: fields between bars, of which
the message may hold any number, and inside the location a file and a line around
the last colon. What was written is read back unless a file without a line looks
as if it had one. That is the only exception, and it is stated exactly.
-/

namespace Checkup

open Checkup.Text

/-- A file or a rule as a line can hold it: absent, or a text without bars that
is not empty. -/
def Value.IsLabel (value : Value) : Prop :=
  value = .null ∨ ∃ text : String, value = .text text ∧ text ≠ "" ∧ '|' ∉ text.toList

/-- A line number as a line can hold it: absent, or above zero and short enough
to be written. -/
def Value.IsLineNumber (value : Value) : Prop :=
  value = .null ∨ ∃ n : Nat, value = .int n ∧ 0 < n ∧ isWritable n = true

/-- A label that is given is its own text, and one that is not has the empty text. -/
theorem Value.IsLabel.cases {value : Value} (h : value.IsLabel) :
    (value = .null ∧ value.isGiven = false) ∨
      ∃ text : String, value = .text text ∧ value.isGiven = true ∧ value.display = text ∧
        text ≠ "" ∧ '|' ∉ text.toList := by
  rcases h with rfl | ⟨text, rfl, hne, hbar⟩
  · exact .inl ⟨rfl, rfl⟩
  · have hgiven : (Value.text text).isGiven = true := by simp [Value.isGiven, hne]
    exact .inr ⟨text, rfl, hgiven, rfl, hne, hbar⟩

namespace Issue

/-- An issue that a line is made for. -/
structure IsPlain (issue : Issue) : Prop where
  message : ∃ text : String, issue.message = .text text
  file : issue.file.IsLabel
  line : issue.line.IsLineNumber
  rule : issue.rule.IsLabel

/-- What follows the last colon of a text is a numeral. -/
def EndsInNumeral (text : List Char) : Prop :=
  ∃ front numeral, text = front ++ ':' :: numeral ∧ ':' ∉ numeral ∧ isNumeral numeral = true

/-- An issue without a line whose file looks as if it had one. -/
def HidesLine (issue : Issue) : Prop :=
  issue.line = .null ∧ ∃ file : String, issue.file = .text file ∧ EndsInNumeral file.toList

/-- An issue without its fix, which no line keeps. -/
def withoutFix (issue : Issue) : Issue := { issue with fix := .null }

/-- The letter of a severity stands for that severity alone. -/
theorem ofLetter_letter (severity : Severity) :
    Severity.ofLetter (String.ofList [severity.letter]) = .ok severity := by
  cases severity <;> rfl

/-- No severity has a bar for its letter. -/
theorem bar_not_mem_letter (severity : Severity) : '|' ∉ [severity.letter] := by
  cases severity <;> decide

/-- Four fields are found exactly around the first two bars and the last one. -/
theorem fields?_eq_some {text letter location message rule : List Char} :
    fields? text = some (letter, location, message, rule) ↔
      text = letter ++ '|' :: (location ++ '|' :: (message ++ '|' :: rule)) ∧
        '|' ∉ letter ∧ '|' ∉ location ∧ '|' ∉ rule := by
  unfold fields?
  simp only [Option.bind_eq_bind, Option.bind_eq_some_iff, Prod.exists, cutFirst?_eq_some,
    cutLast?_eq_some, Option.some.injEq, Prod.mk.injEq]
  constructor
  · rintro ⟨_, rest, ⟨htext, hl⟩, _, _, ⟨rfl, hp⟩, _, _, ⟨rfl, hr⟩, rfl, rfl, rfl, rfl⟩
    exact ⟨htext, hl, hp, hr⟩
  · rintro ⟨htext, hl, hp, hr⟩
    exact ⟨_, _, ⟨htext, hl⟩, _, _, ⟨rfl, hp⟩, _, _, ⟨rfl, hr⟩, rfl, rfl, rfl, rfl⟩

/-- A numeral behind the last colon is taken for the line. -/
theorem splitLocation_append {front numeral : List Char} (hc : ':' ∉ numeral)
    (hn : isNumeral numeral = true) :
    splitLocation (front ++ ':' :: numeral) = (front, some numeral) := by
  have hcut : cutLast? ':' (front ++ ':' :: numeral) = some (front, numeral) :=
    cutLast?_eq_some.mpr ⟨rfl, hc⟩
  unfold splitLocation
  rw [hcut]
  dsimp only
  rw [if_pos hn]

/-- Any other location is a file. -/
theorem splitLocation_of_not {location : List Char} (h : ¬EndsInNumeral location) :
    splitLocation location = (location, none) := by
  unfold splitLocation
  cases hcut : cutLast? ':' location with
  | none => rfl
  | some parts =>
    obtain ⟨front, numeral⟩ := parts
    obtain ⟨htext, hc⟩ := cutLast?_eq_some.mp hcut
    dsimp only
    rw [if_neg fun hn => h ⟨front, numeral, htext, hc, hn⟩]

/-- The text of a label holds no bar. -/
theorem bar_not_mem_label {value : Value} (h : value.IsLabel) :
    '|' ∉ (if value.isGiven then value.display else "").toList := by
  rcases h.cases with ⟨-, hg⟩ | ⟨text, -, hg, hd, -, hbar⟩
  · simp [hg]
  · rwa [if_pos hg, hd]

/-- A label is read back from its text. -/
theorem ofText?_nonEmpty?_label {value : Value} (h : value.IsLabel) :
    Value.ofText? (nonEmpty? (if value.isGiven then value.display else "").toList) = value := by
  rcases h.cases with ⟨rfl, hg⟩ | ⟨text, rfl, hg, hd, hne, -⟩
  · simp [hg, nonEmpty?, Value.ofText?]
  · have he : text.toList.isEmpty = false := by simp [hne]
    rw [if_pos hg, hd, nonEmpty?, he]
    simp [Value.ofText?]

/-- The characters of a line, field by field. -/
theorem toList_encode (issue : Issue) :
    issue.encode.toList = [issue.severity.letter] ++ '|' :: (issue.encodeLocation.toList ++
      '|' :: (issue.message.display.toList ++ '|' :: issue.ruleText.toList)) := by
  simp [encode, String.toList_append]

/-- Without a line the location is the file. -/
theorem encodeLocation_of_null {issue : Issue} (h : issue.line = .null) :
    issue.encodeLocation = issue.fileText := by
  rw [encodeLocation, h]
  rfl

/-- A line above zero stands behind the last colon of the location. -/
theorem toList_encodeLocation_of_int {issue : Issue} {n : Nat} (h : issue.line = .int n) (hn : 0 < n) :
    issue.encodeLocation.toList = issue.fileText.toList ++ ':' :: Nat.toDigits 10 n := by
  have hg : (Value.int n).isGiven = true := by
    simp only [Value.isGiven, bne_iff_ne, ne_eq]
    omega
  rw [encodeLocation, h, if_pos hg, String.toList_append, String.toList_append,
    toList_display_natCast]
  simp

/-- The location of a plain issue holds no bar. -/
theorem IsPlain.bar_not_mem_encodeLocation {issue : Issue} (h : issue.IsPlain) :
    '|' ∉ issue.encodeLocation.toList := by
  have hf : '|' ∉ issue.fileText.toList := bar_not_mem_label h.file
  rcases h.line with hnull | ⟨n, hint, hn, -⟩
  · rwa [encodeLocation_of_null hnull]
  · have hd := not_mem_toDigits (c := '|') (by decide) n
    rw [toList_encodeLocation_of_int hint hn]
    simp [hf, hd]

/-- The fields of a plain issue are found in its line. -/
theorem IsPlain.fields?_encode {issue : Issue} (h : issue.IsPlain) :
    fields? issue.encode.toList =
      some ([issue.severity.letter], issue.encodeLocation.toList, issue.message.display.toList,
        issue.ruleText.toList) :=
  fields?_eq_some.mpr ⟨toList_encode issue, bar_not_mem_letter issue.severity,
    h.bar_not_mem_encodeLocation, bar_not_mem_label h.rule⟩

/-- A plain issue is read back with its severity, message and rule; its file and
its line are those that its location shows. -/
theorem IsPlain.decode_encode {issue : Issue} (h : issue.IsPlain) {file : List Char}
    {numeral : Option (List Char)}
    (hs : splitLocation issue.encodeLocation.toList = (file, numeral)) :
    decode issue.encode = (do
      let line ← match numeral with
        | some numeral => Value.int <$> lineNumber numeral
        | none => .ok .null
      .ok { issue with file := .ofText? (nonEmpty? file), line, fix := .null }) := by
  obtain ⟨text, hm⟩ := h.message
  have hr : Value.ofText? (nonEmpty? issue.ruleText.toList) = issue.rule := ofText?_nonEmpty?_label h.rule
  have hd : String.ofList (Value.text text).display.toList = text := String.ofList_toList
  unfold decode
  rw [h.fields?_encode]
  dsimp only
  rw [ofLetter_letter, hs, hr, hm, hd]
  cases numeral <;> rfl

/-- The line of a plain issue is read back with it. -/
theorem IsPlain.decode_encode_of_line {issue : Issue} (h : issue.IsPlain) {n : Nat}
    (hline : issue.line = .int n) (hn : 0 < n) (hw : isWritable n = true) :
    decode issue.encode = .ok issue.withoutFix := by
  have hc := not_mem_toDigits (c := ':') (by decide) n
  have hs : splitLocation issue.encodeLocation.toList =
      (issue.fileText.toList, some (Nat.toDigits 10 n)) := by
    rw [toList_encodeLocation_of_int hline hn]
    exact splitLocation_append hc (isNumeral_toDigits n)
  have hf : Value.ofText? (nonEmpty? issue.fileText.toList) = issue.file := ofText?_nonEmpty?_label h.file
  have hl : lineNumber (Nat.toDigits 10 n) = .ok (n : Int) := by
    rw [lineNumber, toNat?_toDigits (isWritable_natCast.mp hw)]
  rw [h.decode_encode hs, hf]
  dsimp only
  rw [hl, withoutFix, hline]
  rfl

/-- A file that shows no line is read back whole. -/
theorem IsPlain.decode_encode_of_file {issue : Issue} (h : issue.IsPlain)
    (hline : issue.line = .null) (hfile : ¬EndsInNumeral issue.fileText.toList) :
    decode issue.encode = .ok issue.withoutFix := by
  have hs : splitLocation issue.encodeLocation.toList = (issue.fileText.toList, none) := by
    rw [encodeLocation_of_null hline]
    exact splitLocation_of_not hfile
  have hf : Value.ofText? (nonEmpty? issue.fileText.toList) = issue.file := ofText?_nonEmpty?_label h.file
  rw [h.decode_encode hs, hf, withoutFix, ←hline]
  rfl

/-- A file that shows a line is never read back without one. -/
theorem IsPlain.line_ne_null_of_decode {issue found : Issue} (h : issue.IsPlain)
    (hline : issue.line = .null) (hfile : EndsInNumeral issue.fileText.toList)
    (hd : decode issue.encode = .ok found) : found.line ≠ .null := by
  obtain ⟨front, numeral, htext, hc, hn⟩ := hfile
  have hs : splitLocation issue.encodeLocation.toList = (front, some numeral) := by
    rw [encodeLocation_of_null hline, htext]
    exact splitLocation_append hc hn
  rw [h.decode_encode hs] at hd
  dsimp only at hd
  cases hl : lineNumber numeral with
  | error fault =>
    rw [hl] at hd
    cases hd
  | ok n =>
    rw [hl] at hd
    cases hd
    exact fun he => by cases he

/-- A plain issue hides a line exactly if it has none and the text of its file
shows one. -/
theorem IsPlain.hidesLine_iff {issue : Issue} (h : issue.IsPlain) :
    issue.HidesLine ↔ issue.line = .null ∧ EndsInNumeral issue.fileText.toList := by
  refine and_congr_right fun _ => ?_
  rcases h.file.cases with ⟨hnull, hg⟩ | ⟨text, htext, hg, hd, -, -⟩
  · have he : issue.fileText.toList = [] := by rw [fileText, hg]; rfl
    rw [hnull, he]
    constructor
    · rintro ⟨file, hfile, -⟩
      cases hfile
    · rintro ⟨front, numeral, hparts, -⟩
      simp at hparts
  · have he : issue.fileText = text := by rw [fileText, if_pos hg, hd]
    rw [htext, he]
    constructor
    · rintro ⟨file, hfile, hends⟩
      cases hfile
      exact hends
    · exact fun hends => ⟨text, rfl, hends⟩

/-- A plain issue is read back from its line, all but its fix, exactly unless it
has no line and its file ends in a colon and digits. -/
theorem decode_encode_iff {issue : Issue} (h : issue.IsPlain) :
    decode issue.encode = .ok issue.withoutFix ↔ ¬issue.HidesLine := by
  rw [h.hidesLine_iff]
  constructor
  · rintro hd ⟨hline, hfile⟩
    exact h.line_ne_null_of_decode hline hfile hd hline
  · intro hh
    rcases h.line with hnull | ⟨n, hint, hn, hw⟩
    · exact h.decode_encode_of_file hnull fun hfile => hh ⟨hnull, hfile⟩
    · exact h.decode_encode_of_line hint hn hw

/-- A superscript is a digit that no line number is read from, so this issue is
plain, hides a line and is not read back. -/
theorem decode_encode_iff_superscript :
    let issue : Issue :=
      { severity := .warning, message := .text "a|b: c|", file := .text "src/a.ts:²" }
    issue.IsPlain ∧ issue.HidesLine ∧ decode issue.encode ≠ .ok issue.withoutFix := by
  intro issue
  have hplain : issue.IsPlain :=
    ⟨⟨_, rfl⟩, .inr ⟨_, rfl, by decide, by decide⟩, .inl rfl, .inl rfl⟩
  have hides : issue.HidesLine :=
    ⟨rfl, _, rfl, "src/a.ts".toList, ['²'], by decide, by decide, by decide⟩
  exact ⟨hplain, hides, fun hd => (decode_encode_iff hplain).mp hd hides⟩

end Issue

end Checkup
