import Checkup.Dialect.Jscpd
import Checkup.Proofs.Announcements
import Checkup.Proofs.TextSpans
import Checkup.Proofs.ScannedText

/-!
# Numbers in reports of duplicates

A block about a duplicate names the first and the last line of two places and a number of
lines. Every step of its recognition leaves an end of the text it was given, so in a text
with short runs of digits all five numbers can be read, whether the block stands in one
piece or its places are searched among its lines.
-/

namespace Checkup

namespace Text.RunsWithin

variable {bound : Nat} {text rest : List Char}

/-- The runs behind a start are runs of the text. -/
theorem after? {start : List Char} (h : RunsWithin bound text) (ha : after? start text = some rest) :
    RunsWithin bound rest := by
  rw [after?_eq_some.mp ha] at h
  exact h.of_isInfix (List.suffix_append start rest).isInfix

/-- The runs behind characters that are dropped are runs of the text. -/
theorem dropWhile (h : RunsWithin bound text) (admits : Char → Bool) :
    RunsWithin bound (text.dropWhile admits) :=
  h.of_isInfix (text.dropWhile_suffix admits).isInfix

/-- The runs behind the blanks at the start are runs of the text. -/
theorem trimStart (h : RunsWithin bound text) : RunsWithin bound (trimStart text) := h.dropWhile isBlank

end Text.RunsWithin

namespace Jscpd

open Text

/-- Digits that can be read as a number. -/
def IsReadable (digits : List Char) : Prop := ∃ n, toNat? digits = some n

/-- A span whose two lines can be read. -/
def Span.IsReadable (span : Span) : Prop := Jscpd.IsReadable span.first ∧ Jscpd.IsReadable span.last

/-- A clone all numbers of which can be read. -/
structure Clone.IsReadable (clone : Clone) : Prop where
  firstSpan : clone.firstSpan.IsReadable
  secondSpan : clone.secondSpan.IsReadable
  count : Jscpd.IsReadable clone.count

/-! ## Parts of a block -/

variable {text rest : List Char}

/-- The line of a position can be read. -/
theorem takePosition?_readable {line : List Char} (h : RunsWithin maxDigits text)
    (ht : takePosition? text = some (line, rest)) : IsReadable line ∧ RunsWithin maxDigits rest := by
  unfold takePosition? at ht
  obtain ⟨⟨digits, tail⟩, hdigits, ht⟩ := Option.bind_eq_some_iff.mp ht
  obtain ⟨behind, hcolon, ht⟩ := Option.bind_eq_some_iff.mp ht
  obtain ⟨⟨column, further⟩, hcolumn, ht⟩ := Option.bind_eq_some_iff.mp ht
  cases ht
  obtain ⟨hread, htail⟩ := h.takeDigits? hdigits
  exact ⟨hread, ((htail.after? hcolon).takeDigits? hcolumn).2⟩

/-- The lines of a span can be read. -/
theorem takeSpan?_readable {span : Span} (h : RunsWithin maxDigits text)
    (ht : takeSpan? text = some (span, rest)) : span.IsReadable ∧ RunsWithin maxDigits rest := by
  unfold takeSpan? at ht
  obtain ⟨start, hstart, ht⟩ := Option.bind_eq_some_iff.mp ht
  obtain ⟨⟨first, tail⟩, hfirst, ht⟩ := Option.bind_eq_some_iff.mp ht
  obtain ⟨behind, hhyphen, ht⟩ := Option.bind_eq_some_iff.mp ht
  obtain ⟨⟨last, further⟩, hlast, ht⟩ := Option.bind_eq_some_iff.mp ht
  obtain ⟨end_, hend, ht⟩ := Option.bind_eq_some_iff.mp ht
  cases ht
  obtain ⟨hreadFirst, htail⟩ := takePosition?_readable (h.after? hstart) hfirst
  obtain ⟨hreadLast, hfurther⟩ := takePosition?_readable (htail.trimStart.after? hhyphen).trimStart hlast
  exact ⟨⟨hreadFirst, hreadLast⟩, hfurther.after? hend⟩

/-- A number of lines can be read. -/
theorem takeLineCount?_readable {count : List Char} (h : RunsWithin maxDigits text)
    (ht : takeLineCount? text = some (count, rest)) : IsReadable count ∧ RunsWithin maxDigits rest := by
  unfold takeLineCount? at ht
  obtain ⟨start, hstart, ht⟩ := Option.bind_eq_some_iff.mp ht
  obtain ⟨⟨digits, tail⟩, hdigits, ht⟩ := Option.bind_eq_some_iff.mp ht
  obtain ⟨behind, hlines, ht⟩ := Option.bind_eq_some_iff.mp ht
  cases ht
  obtain ⟨hread, htail⟩ := (h.trimStart.after? hstart).takeDigits? hdigits
  exact ⟨hread, htail.trimStart.after? hlines⟩

/-- The span behind the shortest file can be read. -/
theorem readable_of_shortest {admits : Char → Bool} {file : List Char} {span : Span}
    (h : RunsWithin maxDigits text)
    (hs : shortest admits (fun rest => (takeSpan? (trimStart rest)).map (·.1)) text = some (file, span)) :
    span.IsReadable := by
  obtain ⟨-, -, rest, rfl, hspan⟩ := shortest_eq_some hs
  obtain ⟨⟨found, further⟩, hfound, rfl⟩ := Option.map_eq_some_iff.mp hspan
  exact (takeSpan?_readable (h.of_isInfix (List.suffix_append file rest).isInfix).trimStart hfound).1

/-- The span of a second place on the next line can be read. -/
theorem nextLine?_readable {file : List Char} {span : Span} (h : RunsWithin maxDigits text)
    (ht : nextLine? text = some (file, span)) : span.IsReadable := by
  unfold nextLine? at ht
  split at ht
  · next rest hrest =>
    obtain ⟨⟨blanks, found⟩, hlongest, rfl⟩ := Option.map_eq_some_iff.mp ht
    obtain ⟨-, place, rfl, hplace⟩ := longest_eq_some hlongest
    have hrest := (h.dropWhile _).after? hrest
    exact readable_of_shortest (hrest.of_isInfix (List.suffix_append blanks place).isInfix) hplace
  · cases ht

/-! ## Blocks in one piece -/

/-- What follows the first file can be read. -/
theorem firstTail?_readable {firstSpan secondSpan : Span} {count second : List Char}
    (h : RunsWithin maxDigits text) (ht : firstTail? text = some (firstSpan, count, second, secondSpan)) :
    firstSpan.IsReadable ∧ IsReadable count ∧ secondSpan.IsReadable := by
  unfold firstTail? at ht
  obtain ⟨⟨span, tail⟩, hspan, ht⟩ := Option.bind_eq_some_iff.mp ht
  obtain ⟨⟨digits, behind⟩, hcount, ht⟩ := Option.bind_eq_some_iff.mp ht
  obtain ⟨further, hbracket, ht⟩ := Option.bind_eq_some_iff.mp ht
  obtain ⟨⟨file, place⟩, hplace, ht⟩ := Option.bind_eq_some_iff.mp ht
  cases ht
  obtain ⟨hreadSpan, htail⟩ := takeSpan?_readable h.trimStart hspan
  obtain ⟨hreadCount, hbehind⟩ := takeLineCount?_readable htail hcount
  exact ⟨hreadSpan, hreadCount, nextLine?_readable ((hbehind.dropWhile _).after? hbracket) hplace⟩

/-- All numbers of a block in one piece can be read. -/
theorem block?_readable {clone : Clone} (h : RunsWithin maxDigits text) (ht : block? text = some clone) :
    clone.IsReadable := by
  unfold block? at ht
  obtain ⟨start, hstart, ht⟩ := Option.bind_eq_some_iff.mp ht
  obtain ⟨⟨language, tail⟩, hlanguage, ht⟩ := Option.bind_eq_some_iff.mp ht
  obtain ⟨behind, hbracket, ht⟩ := Option.bind_eq_some_iff.mp ht
  have htail : RunsWithin maxDigits tail := by
    rw [(run?_eq_some hlanguage).2.2]
    exact (h.after? hstart).dropWhile _
  have hbehind := (htail.after? hbracket).trimStart
  dsimp only at ht
  split at ht
  · obtain ⟨place, hplace, ht⟩ := Option.bind_eq_some_iff.mp ht
    obtain ⟨⟨blanks, first, firstSpan, count, second, secondSpan⟩, hfound, ht⟩ :=
      Option.bind_eq_some_iff.mp ht
    cases ht
    obtain ⟨-, rest, rfl, hshortest⟩ := longest_eq_some hfound
    obtain ⟨-, -, further, rfl, hfurther⟩ := shortest_eq_some hshortest
    have hrest := (hbehind.after? hplace).of_isInfix (List.suffix_append _ _).isInfix
    obtain ⟨hreadFirst, hreadCount, hreadSecond⟩ :=
      firstTail?_readable (hrest.of_isInfix (List.suffix_append _ _).isInfix) hfurther
    exact ⟨hreadFirst, hreadSecond, hreadCount⟩
  · cases ht

/-! ## Blocks in several pieces -/

/-- The span and the number of lines of a first place can be read. -/
theorem firstPlace?_readable {first count : List Char} {span : Span} (h : RunsWithin maxDigits text)
    (ht : firstPlace? text = some (first, span, count)) : span.IsReadable ∧ IsReadable count := by
  unfold firstPlace? at ht
  obtain ⟨start, hstart, ht⟩ := Option.bind_eq_some_iff.mp ht
  obtain ⟨⟨blanks, found⟩, hfound, ht⟩ := Option.bind_eq_some_iff.mp ht
  cases ht
  obtain ⟨-, rest, rfl, hshortest⟩ := longest_eq_some hfound
  obtain ⟨-, -, further, rfl, hfurther⟩ := shortest_eq_some hshortest
  have hrest := (h.after? hstart).of_isInfix (List.suffix_append _ _).isInfix
  have hend := hrest.of_isInfix (List.suffix_append _ _).isInfix
  unfold looseTail? at hfurther
  obtain ⟨⟨place, tail⟩, hplace, hfurther⟩ := Option.bind_eq_some_iff.mp hfurther
  obtain ⟨⟨digits, behind⟩, hcount, hfurther⟩ := Option.bind_eq_some_iff.mp hfurther
  cases hfurther
  obtain ⟨hreadSpan, htail⟩ := takeSpan?_readable hend.trimStart hplace
  exact ⟨hreadSpan, (takeLineCount?_readable htail hcount).1⟩

/-- The span of a second place on a line of its own can be read. -/
theorem secondLine?_readable {line file : List Char} {span : Span} (h : RunsWithin maxDigits line)
    (ht : secondLine? line = some (file, span)) : span.IsReadable := by
  have hstart := h.trimStart
  unfold secondLine? at ht
  split at ht
  · next c rest heq =>
    rw [heq] at hstart
    split at ht
    · cases ht
    · exact readable_of_shortest hstart ht
  · exact readable_of_shortest hstart ht

/-- All numbers of a block whose places are searched can be read, if those of the first
place can that was found already. -/
theorem searchBlock_readable {found : Option (List Char × Span × List Char)} {lines : List (List Char)}
    {clone : Clone} (hl : ∀ line ∈ lines, RunsWithin maxDigits line)
    (hf : ∀ first span count, found = some (first, span, count) → span.IsReadable ∧ IsReadable count)
    (h : searchBlock found lines = some clone) : clone.IsReadable := by
  induction lines generalizing found with
  | nil =>
    unfold searchBlock at h
    cases h
  | cons line rest ih =>
    have hrest : ∀ each ∈ rest, RunsWithin maxDigits each := fun each he => hl each (List.mem_cons_of_mem line he)
    have hline := hl line List.mem_cons_self
    cases found with
    | none =>
      rw [searchBlock] at h
      refine ih hrest (fun first span count hfound => ?_) h
      rw [firstSighting_eq_head?] at hfound
      obtain ⟨before, behind, hbehind, hplace⟩ := exists_of_mem_sightings (List.mem_of_mem_head? hfound)
      exact firstPlace?_readable (hline.of_isInfix hbehind.isInfix) hplace
    | some found =>
      obtain ⟨first, span, count⟩ := found
      obtain ⟨hspan, hcount⟩ := hf first span count rfl
      rw [searchBlock] at h
      split at h
      · next second secondSpan hsecond =>
        cases h
        exact ⟨hspan, secondLine?_readable hline hsecond, hcount⟩
      · exact ih hrest hf h

/-! ## Reading the numbers -/

/-- What can be read is read. -/
theorem number_succeeds {digits : List Char} (h : IsReadable digits) : Succeeds (number digits) := by
  obtain ⟨n, hn⟩ := h
  unfold number
  rw [hn]
  exact .ok n

/-- A clone whose numbers can be read is read. -/
theorem Clone.IsReadable.read_succeeds {clone : Clone} (h : clone.IsReadable) : Succeeds clone.read := by
  have hspan : ∀ {span : Span}, span.IsReadable → Succeeds span.numbers := fun hs =>
    .bind (number_succeeds hs.1) fun _ => .bind (number_succeeds hs.2) fun _ => .ok _
  exact .bind (hspan h.firstSpan) fun _ => .bind (hspan h.secondSpan) fun _ =>
    .bind (number_succeeds h.count) fun _ => .ok _

/-- The blocks of a text with short runs can be read. -/
theorem isReadable_of_mem_blocks {clone : Clone} (h : RunsWithin maxDigits text) (hc : clone ∈ blocks text) :
    clone.IsReadable := by
  obtain ⟨before, rest, hrest, hblock⟩ := exists_of_mem_sightings hc
  exact block?_readable (h.of_isInfix hrest.isInfix) hblock

/-- What stands before a mark starts the text. -/
theorem upTo_isPrefix (mark text : List Char) : upTo mark text <+: text := by
  induction text with
  | nil => exact List.nil_prefix
  | cons c rest ih =>
    rw [upTo]
    split
    · exact List.nil_prefix
    · exact List.cons_prefix_cons.mpr ⟨rfl, ih⟩

/-- The parts behind the marks are passages of the text. -/
theorem isInfix_of_mem_partsAfter {mark part : List Char} (h : part ∈ partsAfter mark text) :
    part <:+: text := by
  obtain ⟨behind, hbehind, rfl⟩ := List.mem_map.mp h
  obtain ⟨before, rest, hrest, hmark⟩ := exists_of_mem_sightings hbehind
  have hsuffix : behind <:+ rest := by
    rw [after?_eq_some.mp hmark]
    exact List.suffix_append mark behind
  exact (upTo_isPrefix mark behind).isInfix.trans (hsuffix.trans hrest).isInfix

variable {root : Option String} {stdout stderr : String}

/-- A duplicate gives its issue. -/
theorem issueOf_succeeds (h : Value.isBadRoot root = false) (duplicate : Duplicate) :
    Succeeds (issueOf root duplicate) :=
  .bind (Value.toPath_succeeds h _) fun _ => .bind (Value.toPath_succeeds h _) fun _ => .ok _

/-- A text with short runs gives the issues of its blocks. -/
theorem issuesOfText_succeeds (h : Value.isBadRoot root = false) {text : String}
    (hr : RunsWithin maxDigits text.toList) : Succeeds (issuesOfText root text) := by
  refine .bind (.mapM fun clone hclone => ?_) fun clones => .mapM fun duplicate _ => issueOf_succeeds h duplicate
  obtain ⟨part, hpart, hsearch⟩ := List.mem_filterMap.mp hclone
  have hlines : ∀ line ∈ (lines part).drop 1, RunsWithin maxDigits line := fun line hline =>
    hr.of_isInfix ((isInfix_of_mem_lines (List.mem_of_mem_drop hline)).trans (isInfix_of_mem_partsAfter hpart))
  have hnone : ∀ first span count, (none : Option (List Char × Span × List Char)) = some (first, span, count) →
      span.IsReadable ∧ IsReadable count := fun _ _ _ hfound => by cases hfound
  exact (searchBlock_readable hlines hnone hsearch).read_succeeds

/-- Output with short runs is recognised, and as text it is scanned without its colours. -/
theorem read_succeeds (hr : RunsWithin maxDigits (scanned stdout stderr).toList) :
    ∃ reading, read stdout stderr = .ok reading ∧
      ∀ text, reading = .text text → text = scanned stdout stderr := by
  unfold read
  dsimp only
  split
  · exact ⟨_, rfl, fun text ht => by cases ht⟩
  · obtain ⟨clones, hclones⟩ : Succeeds ((blocks (scanned stdout stderr).toList).mapM Clone.read) :=
      .mapM fun clone hclone => (isReadable_of_mem_blocks hr hclone).read_succeeds
    refine ⟨_, bind_eq_ok_iff.mpr ⟨clones, hclones, rfl⟩, fun text ht => ?_⟩
    split at ht
    · cases ht
    · cases ht
      rfl

end Jscpd

end Checkup
