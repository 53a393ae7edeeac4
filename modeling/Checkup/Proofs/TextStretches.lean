import Checkup.Proofs.ScannedText
import Checkup.Proofs.SeparateFindings
import Checkup.Proofs.SmallLetters

/-!
# Stretches and where they end

What a reader with several ways to stop takes is told from both sides: it takes a stretch if it
succeeds behind it and nowhere before, and where a character that it cannot take stands, it stops.
So a text that is put together from known parts is cut into these parts again, be it by a
pattern, by the ends of its lines, or by a mark that some of the parts start with.
-/

namespace Checkup.Text

variable {α : Type} {admits : Char → Bool} {next : List Char → Option α} {found : α}

/-- Where a run does not hold a character, it ends before the first place of the character. -/
theorem exists_append_of_not_mem {run rest part back : List Char} {c : Char}
    (h : run ++ rest = part ++ c :: back) (hc : c ∉ run) :
    ∃ left, part = run ++ left ∧ rest = left ++ c :: back := by
  rcases List.append_eq_append_iff.mp h with hshort | ⟨more, hrun, hback⟩
  · exact hshort
  · cases more with
    | nil => exact ⟨[], by rw [hrun, List.append_nil, List.append_nil], hback.symm⟩
    | cons d more =>
      obtain ⟨rfl, -⟩ := List.cons_eq_cons.mp hback
      rw [hrun] at hc
      exact absurd (List.mem_append_right part List.mem_cons_self) hc

/-- Two words before blanks of one text are the same. -/
theorem eq_of_append_blank {word other tail back : List Char} {b d : Char} (hw : ∀ c ∈ word, isBlank c = false)
    (ho : ∀ c ∈ other, isBlank c = false) (hb : isBlank b = true) (hd : isBlank d = true)
    (h : word ++ b :: tail = other ++ d :: back) : word = other := by
  have hspan : ∀ {part rest : List Char} {blank : Char}, (∀ c ∈ part, isBlank c = false) → isBlank blank = true →
      (part ++ blank :: rest).takeWhile (fun c => !isBlank c) = part := by
    intro part rest blank hpart hblank
    exact (span_append (fun c hc => by rw [hpart c hc]; rfl) (stops_cons (by rw [hblank]; rfl) rest)).1
  rw [← hspan hw hb, h, hspan ho hd]

/-- What holds of the ends of two parts holds of the ends of the text that they make up. -/
theorem forall_suffix_append {holds : List Char → Prop} {front back : List Char}
    (hb : ∀ text, text <:+ back → holds text) (hf : ∀ left, left ≠ [] → left <:+ front → holds (left ++ back)) :
    ∀ text, text <:+ front ++ back → holds text := by
  induction front with
  | nil => exact hb
  | cons c front ih =>
    intro text htext
    rcases List.suffix_cons_iff.mp htext with rfl | htext
    · exact hf (c :: front) (List.cons_ne_nil c front) (List.suffix_refl _)
    · exact ih (fun left hne hleft => hf left hne (hleft.trans (List.suffix_cons c front))) text htext

/-- Parts that are not empty are joined to a text that starts as one of them does and ends as one of them does. -/
theorem ends_intercalate {separator : List Char} {parts : List (List Char)} (hp : ∀ part ∈ parts, part ≠ [])
    (hne : parts ≠ []) :
    (∃ part ∈ parts, ∃ more, separator.intercalate parts = part ++ more ∧ (more = [] ∨ separator <+: more)) ∧
      ∃ part ∈ parts, ∃ front, separator.intercalate parts = front ++ part := by
  induction parts with
  | nil => exact absurd rfl hne
  | cons part parts ih =>
    cases parts with
    | nil =>
      have hone : separator.intercalate [part] = part := List.intercalate_singleton
      exact ⟨⟨part, List.mem_cons_self, [], by rw [hone, List.append_nil], .inl rfl⟩,
        ⟨part, List.mem_cons_self, [], by rw [hone, List.nil_append]⟩⟩
    | cons next parts =>
      have hjoined : separator.intercalate (part :: next :: parts) =
          part ++ (separator ++ separator.intercalate (next :: parts)) := by
        rw [List.intercalate_cons_cons, List.append_assoc]
      obtain ⟨-, last, hlast, front, hfront⟩ :=
        ih (fun each he => hp each (List.mem_cons_of_mem part he)) (List.cons_ne_nil next parts)
      refine ⟨⟨part, List.mem_cons_self, _, hjoined, .inr (List.prefix_append _ _)⟩,
        ⟨last, List.mem_cons_of_mem part hlast, part ++ (separator ++ front), ?_⟩⟩
      rw [hjoined, hfront]
      simp only [List.append_assoc]

/-- A text ends as its last part does, if that part is not empty. -/
theorem getLast?_append_of_ne_nil (front : List Char) {back : List Char} (h : back ≠ []) :
    (front ++ back).getLast? = back.getLast? := by
  rw [List.getLast?_append, List.getLast?_eq_some_getLast h]
  rfl

/-- What holds of each of some characters can be checked. -/
theorem forall_mem_of_all {holds : Char → Prop} [DecidablePred holds] {chars : List Char}
    (h : (chars.all fun c => decide (holds c)) = true) : ∀ c ∈ chars, holds c :=
  fun c hc => of_decide_eq_true (List.all_eq_true.mp h c hc)

/-! ## Patterns -/

/-- A shortest stretch ends where the continuation succeeds for the first time. -/
theorem shortest_append {stretch back : List Char} (hne : stretch ≠ []) (ha : ∀ c ∈ stretch, admits c = true)
    (hn : ∀ left, left ≠ [] → left <:+ stretch → next (left ++ back) = none) (hf : next back = some found) :
    shortest admits next (stretch ++ back) = some (stretch, found) := by
  induction stretch with
  | nil => exact absurd rfl hne
  | cons c stretch ih =>
    obtain ⟨hc, hrest⟩ := List.forall_mem_cons.mp ha
    rw [List.cons_append, shortest, if_pos hc]
    cases stretch with
    | nil => rw [List.nil_append, hf]
    | cons d stretch =>
      have hlater := hn (d :: stretch) (List.cons_ne_nil d stretch) (List.suffix_cons c _)
      have hshortest := ih (List.cons_ne_nil d stretch) hrest fun left hleft hsuffix =>
        hn left hleft (hsuffix.trans (List.suffix_cons c _))
      rw [hlater, hshortest]

/-- A longest stretch takes all that is admitted if the continuation succeeds behind it. -/
theorem longest_append {stretch back : List Char} (ha : ∀ c ∈ stretch, admits c = true)
    (hs : Stops admits back) (hf : next back = some found) :
    longest admits next (stretch ++ back) = some (stretch, found) := by
  induction stretch with
  | nil =>
    cases back with
    | nil => rw [List.append_nil, longest, hf, Option.map_some]
    | cons c back => rw [List.nil_append, longest, hs c rfl, if_neg Bool.false_ne_true, hf, Option.map_some]
  | cons c stretch ih =>
    obtain ⟨hc, hrest⟩ := List.forall_mem_cons.mp ha
    rw [List.cons_append, longest, if_pos hc, ih hrest]

/-- Where the continuation fails behind every stretch there is no shortest one. -/
theorem shortest_eq_none {text : List Char}
    (h : ∀ stretch rest, text = stretch ++ rest → stretch.all admits = true → next rest = none) :
    shortest admits next text = none := by
  refine Option.eq_none_iff_forall_ne_some.mpr fun ⟨stretch, found⟩ hfound => ?_
  obtain ⟨-, hall, rest, htext, hrest⟩ := shortest_eq_some hfound
  rw [h stretch rest htext hall] at hrest
  cases hrest

/-- Where the continuation fails behind every stretch there is no longest one. -/
theorem longest_eq_none {text : List Char}
    (h : ∀ stretch rest, text = stretch ++ rest → stretch.all admits = true → next rest = none) :
    longest admits next text = none := by
  refine Option.eq_none_iff_forall_ne_some.mpr fun ⟨stretch, found⟩ hfound => ?_
  obtain ⟨hall, rest, htext, hrest⟩ := longest_eq_some hfound
  rw [h stretch rest htext hall] at hrest
  cases hrest

/-! ## Blanks -/

/-- Where a run cannot start nothing is dropped. -/
theorem dropWhile_eq_self {text : List Char} (h : Stops admits text) : text.dropWhile admits = text := by
  cases text with
  | nil => rfl
  | cons c text => exact List.dropWhile_cons_of_neg (Bool.eq_false_iff.mp (h c rfl))

/-- A text without blanks loses nothing at its start. -/
theorem trimStart_eq_self {text : List Char} (h : Stops isBlank text) : trimStart text = text := dropWhile_eq_self h

/-- Blanks before a text are taken away with those at its start. -/
theorem trimStart_append {blanks : List Char} (hb : allBlank blanks = true) (text : List Char) :
    trimStart (blanks ++ text) = trimStart text :=
  List.dropWhile_append_of_pos (List.all_eq_true.mp hb)

/-- A text with more than blanks somewhere is not blank. -/
theorem not_allBlank_of_isInfix {part text : List Char} (h : allBlank part = false) (hp : part <:+: text) :
    allBlank text = false := by
  rw [Bool.eq_false_iff]
  intro hb
  rw [allBlank_of_isInfix hb hp] at h
  cases h

/-- Of a part with more than blanks something is left, and what follows the part is left with it. -/
theorem exists_trimStart_append {part : List Char} (h : allBlank part = false) (back : List Char) :
    ∃ c more, c ∈ part ∧ trimStart part = c :: more ∧ trimStart (part ++ back) = c :: (more ++ back) := by
  induction part with
  | nil => cases h
  | cons c part ih =>
    by_cases hc : isBlank c = true
    · have hpart : allBlank part = false := by
        rwa [allBlank, List.all_cons, hc, Bool.true_and] at h
      obtain ⟨d, more, hd, hleft, hback⟩ := ih hpart
      refine ⟨d, more, List.mem_cons_of_mem c hd, ?_, ?_⟩
      · rwa [trimStart, List.dropWhile_cons_of_pos hc]
      · rwa [List.cons_append, trimStart, List.dropWhile_cons_of_pos hc]
    · refine ⟨c, part, List.mem_cons_self, ?_, ?_⟩
      · rw [trimStart, List.dropWhile_cons_of_neg hc]
      · rw [List.cons_append, trimStart, List.dropWhile_cons_of_neg hc]

/-- A text without blanks is left as it is. -/
theorem trim_eq_self {text : List Char} (h : ∀ c ∈ text, isBlank c = false) : trim text = text := by
  have hend : trimEnd text = text := by
    induction text with
    | nil => rfl
    | cons c text ih =>
      obtain ⟨hc, hrest⟩ := List.forall_mem_cons.mp h
      rw [trimEnd, ih hrest]
      cases text with
      | nil => exact if_neg (by rw [hc]; exact Bool.false_ne_true)
      | cons d text => rfl
  rw [trim, trimStart_eq_self fun c hc => h c (List.mem_of_mem_head? hc), hend]

/-- A text without the blanks at its end starts it. -/
theorem trimEnd_isPrefix (text : List Char) : trimEnd text <+: text := by
  induction text with
  | nil => exact List.prefix_refl []
  | cons c text ih =>
    rw [trimEnd]
    split
    · split
      · exact List.nil_prefix
      · exact ⟨text, rfl⟩
    · exact List.cons_prefix_cons.mpr ⟨rfl, ih⟩

/-- The last character that is left is no blank. -/
theorem isBlank_of_getLast_trimEnd (text : List Char) : ∀ c ∈ (trimEnd text).getLast?, isBlank c = false := by
  induction text with
  | nil => exact fun c hc => by cases hc
  | cons d text ih =>
    rw [trimEnd]
    split
    · split
      · exact fun c hc => by cases hc
      · next hd =>
        rintro c hc
        cases hc
        exact Bool.eq_false_iff.mpr hd
    · next hne =>
      intro c hc
      obtain ⟨e, more, hmore⟩ := List.exists_cons_of_ne_nil hne
      rw [hmore, List.getLast?_cons_cons] at hc
      exact ih c (by rw [hmore]; exact hc)

/-- A text whose first character is no blank keeps it. -/
theorem trimEnd_cons {c : Char} (h : isBlank c = false) (text : List Char) :
    trimEnd (c :: text) = c :: trimEnd text := by
  rw [trimEnd, h]
  cases trimEnd text <;> rfl

/-- Nothing is lost before a character that is no blank. -/
theorem trimEnd_append_cons {c : Char} (h : isBlank c = false) (front text : List Char) :
    trimEnd (front ++ c :: text) = front ++ c :: trimEnd text := by
  induction front with
  | nil => exact trimEnd_cons h text
  | cons d front ih =>
    rw [List.cons_append, trimEnd, ih]
    cases front <;> rfl

/-- A text that ends in no blank loses nothing at its end. -/
theorem trimEnd_eq_self {text : List Char} {c : Char} (hl : text.getLast? = some c) (hc : isBlank c = false) :
    trimEnd text = text := by
  obtain ⟨front, rfl⟩ := List.getLast?_eq_some_iff.mp hl
  exact trimEnd_append_cons hc front []

/-- Nothing is left of a blank text. -/
theorem trimEnd_of_allBlank {text : List Char} (h : allBlank text = true) : trimEnd text = [] := by
  refine Classical.byContradiction fun hne => ?_
  have hlast := isBlank_of_getLast_trimEnd text _ (Option.mem_def.mpr (List.getLast?_eq_some_getLast hne))
  rw [List.all_eq_true.mp h _ ((trimEnd_isPrefix text).mem (List.getLast_mem hne))] at hlast
  cases hlast

/-- A text without blanks at its ends starts with no blank. -/
theorem stops_of_trim {text : List Char} (h : trim text = text) : Stops isBlank text := by
  intro c hc
  obtain ⟨more, rfl⟩ := List.head?_eq_some_iff.mp hc
  obtain ⟨rest, hrest⟩ := trimEnd_isPrefix (trimStart (c :: more))
  change trim (c :: more) ++ rest = _ at hrest
  rw [h] at hrest
  refine stops_dropWhile isBlank (c :: more) c ?_
  change c ∈ (trimStart (c :: more)).head?
  rw [← hrest]
  rfl

/-- A text without blanks at its ends ends with no blank. -/
theorem isBlank_of_getLast_trim {text : List Char} (h : trim text = text) : ∀ c ∈ text.getLast?, isBlank c = false := by
  rw [← h]
  exact isBlank_of_getLast_trimEnd (trimStart text)

/-! ## Lines -/

/-- What is no blank ends no line. -/
theorem isLineBreak_of_isBlank {c : Char} (h : isBlank c = false) : isLineBreak c = false := by
  rw [Bool.eq_false_iff]
  intro hb
  rw [isBlank_of_isLineBreak hb] at h
  cases h

/-- A character that no line feed follows, if it is a carriage return, ends a line or belongs to the next one. -/
theorem lines_cons {c : Char} {rest : List Char} (h : c = '\r' → rest.head? ≠ some '\n') :
    lines (c :: rest) = if isLineBreak c then [] :: lines rest else extendFirst c (lines rest) := by
  rw [lines]
  rintro tail rfl rfl
  exact h rfl rfl

/-- A line feed ends a line. -/
theorem lines_cons_feed (rest : List Char) : lines ('\n' :: rest) = [] :: lines rest :=
  lines_cons fun h => absurd h (by decide)

/-- What stands before the end of a line is cut off as a line. -/
theorem lines_append_line {line : List Char} (h : ∀ c ∈ line, isLineBreak c = false) (rest : List Char) :
    lines (line ++ '\n' :: rest) = line :: lines rest := by
  induction line with
  | nil => exact lines_cons_feed rest
  | cons c line ih =>
    obtain ⟨hc, hrest⟩ := List.forall_mem_cons.mp h
    have hreturn : c ≠ '\r' := fun he => by
      rw [he] at hc
      cases hc
    rw [List.cons_append, lines_cons fun he => absurd he hreturn, hc, if_neg Bool.false_ne_true, ih hrest, extendFirst]

/-- Lines that are printed one by one are read as these lines. -/
theorem lines_flatMap_feed {printed : List (List Char)} (h : ∀ line ∈ printed, ∀ c ∈ line, isLineBreak c = false) :
    lines (printed.flatMap (· ++ ['\n'])) = printed := by
  induction printed with
  | nil => rfl
  | cons line printed ih =>
    obtain ⟨hline, hprinted⟩ := List.forall_mem_cons.mp h
    rw [List.flatMap_cons, List.append_assoc, List.singleton_append, lines_append_line hline, ih hprinted]

/-- A text that is not empty has a line. -/
theorem exists_lines_cons (c : Char) (text : List Char) : ∃ line more, lines (c :: text) = line :: more := by
  by_cases h : c = '\r' ∧ text.head? = some '\n'
  · obtain ⟨rfl, hhead⟩ := h
    obtain ⟨tail, rfl⟩ := List.head?_eq_some_iff.mp hhead
    exact ⟨[], lines tail, by rw [lines]⟩
  · rw [lines_cons fun hc hn => h ⟨hc, hn⟩]
    split
    · exact ⟨[], _, rfl⟩
    · cases lines text with
      | nil => exact ⟨[c], [], rfl⟩
      | cons line more => exact ⟨c :: line, more, rfl⟩

/-- So does a text that ends with a line feed. -/
theorem exists_lines_feed (text : List Char) : ∃ line more, lines (text ++ ['\n']) = line :: more := by
  cases text with
  | nil => exact exists_lines_cons '\n' []
  | cons c text => exact exists_lines_cons c (text ++ ['\n'])

/-- A line feed behind a text ends its last line, or is a line of its own. -/
theorem lines_feed (text : List Char) :
    lines (text ++ ['\n']) = lines text ∨ lines (text ++ ['\n']) = lines text ++ [[]] := by
  fun_induction lines text with
  | case1 => exact .inr (lines_cons_feed [])
  | case2 text ih =>
    simp only [List.cons_append, lines]
    exact ih.imp (congrArg _) (congrArg _)
  | case3 c text hreturn hbreak ih =>
    by_cases h : c = '\r' ∧ text = []
    · obtain ⟨rfl, rfl⟩ := h
      exact .inl (by simp [lines])
    · have hplain : c = '\r' → (text ++ ['\n']).head? ≠ some '\n' := by
        intro hc hhead
        obtain ⟨d, more, rfl⟩ := List.exists_cons_of_ne_nil fun hnil => h ⟨hc, hnil⟩
        cases hhead
        exact hreturn more hc rfl
      rw [List.cons_append, lines_cons hplain, if_pos hbreak]
      exact ih.imp (congrArg _) (congrArg _)
  | case4 c text hreturn hbreak ih =>
    have hplain : c = '\r' → (text ++ ['\n']).head? ≠ some '\n' := by
      rintro rfl -
      exact hbreak rfl
    rw [List.cons_append, lines_cons hplain, if_neg hbreak]
    cases text with
    | nil => exact .inl (by simp [lines, lines_cons_feed, extendFirst])
    | cons d text =>
      obtain ⟨line, more, hlines⟩ := exists_lines_cons d text
      rw [hlines] at ih ⊢
      exact ih.imp (congrArg _) (congrArg _)

/-- Cutting into lines composes over texts that end with a line feed. -/
theorem lines_append (text rest : List Char) :
    lines (text ++ '\n' :: rest) = lines (text ++ ['\n']) ++ lines rest := by
  fun_induction lines text with
  | case1 => rw [List.nil_append, List.nil_append, lines_cons_feed, lines_cons_feed, lines, List.singleton_append]
  | case2 text ih =>
    simp only [List.cons_append, lines, ih]
  | case3 c text hreturn hbreak ih =>
    by_cases h : c = '\r' ∧ text = []
    · obtain ⟨rfl, rfl⟩ := h
      simp [lines]
    · have hplain : ∀ tail, c = '\r' → (text ++ '\n' :: tail).head? ≠ some '\n' := by
        intro tail hc hhead
        obtain ⟨d, more, rfl⟩ := List.exists_cons_of_ne_nil fun hnil => h ⟨hc, hnil⟩
        cases hhead
        exact hreturn more hc rfl
      simp only [List.cons_append]
      rw [lines_cons (hplain rest), lines_cons (hplain []), if_pos hbreak, if_pos hbreak, ih, List.cons_append]
  | case4 c text hreturn hbreak ih =>
    have hplain : ∀ tail, c = '\r' → (text ++ '\n' :: tail).head? ≠ some '\n' := by
      rintro tail rfl -
      exact hbreak rfl
    obtain ⟨line, more, hlines⟩ := exists_lines_feed text
    simp only [List.cons_append]
    rw [lines_cons (hplain rest), lines_cons (hplain []), if_neg hbreak, if_neg hbreak, ih, hlines]
    rfl

/-! ## Marks -/

variable {recognise : Recogniser α} {mark : List Char}

/-- Nothing that starts with a mark is found in a part that does not hold the mark and
that a character ends which the mark does not hold either. -/
theorem isBare_of_not_isInfix {part : List Char} {c : Char}
    (hs : ∀ before text item, recognise before text = some item → mark <+: text) (hp : ¬mark <:+: part)
    (hc : c ∉ mark) (before : Option Char) (back : List Char) : IsBare recognise before part (c :: back) := by
  induction part generalizing before with
  | nil => trivial
  | cons d part ih =>
    refine ⟨Option.eq_none_iff_forall_ne_some.mpr fun item hfound => hp ?_, ih (mt List.infix_cons hp) (some d)⟩
    obtain ⟨rest, hrest⟩ := hs before _ item hfound
    rw [← List.cons_append] at hrest
    obtain ⟨left, hleft, -⟩ := exists_append_of_not_mem hrest hc
    exact ⟨[], left, hleft.symm⟩

/-- Nothing is found in a part, whatever stands around it. -/
def IsPlain (recognise : Recogniser α) (part : List Char) : Prop :=
  ∀ before back, IsBare recognise before part back

/-- Plain parts after each other are plain. -/
theorem IsPlain.append {part more : List Char} (h : IsPlain recognise part) (hm : IsPlain recognise more) :
    IsPlain recognise (part ++ more) :=
  fun before back => (h before (more ++ back)).append fun before => hm before back

/-- Nothing stands before a mark that starts the text. -/
theorem upTo_of_isPrefix {text : List Char} (h : mark <+: text) : upTo mark text = [] := by
  cases text with
  | nil => rfl
  | cons c text => rw [upTo, if_pos (List.isPrefixOf_iff_prefix.mpr h)]

/-- Up to a mark stands the part before it, if the mark is not found in the part. -/
theorem upTo_append {part back : List Char} {before : Option Char} (h : IsBare (following mark) before part back) :
    upTo mark (part ++ back) = part ++ upTo mark back := by
  induction part generalizing before with
  | nil => rfl
  | cons c part ih =>
    obtain ⟨hnone, hrest⟩ := h
    have hmark : ¬mark.isPrefixOf (c :: (part ++ back)) = true := by
      intro hstarts
      obtain ⟨rest, hmark⟩ := List.isPrefixOf_iff_prefix.mp hstarts
      have hfound : after? mark (c :: (part ++ back)) = some rest := after?_eq_some.mpr hmark.symm
      rw [following, hfound] at hnone
      cases hnone
    rw [List.cons_append, upTo, if_neg hmark, ih hrest, List.cons_append]

end Checkup.Text
