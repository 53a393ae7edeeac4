import Checkup.Proofs.JsonRoundTrip
import Checkup.Proofs.TextStretches

/-!
# Lines that no document holds

A document holds line feeds only between its parts, and behind each stands another part or a mark
between two. So a text is no document if one of its lines starts with a character that neither a
part nor a mark starts with: no reader gets past such a line, however it comes to stand before it.
-/

namespace Checkup.Json

open Text

/-- A character that neither stands between the parts of a document nor starts one of them. -/
def isForeign (c : Char) : Bool :=
  !isGap c && !isDigit c &&
    !(['n', 't', 'f', 'N', 'I', '-', '"', '[', ']', '\x7b', '\x7d', ',', ':'].contains c)

/-- What is left of a text if only characters other than line feeds were taken from it. -/
def StaysOnLine (text rest : List Char) : Prop := ∃ taken, text = taken ++ rest ∧ '\n' ∉ taken

variable {text rest more tail : List Char} {c : Char}

namespace StaysOnLine

/-- Nothing is taken. -/
theorem refl (text : List Char) : StaysOnLine text text := ⟨[], rfl, List.not_mem_nil⟩

/-- Something is taken, and then something else. -/
theorem trans (h : StaysOnLine text more) (hm : StaysOnLine more rest) : StaysOnLine text rest := by
  obtain ⟨taken, rfl, htaken⟩ := h
  obtain ⟨further, rfl, hfurther⟩ := hm
  exact ⟨taken ++ further, (List.append_assoc _ _ _).symm, List.not_mem_append htaken hfurther⟩

/-- A character is taken, and then something else. -/
theorem cons (hc : c ≠ '\n') (h : StaysOnLine text rest) : StaysOnLine (c :: text) rest := by
  obtain ⟨taken, rfl, htaken⟩ := h
  exact ⟨c :: taken, rfl, List.not_mem_cons_of_ne_of_not_mem hc.symm htaken⟩

/-- A run is taken. -/
theorem dropWhile {admits : Char → Bool} (h : admits '\n' = false) (text : List Char) :
    StaysOnLine text (text.dropWhile admits) := by
  refine ⟨text.takeWhile admits, List.takeWhile_append_dropWhile.symm, fun hmem => ?_⟩
  rw [List.all_eq_true.mp List.all_takeWhile '\n' hmem] at h
  cases h

/-- A name is taken. -/
theorem after? {name : List Char} (hn : '\n' ∉ name) (h : Text.after? name text = some rest) : StaysOnLine text rest :=
  ⟨name, after?_eq_some.mp h, hn⟩

/-- Later lines are left as they are. -/
theorem suffix (h : StaysOnLine text rest) (hs : '\n' :: tail <:+ text) : '\n' :: tail <:+ rest := by
  obtain ⟨taken, rfl, htaken⟩ := h
  obtain ⟨front, hfront⟩ := hs
  obtain ⟨left, -, hrest⟩ := exists_append_of_not_mem hfront.symm htaken
  exact ⟨left, hrest.symm⟩

end StaysOnLine

/-! ## Texts, numbers and names -/

/-- A second step is read only behind a first one. -/
theorem exists_of_bind {α β : Type} {first : Except Refusal α} {next : α → Except Refusal β} {result : β}
    (h : (first >>= next) = .ok result) : ∃ value, first = .ok value ∧ next value = .ok result := by
  cases first with
  | error refusal => cases h
  | ok value => exact ⟨value, rfl, h⟩

/-- Four hexadecimal digits stand on one line. -/
theorem staysOnLine_of_hex4? {n : Nat} (h : hex4? text = some (n, rest)) : StaysOnLine text rest := by
  have hdigit : ∀ {d : Char} {value : Nat}, hexValue? d = some value → d ≠ '\n' := by
    rintro d value hvalue rfl
    cases hvalue
  unfold hex4? at h
  split at h
  · obtain ⟨_, ha, h⟩ := Option.bind_eq_some_iff.mp h
    obtain ⟨_, hb, h⟩ := Option.bind_eq_some_iff.mp h
    obtain ⟨_, hc, h⟩ := Option.bind_eq_some_iff.mp h
    obtain ⟨_, hd, h⟩ := Option.bind_eq_some_iff.mp h
    cases h
    exact .cons (hdigit ha) (.cons (hdigit hb) (.cons (hdigit hc) (.cons (hdigit hd) (.refl _))))
  · cases h

/-- An escape of code units stands on one line. -/
theorem staysOnLine_of_unitEscape? {d : Char} (h : unitEscape? text = some (d, rest)) : StaysOnLine text rest := by
  unfold unitEscape? at h
  obtain ⟨⟨unit, behind⟩, hunit, h⟩ := Option.bind_eq_some_iff.mp h
  dsimp only at h
  have hfirst := staysOnLine_of_hex4? hunit
  split at h
  · split at h
    · next low last hlow =>
      obtain ⟨-, rfl⟩ := Prod.mk.inj (Option.some.inj h)
      unfold lowSurrogate? at hlow
      split at hlow
      · obtain ⟨⟨half, last⟩, hhalf, hlow⟩ := Option.bind_eq_some_iff.mp hlow
        dsimp only at hlow
        split at hlow
        · cases hlow
          have hsecond := staysOnLine_of_hex4? hhalf
          exact hfirst.trans (.cons (by decide) (.cons (by decide) hsecond))
        · cases hlow
      · cases hlow
    · cases h
      exact hfirst
  · split at h <;>
    · cases h
      exact hfirst

/-- A text stands on one line. -/
theorem staysOnLine_of_readText {bound : Nat} {content : List Char} (h : readText bound text = .ok (content, rest)) :
    StaysOnLine text rest := by
  induction bound generalizing text content with
  | zero => cases h
  | succ bound ih =>
    cases text with
    | nil => cases h
    | cons c text =>
      have hnext : ∀ {part : List Char} {d : Char}, (readText bound part >>= fun found =>
          Except.ok (d :: found.1, found.2)) = .ok (content, rest) → StaysOnLine part rest := by
        intro part d hpart
        obtain ⟨⟨content, behind⟩, hread, hcons⟩ := exists_of_bind hpart
        cases hcons
        exact ih hread
      rw [readText.eq_def] at h
      dsimp only at h
      split at h
      · next hquote =>
        cases h
        exact .cons (by rw [hquote]; decide) (.refl _)
      · split at h
        · cases h
        · next hplain =>
          have hc : c ≠ '\n' := by
            rintro rfl
            exact hplain (by decide)
          refine .cons hc ?_
          split at h
          · split at h
            · cases h
            · split at h
              · cases h
              · next hescape => exact .cons (by decide) ((staysOnLine_of_unitEscape? hescape).trans (hnext h))
            · split at h
              · cases h
              · next e _ _ d hescape =>
                refine .cons ?_ (hnext h)
                rintro rfl
                cases hescape
          · exact hnext h

/-- A fraction stands on one line. -/
theorem staysOnLine_readFraction (text : List Char) : StaysOnLine text (readFraction text).2 := by
  unfold readFraction
  split
  · split
    · exact .refl _
    · exact .cons (by decide) (.dropWhile (by decide) _)
  · exact .refl _

/-- A power stands on one line. -/
theorem staysOnLine_readPower (text : List Char) : StaysOnLine text (readPower text).2 := by
  unfold readPower
  split
  · exact .refl _
  · next c rest =>
    split
    · next hletter =>
      have hc : c ≠ '\n' := by
        rintro rfl
        cases hletter
      dsimp only
      split
      · exact .refl _
      · refine .cons hc ?_
        split
        · exact .cons (by decide) (.dropWhile (by decide) _)
        · exact .cons (by decide) (.dropWhile (by decide) _)
        · exact .dropWhile (by decide) _
    · exact .refl _

/-- A number stands on one line. -/
theorem staysOnLine_of_readMagnitude {negative : Bool} {value : Value}
    (h : readMagnitude negative text = .ok (value, rest)) : StaysOnLine text rest := by
  have hwhole : StaysOnLine text (text.drop (wholePart text).length) := by
    unfold wholePart
    split
    · exact .cons (by decide) (.refl _)
    · refine ⟨text.takeWhile isDigit, ?_, fun hmem => ?_⟩
      · exact (List.prefix_iff_eq_append.mp (List.takeWhile_prefix isDigit)).symm
      · exact absurd (List.all_eq_true.mp List.all_takeWhile '\n' hmem) (by decide)
  have hend := (hwhole.trans (staysOnLine_readFraction _)).trans (staysOnLine_readPower _)
  unfold readMagnitude at h
  dsimp only at h
  split at h
  · cases h
  · split at h
    · split at h
      · cases h
      · cases h
        exact hend
    · cases h
      exact hend

/-- A name stands on one line. -/
theorem staysOnLine_of_readName? {value : Value} (h : readName? text = some (value, rest)) : StaysOnLine text rest := by
  have hnames : ∀ name ∈ names, '\n' ∉ name.1.toList := by decide
  obtain ⟨name, hname, hfound⟩ := List.exists_of_findSome?_eq_some h
  obtain ⟨behind, hbehind, hsame⟩ := Option.map_eq_some_iff.mp hfound
  cases hsame
  exact .after? (hnames name hname) hbehind

/-! ## Gaps -/

/-- A foreign character ends a gap. -/
theorem isGap_of_isForeign (hc : isForeign c = true) : isGap c = false := by
  unfold isForeign at hc
  rw [Bool.and_eq_true, Bool.and_eq_true, Bool.not_eq_true'] at hc
  exact hc.1.1

/-- A foreign character is none of the marks of a document. -/
theorem ne_of_isForeign (hc : isForeign c = true) {d : Char} (hd : isForeign d = false) : c ≠ d := by
  rintro rfl
  rw [hc] at hd
  cases hd

/-- A gap ends before a later foreign line or behind its line feed. -/
theorem skipGap_cases (hc : isForeign c = true) (h : '\n' :: c :: tail <:+ text) :
    '\n' :: c :: tail <:+ skipGap text ∨ skipGap text = c :: tail := by
  obtain ⟨front, rfl⟩ := h
  have hstop : ¬isGap c = true := Bool.eq_false_iff.mp (isGap_of_isForeign hc)
  induction front with
  | nil =>
    refine .inr ?_
    rw [List.nil_append, skipGap, List.dropWhile_cons_of_pos (by decide), List.dropWhile_cons_of_neg hstop]
  | cons d front ih =>
    by_cases hd : isGap d = true
    · rw [List.cons_append, skipGap, List.dropWhile_cons_of_pos hd]
      exact ih
    · rw [List.cons_append, skipGap, List.dropWhile_cons_of_neg hd]
      exact .inl ⟨d :: front, rfl⟩

/-- Behind a gap and a mark of a document a foreign line is still to come. -/
theorem suffix_of_skipGap (hc : isForeign c = true) {d : Char} (hd : isForeign d = false) (hfeed : d ≠ '\n')
    (h : '\n' :: c :: tail <:+ text) (hs : skipGap text = d :: rest) : '\n' :: c :: tail <:+ rest := by
  rcases skipGap_cases hc h with hsuffix | hstart
  · rw [hs] at hsuffix
    exact (StaysOnLine.cons hfeed (.refl rest)).suffix hsuffix
  · rw [hs] at hstart
    exact absurd (List.cons.inj hstart).1.symm (ne_of_isForeign hc hd)

/-! ## Values -/

/-- No value starts with a foreign character. -/
theorem readValue_foreign (hc : isForeign c = true) (bound : Nat) (rest : List Char) :
    readValue bound (c :: rest) = .error .malformed := by
  cases bound with
  | zero => rw [readValue]
  | succ bound =>
    have hname : readName? (c :: rest) = none := by
      refine readName?_eq_none (fun hmem => ?_) rest
      have hplain : ∀ d ∈ ['n', 't', 'f', 'N', 'I', '-'], isForeign d = false := forall_mem_of_all rfl
      exact ne_of_isForeign hc (hplain c hmem) rfl
    have hdigit : ¬isDigit c = true := by
      unfold isForeign at hc
      rw [Bool.and_eq_true, Bool.and_eq_true, Bool.not_eq_true', Bool.not_eq_true'] at hc
      exact Bool.eq_false_iff.mp hc.1.2
    rw [readValue.eq_def]
    dsimp only
    rw [hname]
    dsimp only
    split
    · next heq => exact absurd (List.cons.inj heq).1 (ne_of_isForeign hc (by decide))
    · next heq => exact absurd (List.cons.inj heq).1 (ne_of_isForeign hc (by decide))
    · next heq => exact absurd (List.cons.inj heq).1 (ne_of_isForeign hc (by decide))
    · next heq => exact absurd (List.cons.inj heq).1 (ne_of_isForeign hc (by decide))
    · have hwhole : wholePart (c :: rest) = [] := by
        unfold wholePart
        split
        · next heq => exact absurd (List.cons.inj heq).1 (ne_of_isForeign hc (by decide))
        · exact List.takeWhile_cons_of_neg hdigit
      rw [readMagnitude, hwhole]
      rfl

/-- Neither does a list of items. -/
theorem readItems_foreign (hc : isForeign c = true) (bound : Nat) (rest : List Char) :
    readItems bound (c :: rest) = .error .malformed := by
  cases bound with
  | zero => rw [readItems]
  | succ bound =>
    rw [readItems, readValue_foreign hc]
    rfl

/-- Neither do entries. -/
theorem readEntries_foreign (hc : isForeign c = true) (bound : Nat) (entries : Entries) (rest : List Char) :
    readEntries bound entries (c :: rest) = .error .malformed := by
  rw [readEntries.eq_def]
  split
  · rfl
  · split
    · next heq => exact absurd (List.cons.inj heq).1 (ne_of_isForeign hc (by decide))
    · rfl

/-- A reader that starts behind a gap starts before the foreign line, or on it and then fails. -/
theorem suffix_of_read_skipGap {α : Type} {reader : List Char → Except Refusal (α × List Char)} {found : α}
    (hc : isForeign c = true) (hfails : ∀ rest, reader (c :: rest) = .error .malformed)
    (hreads : ∀ {text : List Char} {found : α} {rest : List Char}, '\n' :: c :: tail <:+ text →
      reader text = .ok (found, rest) → '\n' :: c :: tail <:+ rest)
    (hs : '\n' :: c :: tail <:+ text) (h : reader (skipGap text) = .ok (found, rest)) :
    '\n' :: c :: tail <:+ rest := by
  rcases skipGap_cases hc hs with hsuffix | hstart
  · exact hreads hsuffix h
  · rw [hstart, hfails] at h
    cases h

/-- No reader gets past a foreign line within so many steps. -/
structure StopsBefore (c : Char) (tail : List Char) (bound : Nat) : Prop where
  /-- Behind a value the line is still to come. -/
  value : ∀ {text value rest}, '\n' :: c :: tail <:+ text → readValue bound text = .ok (value, rest) →
    '\n' :: c :: tail <:+ rest
  /-- So it is behind the items of a list. -/
  items : ∀ {text items rest}, '\n' :: c :: tail <:+ text → readItems bound text = .ok (items, rest) →
    '\n' :: c :: tail <:+ rest
  /-- And behind the entries of a mapping. -/
  entries : ∀ {before text entries rest}, '\n' :: c :: tail <:+ text →
    readEntries bound before text = .ok (entries, rest) → '\n' :: c :: tail <:+ rest

namespace StopsBefore

variable {bound : Nat}

/-- A value of one more step ends before the line. -/
theorem value_succ (h : StopsBefore c tail bound) (hc : isForeign c = true) {value : Value}
    (hs : '\n' :: c :: tail <:+ text) (hread : readValue (bound + 1) text = .ok (value, rest)) :
    '\n' :: c :: tail <:+ rest := by
  have hbehind : ∀ {d : Char} {text rest : List Char}, d ≠ '\n' → '\n' :: c :: tail <:+ d :: text →
      StaysOnLine text rest → '\n' :: c :: tail <:+ rest :=
    fun hd hs hline => (StaysOnLine.cons hd hline).suffix hs
  rw [readValue.eq_def] at hread
  dsimp only at hread
  split at hread
  · next step hname =>
    cases hread
    exact (staysOnLine_of_readName? hname).suffix hs
  · split at hread
    · obtain ⟨⟨content, behind⟩, htext, hread⟩ := exists_of_bind hread
      cases hread
      exact hbehind (by decide) hs (staysOnLine_of_readText htext)
    · have hrest := hbehind (by decide) hs (.refl _)
      split at hread
      · next hclose =>
        cases hread
        exact suffix_of_skipGap hc (by decide) (by decide) hrest hclose
      · obtain ⟨⟨items, behind⟩, hitems, hread⟩ := exists_of_bind hread
        cases hread
        exact suffix_of_read_skipGap hc (readItems_foreign hc bound) h.items hrest hitems
    · have hrest := hbehind (by decide) hs (.refl _)
      split at hread
      · next hclose =>
        cases hread
        exact suffix_of_skipGap hc (by decide) (by decide) hrest hclose
      · obtain ⟨⟨entries, behind⟩, hentries, hread⟩ := exists_of_bind hread
        cases hread
        exact suffix_of_read_skipGap hc (readEntries_foreign hc bound []) h.entries hrest hentries
    · exact hbehind (by decide) hs (staysOnLine_of_readMagnitude hread)
    · exact (staysOnLine_of_readMagnitude hread).suffix hs

/-- Items of one more step end before the line. -/
theorem items_succ (h : StopsBefore c tail bound) (hc : isForeign c = true) {items : List Value}
    (hs : '\n' :: c :: tail <:+ text) (hread : readItems (bound + 1) text = .ok (items, rest)) :
    '\n' :: c :: tail <:+ rest := by
  rw [readItems] at hread
  obtain ⟨⟨item, behind⟩, hitem, hread⟩ := exists_of_bind hread
  have hnext := h.value hs hitem
  dsimp only at hread
  split at hread
  · next hclose =>
    cases hread
    exact suffix_of_skipGap hc (by decide) (by decide) hnext hclose
  · next hcomma =>
    obtain ⟨⟨more, last⟩, hmore, hread⟩ := exists_of_bind hread
    cases hread
    have hlater := suffix_of_skipGap hc (by decide) (by decide) hnext hcomma
    exact suffix_of_read_skipGap hc (readItems_foreign hc bound) h.items hlater hmore
  · cases hread

/-- Entries of one more step end before the line. -/
theorem entries_succ (h : StopsBefore c tail bound) (hc : isForeign c = true) {before entries : Entries}
    (hs : '\n' :: c :: tail <:+ text) (hread : readEntries (bound + 1) before text = .ok (entries, rest)) :
    '\n' :: c :: tail <:+ rest := by
  rw [readEntries.eq_def] at hread
  dsimp only at hread
  split at hread
  · obtain ⟨⟨key, behind⟩, hkey, hread⟩ := exists_of_bind hread
    have hnext := (StaysOnLine.cons (by decide) (staysOnLine_of_readText hkey)).suffix hs
    dsimp only at hread
    split at hread
    · next hcolon =>
      obtain ⟨⟨value, last⟩, hvalue, hread⟩ := exists_of_bind hread
      have hlater := suffix_of_skipGap hc (by decide) (by decide) hnext hcolon
      have hlast := suffix_of_read_skipGap hc (readValue_foreign hc bound) h.value hlater hvalue
      dsimp only at hread
      split at hread
      · next hclose =>
        cases hread
        exact suffix_of_skipGap hc (by decide) (by decide) hlast hclose
      · next hcomma =>
        have hmore := suffix_of_skipGap hc (by decide) (by decide) hlast hcomma
        exact suffix_of_read_skipGap hc (readEntries_foreign hc bound _) h.entries hmore hread
      · cases hread
    · cases hread
  · cases hread

end StopsBefore

/-- No reader gets past a foreign line. -/
theorem stopsBefore (hc : isForeign c = true) (tail : List Char) (bound : Nat) : StopsBefore c tail bound := by
  induction bound with
  | zero =>
    constructor
    · intro text value rest _ h
      rw [readValue] at h
      cases h
    · intro text items rest _ h
      rw [readItems] at h
      cases h
    · intro before text entries rest _ h
      rw [readEntries] at h
      cases h
  | succ bound ih => exact ⟨ih.value_succ hc, ih.items_succ hc, ih.entries_succ hc⟩

/-! ## Documents -/

/-- A text that starts with a foreign character is no document. -/
theorem read?_of_foreign (hc : isForeign c = true) (rest : List Char) : read? (c :: rest) = none := by
  have hskip : skipGap (c :: rest) = c :: rest :=
    List.dropWhile_cons_of_neg (Bool.eq_false_iff.mp (isGap_of_isForeign hc))
  unfold read? read
  rw [hskip, readValue_foreign hc]
  rfl

/-- Nor is it one without the blanks at its end. -/
theorem read?_trim_of_foreign (hc : isForeign c = true) (hb : isBlank c = false) (rest : List Char) :
    read? (trim (c :: rest)) = none := by
  rw [trim, trimStart_eq_self (stops_cons hb rest), trimEnd_cons hb]
  exact read?_of_foreign hc _

/-- A text with a line that starts with a foreign character is no document. -/
theorem read?_of_foreign_line (hc : isForeign c = true) (front tail : List Char) :
    read? (front ++ '\n' :: c :: tail) = none := by
  have hsuffix : '\n' :: c :: tail <:+ front ++ '\n' :: c :: tail := List.suffix_append front _
  cases hread : read (front ++ '\n' :: c :: tail) with
  | error refusal =>
    unfold read?
    rw [hread]
  | ok value =>
    unfold read at hread
    obtain ⟨⟨found, rest⟩, hvalue, hend⟩ := exists_of_bind hread
    have hrest : '\n' :: c :: tail <:+ rest := by
      rcases skipGap_cases hc hsuffix with hlater | hstart
      · exact (stopsBefore hc tail _).value hlater hvalue
      · rw [hstart, readValue_foreign hc] at hvalue
        cases hvalue
    have hfull : ¬(skipGap rest).isEmpty = true := by
      intro hempty
      rw [List.isEmpty_iff] at hempty
      rcases skipGap_cases hc hrest with hlater | hstart
      · rw [hempty] at hlater
        cases List.suffix_nil.mp hlater
      · rw [hempty] at hstart
        cases hstart
    dsimp only at hend
    rw [if_neg hfull] at hend
    cases hend

/-- Neither is it one without the blanks at its ends. -/
theorem read?_trim_of_foreign_line (hc : isForeign c = true) (hb : isBlank c = false) (front tail : List Char) :
    read? (trim (front ++ '\n' :: c :: tail)) = none := by
  by_cases hfront : allBlank front = true
  · have hstart : trimStart (front ++ '\n' :: c :: tail) = c :: tail := by
      rw [trimStart_append hfront, trimStart, List.dropWhile_cons_of_pos (by decide),
        List.dropWhile_cons_of_neg (Bool.eq_false_iff.mp hb)]
    rw [trim, hstart, trimEnd_cons hb]
    exact read?_of_foreign hc _
  · obtain ⟨d, more, -, -, hstart⟩ :=
      exists_trimStart_append (Bool.eq_false_iff.mpr hfront) ('\n' :: c :: tail)
    have hend : trimEnd (d :: (more ++ '\n' :: c :: tail)) = d :: more ++ '\n' :: c :: trimEnd tail := by
      have hsplit : d :: (more ++ '\n' :: c :: tail) = (d :: more ++ ['\n']) ++ c :: tail := by
        simp only [List.cons_append, List.append_assoc, List.nil_append]
      rw [hsplit, trimEnd_append_cons hb]
      simp only [List.cons_append, List.append_assoc, List.nil_append]
    rw [trim, hstart, hend]
    exact read?_of_foreign_line hc (d :: more) _

end Checkup.Json
