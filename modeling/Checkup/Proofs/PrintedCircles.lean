import Checkup.Proofs.EvidentFindings
import Checkup.Proofs.ForeignLines
import Checkup.Proofs.LinterRules
import Checkup.Proofs.PrintedNumbers

/-!
# Circles in a document and in a listing

madge tells circles as a document of their modules, or as numbered rows between notices of its
work. Both give one error for each circle, whatever the modules are called: a row is recognised by
its number alone, and no notice reads like a row or holds an arrow.
-/

namespace Checkup

open Text

/-! ## Where a text starts -/

/-- Behind its blanks a text starts as one of its lines does. -/
theorem Text.exists_line_at_start {text : List Char} (h : allBlank text = false) :
    ∃ line ∈ lines text, allBlank line = false ∧ trimStart line <+: trimStart text := by
  have hblank : ∀ {c : Char} {rest : List Char}, isBlank c = true → allBlank (c :: rest) = false →
      allBlank rest = false ∧ trimStart (c :: rest) = trimStart rest := by
    intro c rest hc hrest
    refine ⟨?_, List.dropWhile_cons_of_pos hc⟩
    rwa [allBlank, List.all_cons, hc, Bool.true_and] at hrest
  fun_induction lines text with
  | case1 => cases h
  | case2 rest ih =>
    obtain ⟨hfeed, hreturn⟩ := hblank (by decide) h
    obtain ⟨hrest, hstart⟩ := hblank (by decide) hfeed
    obtain ⟨line, hline, hfull, hprefix⟩ := ih hrest
    exact ⟨line, List.mem_cons_of_mem [] hline, hfull, by rwa [hreturn, hstart]⟩
  | case3 c rest _ hbreak ih =>
    obtain ⟨hrest, hstart⟩ := hblank (isBlank_of_isLineBreak hbreak) h
    obtain ⟨line, hline, hfull, hprefix⟩ := ih hrest
    exact ⟨line, List.mem_cons_of_mem [] hline, hfull, by rwa [hstart]⟩
  | case4 c rest _ hbreak ih =>
    by_cases hc : isBlank c = true
    · obtain ⟨hrest, hstart⟩ := hblank hc h
      obtain ⟨line, hline, hfull, hprefix⟩ := ih hrest
      rw [hstart]
      cases hlines : lines rest with
      | nil =>
        rw [hlines] at hline
        cases hline
      | cons first more =>
        rw [hlines] at hline
        rcases List.mem_cons.mp hline with rfl | hmore
        · refine ⟨c :: line, List.mem_cons_self, ?_, ?_⟩
          · rwa [allBlank, List.all_cons, hc, Bool.true_and]
          · rwa [trimStart, List.dropWhile_cons_of_pos hc]
        · exact ⟨line, List.mem_cons_of_mem _ hmore, hfull, hprefix⟩
    · have hchar := Bool.eq_false_iff.mpr hc
      refine ⟨c :: (lines rest).headD [], headD_mem_extendFirst c _, ?_, ?_⟩
      · rw [allBlank, List.all_cons, hchar, Bool.false_and]
      · rw [trimStart_eq_self (stops_cons hchar _), trimStart_eq_self (stops_cons hchar _)]
        exact List.cons_prefix_cons.mpr ⟨rfl, headD_lines_isPrefix rest⟩

/-! ## Numbered rows -/

/-- A number before a closing parenthesis is the start of no document. -/
theorem Json.read?_numbered (number : Nat) (rest : List Char) :
    Json.read? (Nat.toDigits 10 number ++ ')' :: rest) = none := by
  have hmagnitude := @Json.readMagnitude_append false number (')' :: rest) (fun c hc => by cases hc; rfl) rfl rfl
  unfold Json.read? Json.read
  rw [(Json.starts_toDigits number).skipGap_append, Json.readValue_toDigits, hmagnitude]
  by_cases hlong : maxDigits < (Nat.toDigits 10 number).length
  · rw [if_pos hlong]
    rfl
  · rw [if_neg hlong]
    rfl

namespace Madge

/-- A module as madge prints it: a name without blanks at its ends. -/
structure IsModule (name : String) : Prop where
  full : name.toList ≠ []
  trimmed : trim name.toList = name.toList

/-- A circle has modules. -/
structure IsCircle (circle : List String) : Prop where
  some : circle ≠ []
  modules : ∀ name ∈ circle, IsModule name

/-- The document of some circles. -/
def circlesDocument (circles : List (List String)) : Value := .list (circles.map fun circle => .list (circle.map .text))

/-- The row of a circle with its number. -/
def circleRow (number : Nat) (circle : List String) : List Char :=
  Nat.toDigits 10 number ++ ')' :: ' ' :: (String.intercalate " > " circle).toList

/-- The notice of how many circles were found. -/
def foundNotice (mark : String) (count : Nat) (ending : String) : List Char :=
  mark.toList ++ ("Found ".toList ++ (Nat.toDigits 10 count ++ (" circular dependenc".toList ++ ending.toList)))

/-- A line that madge prints beside the rows of a listing. -/
inductive IsNotice : List Char → Prop
  /-- A blank line. -/
  | blank {line : List Char} (h : allBlank line = true) : IsNotice line
  /-- A notice of progress. -/
  | progress (more : List Char) : IsNotice ("Processed".toList ++ more)
  /-- The number of circles, with or without a mark in front. -/
  | found {mark ending : String} (hm : mark ∈ ["", "✖ "]) (he : ending ∈ ["y!", "ies!"]) (count : Nat) :
    IsNotice (foundNotice mark count ending)

/-- Lines that list some circles, with notices between the rows. -/
inductive Listing : List (List Char) → List (List String) → Prop
  | done : Listing [] []
  | notice {line : List Char} {more : List (List Char)} {circles : List (List String)} (hn : IsNotice line)
    (hm : Listing more circles) : Listing (line :: more) circles
  | row {more : List (List Char)} {circles : List (List String)} (number : Nat) (circle : List String)
    (hm : Listing more circles) : Listing (circleRow number circle :: more) (circle :: circles)

/-! ## Lines of a listing -/

/-- A circle is told on one line that has no blanks at its ends. -/
theorem IsCircle.text {circle : List String} (h : IsCircle circle) :
    (String.intercalate " > " circle).toList ≠ [] ∧ Stops isBlank (String.intercalate " > " circle).toList ∧
      ∀ c ∈ (String.intercalate " > " circle).toList.getLast?, isBlank c = false := by
  have hparts : ∀ part ∈ circle.map String.toList, part ≠ [] := by
    intro part hpart
    obtain ⟨name, hname, rfl⟩ := List.mem_map.mp hpart
    exact (h.modules name hname).full
  obtain ⟨⟨first, hfirst, more, hstart, -⟩, last, hlast, front, hend⟩ :=
    @ends_intercalate " > ".toList _ hparts (mt List.map_eq_nil_iff.mp h.some)
  obtain ⟨name, hname, rfl⟩ := List.mem_map.mp hfirst
  obtain ⟨other, hother, rfl⟩ := List.mem_map.mp hlast
  have hfull := (h.modules name hname).full
  rw [String.toList_intercalate]
  refine ⟨?_, ?_, ?_⟩
  · rw [hstart]
    exact List.append_ne_nil_of_left_ne_nil hfull more
  · obtain ⟨c, tail, hc⟩ := List.exists_cons_of_ne_nil hfull
    have hstops := stops_of_trim (h.modules name hname).trimmed
    rw [hc] at hstops
    rw [hstart, hc]
    exact stops_cons (hstops c rfl) _
  · rw [hend, getLast?_append_of_ne_nil front (h.modules other hother).full]
    exact isBlank_of_getLast_trim (h.modules other hother).trimmed

/-- A line that starts with another letter is no notice of progress. -/
theorem not_progress_of_head {line : List Char} (h : ∀ c ∈ line.head?, c ≠ 'P') :
    "Processed".toList.isPrefixOf line = false := by
  rw [Bool.eq_false_iff]
  intro hprefix
  obtain ⟨more, rfl⟩ := List.isPrefixOf_iff_prefix.mp hprefix
  exact h 'P' rfl rfl

/-- A text that ends with no blank is the shortest stretch before the end of the line. -/
theorem shortest_trimmed {text : List Char} (hfull : text ≠ []) (hlast : ∀ c ∈ text.getLast?, isBlank c = false) :
    shortest (fun _ => true) (fun rest => if allBlank rest then some () else none) text = some (text, ()) := by
  have hearlier : ∀ left, left ≠ [] → left <:+ text →
      (if allBlank (left ++ []) then some () else none) = none := by
    rintro left hleft ⟨front, rfl⟩
    rw [getLast?_append_of_ne_nil front hleft, List.getLast?_eq_some_getLast hleft] at hlast
    have hblank : allBlank left = false := by
      rw [allBlank, List.all_eq_false]
      exact ⟨left.getLast hleft, List.getLast_mem hleft, Bool.eq_false_iff.mp (hlast _ rfl)⟩
    rw [List.append_nil, hblank]
    rfl
  have hshortest : shortest (fun _ => true) (fun rest => if allBlank rest then some () else none) (text ++ []) =
      some (text, ()) := shortest_append hfull (fun _ _ => rfl) hearlier rfl
  rwa [List.append_nil] at hshortest

/-- A row tells its circle. -/
theorem circleOfLine?_row {circle : List String} (h : IsCircle circle) (number : Nat) :
    circleOfLine? (circleRow number circle) = some (String.intercalate " > " circle).toList := by
  obtain ⟨hfull, hfirst, hlast⟩ := h.text
  have hprogress : "Processed".toList.isPrefixOf (circleRow number circle) = false := by
    obtain ⟨c, digits, hdigits, hc⟩ := Json.toDigits_eq_cons number
    refine not_progress_of_head fun d hd => ?_
    rw [circleRow, hdigits] at hd
    cases hd
    rintro rfl
    cases hc
  have hrow : numberedCircle? (circleRow number circle) = some (String.intercalate " > " circle).toList := by
    have hdigits : takeDigits? (circleRow number circle) = some (Nat.toDigits 10 number, _) :=
      takeDigits?_toDigits number (stops_cons (by decide) _)
    have hstart : trimStart (circleRow number circle) = circleRow number circle :=
      trimStart_eq_self (stops_toDigits number _)
    unfold numberedCircle?
    rw [hstart, hdigits]
    change ((longestSome isBlank _ (' ' :: _)) >>= _) = _
    rw [longestSome, if_pos (by decide), ← List.nil_append (String.intercalate " > " circle).toList,
      longest_append (fun c hc => absurd hc List.not_mem_nil) hfirst (shortest_trimmed hfull hlast)]
    rfl
  rw [circleOfLine?, hprogress, if_neg Bool.false_ne_true, hrow]

/-- A line without a number in front, an arrow or a hyphen tells no circle. -/
theorem circleOfLine?_of_plain {line : List Char} (hn : numberedCircle? line = none) (ha : '→' ∉ line)
    (hh : '-' ∉ line) : circleOfLine? line = none := by
  have harrow : occurs ['→'] line = false :=
    Bool.eq_false_iff.mpr fun h => ha ((occurs_iff.mp h).mem List.mem_cons_self)
  have hhyphen : occurs ['-', '>'] line = false :=
    Bool.eq_false_iff.mpr fun h => hh ((occurs_iff.mp h).mem List.mem_cons_self)
  unfold circleOfLine?
  rw [hn, harrow, hhyphen]
  split <;> rfl

/-- What starts with neither a blank nor a digit is not numbered. -/
theorem numberedCircle?_of_stops {line : List Char} (hb : Stops isBlank line) (hd : Stops isDecimal line) :
    numberedCircle? line = none := by
  have hdigits : takeDigits? line = none := by
    refine Option.eq_none_iff_forall_ne_some.mpr fun ⟨digits, rest⟩ hsome => ?_
    obtain ⟨⟨hne, hall⟩, -, rfl⟩ := takeDigits?_eq_some_iff.mp hsome
    obtain ⟨c, more, rfl⟩ := List.exists_cons_of_ne_nil hne
    have hc := hall c List.mem_cons_self
    rw [hd c rfl] at hc
    cases hc
  unfold numberedCircle?
  rw [trimStart_eq_self hb, hdigits]
  rfl

/-- The notice of how many circles were found starts with a mark or a letter, and has neither an arrow nor a hyphen. -/
theorem foundNotice_plain {mark ending : String} (hm : mark ∈ ["", "✖ "]) (he : ending ∈ ["y!", "ies!"])
    (count : Nat) :
    (∃ c more, foundNotice mark count ending = c :: more ∧ isBlank c = false ∧ isDecimal c = false ∧
        Json.isForeign c = true) ∧
      '→' ∉ foundNotice mark count ending ∧ '-' ∉ foundNotice mark count ending := by
  have hmark : mark.toList ⊆ "✖ ".toList :=
    (by decide : ∀ mark ∈ ["", "✖ "], mark.toList ⊆ "✖ ".toList) mark hm
  have hending : ending.toList ⊆ "yies!".toList :=
    (by decide : ∀ ending ∈ ["y!", "ies!"], ending.toList ⊆ "yies!".toList) ending he
  have hchars : ∀ c, isDecimal c = false →
      c ∉ "✖ ".toList ++ "Found ".toList ++ " circular dependenc".toList ++ "yies!".toList →
      c ∉ foundNotice mark count ending := by
    intro c hc hletters
    simp only [List.mem_append, not_or] at hletters
    obtain ⟨⟨⟨houtside, hfound⟩, hcircular⟩, hend⟩ := hletters
    simp only [foundNotice, List.mem_append, not_or]
    exact ⟨mt (hmark ·) houtside, hfound, (isDigits_toDigits count).not_mem hc, hcircular, mt (hending ·) hend⟩
  refine ⟨?_, hchars '→' (by decide +kernel) (by decide), hchars '-' (by decide +kernel) (by decide)⟩
  simp only [List.mem_cons, List.not_mem_nil, or_false] at hm
  rcases hm with rfl | rfl
  · exact ⟨'F', _, rfl, by decide +kernel, by decide +kernel, by decide +kernel⟩
  · exact ⟨'✖', _, rfl, by decide +kernel, by decide +kernel, by decide +kernel⟩

/-- A notice tells no circle. -/
theorem circleOfLine?_notice {line : List Char} (h : IsNotice line) : circleOfLine? line = none := by
  cases h with
  | blank hblank =>
    exact circleOfLine?_of_plain (numberedCircle?_of_allBlank hblank) (not_mem_of_allBlank hblank (by decide +kernel))
      (not_mem_of_allBlank hblank (by decide +kernel))
  | progress more =>
    exact if_pos (List.isPrefixOf_iff_prefix.mpr (List.prefix_append _ more))
  | found hm he count =>
    obtain ⟨⟨c, more, hline, hblank, hdecimal, -⟩, harrow, hhyphen⟩ := foundNotice_plain hm he count
    refine circleOfLine?_of_plain (numberedCircle?_of_stops ?_ ?_) harrow hhyphen
    · rw [hline]
      exact stops_cons hblank _
    · rw [hline]
      exact stops_cons hdecimal _

/-- A listing tells its circles. -/
theorem filterMap_listing {listed : List (List Char)} {circles : List (List String)} (h : Listing listed circles)
    (hc : ∀ circle ∈ circles, IsCircle circle) :
    listed.filterMap circleOfLine? = circles.map fun circle => (String.intercalate " > " circle).toList := by
  induction h with
  | done => rfl
  | notice hn _ ih => rw [List.filterMap_cons, circleOfLine?_notice hn, ih hc]
  | row number circle _ ih =>
    obtain ⟨hcircle, hcircles⟩ := List.forall_mem_cons.mp hc
    rw [List.filterMap_cons, circleOfLine?_row hcircle, ih hcircles, List.map_cons]

/-! ## Listings -/

/-- A text that starts with a foreign line behind its blanks is no document. -/
theorem not_document_of_foreign {c : Char} {more text : List Char} (hf : Json.isForeign c = true)
    (hb : isBlank c = false) (hstart : trimStart (c :: more) <+: trimStart text) : Json.read? (trim text) = none := by
  rw [trimStart_eq_self (stops_cons hb more)] at hstart
  obtain ⟨rest, hrest⟩ := hstart
  rw [trim, ← hrest, List.cons_append, trimEnd_cons hb]
  exact Json.read?_of_foreign hf _

/-- A text that starts with a line of a listing behind its blanks is no document: the line starts with
a capital letter, a mark or a number. -/
theorem Listing.not_document {listed : List (List Char)} {circles : List (List String)} (h : Listing listed circles)
    {line text : List Char} (hl : line ∈ listed) (hfull : allBlank line = false)
    (hstart : trimStart line <+: trimStart text) : Json.read? (trim text) = none := by
  induction h with
  | done => cases hl
  | notice hn _ ih =>
    rcases List.mem_cons.mp hl with rfl | hmore
    · cases hn with
      | blank hblank =>
        rw [hblank] at hfull
        cases hfull
      | progress more =>
        have hletter : Json.isForeign 'P' = true ∧ isBlank 'P' = false := by decide +kernel
        exact not_document_of_foreign hletter.1 hletter.2 hstart
      | found hm he count =>
        obtain ⟨⟨c, more, hline, hblank, -, hforeign⟩, -, -⟩ := foundNotice_plain hm he count
        rw [hline] at hstart
        exact not_document_of_foreign hforeign hblank hstart
    · exact ih hmore
  | row number circle _ ih =>
    rcases List.mem_cons.mp hl with rfl | hmore
    · rw [circleRow, trimStart_eq_self (stops_toDigits number _)] at hstart
      obtain ⟨rest, hrest⟩ := hstart
      rw [trim, ← hrest, List.append_assoc, List.cons_append, trimEnd_append_cons (by decide +kernel)]
      exact Json.read?_numbered number _
    · exact ih hmore

/-- Where a circle is listed a row stands. -/
theorem Listing.exists_row {listed : List (List Char)} {circles : List (List String)} (h : Listing listed circles)
    (hne : circles ≠ []) : ∃ number circle, circleRow number circle ∈ listed := by
  induction h with
  | done => exact absurd rfl hne
  | notice _ _ ih =>
    obtain ⟨number, circle, hrow⟩ := ih hne
    exact ⟨number, circle, List.mem_cons_of_mem _ hrow⟩
  | row number circle _ _ => exact ⟨number, circle, List.mem_cons_self⟩

/-- A listing with a circle is scanned. -/
theorem read_of_listing {stdout : String} {circles : List (List String)} (h : Listing (lines stdout.toList) circles)
    (hne : circles ≠ []) (stderr : String) : circular.read stdout stderr = .ok (.text stdout) := by
  have hfull : allBlank stdout.toList = false := by
    obtain ⟨number, circle, hrow⟩ := h.exists_row hne
    obtain ⟨c, digits, hdigits, hc⟩ := Json.toDigits_eq_cons number
    refine allBlank_of_mem_lines hrow ?_
    rw [circleRow, hdigits, List.cons_append, allBlank, List.all_cons, isBlank_of_isDigit c hc, Bool.false_and]
  obtain ⟨line, hline, hlineFull, hstart⟩ := exists_line_at_start hfull
  have hread := h.not_document hline hlineFull hstart
  exact congrArg Except.ok (Dialect.readJson_of_not_blank hread hfull stderr)

/-- A document tells the circles that have modules. -/
theorem circlesOf_document {circles : List (List String)} (hc : ∀ circle ∈ circles, IsCircle circle) :
    circlesOf (circlesDocument circles) = circles.map (String.intercalate " → ") := by
  have hkept : (circles.map fun circle => Value.list (circle.map .text)).filter (fun circle => !circle.items.isEmpty) =
      circles.map fun circle => .list (circle.map .text) := by
    refine List.filter_eq_self.mpr fun value hvalue => ?_
    obtain ⟨circle, hcircle, rfl⟩ := List.mem_map.mp hvalue
    change (!(circle.map Value.text).isEmpty) = true
    rw [List.isEmpty_map, List.isEmpty_eq_false_iff.mpr (hc circle hcircle).some]
    rfl
  have hnames : ∀ circle : List String, (circle.map Value.text).map Value.display = circle := by
    intro circle
    rw [List.map_map]
    exact List.map_id circle
  change ((circles.map fun circle => Value.list (circle.map .text)).filter _).map _ = _
  rw [hkept, List.map_map]
  exact List.map_congr_left fun circle _ => congrArg (String.intercalate " → ") (hnames circle)

end Madge

end Checkup
