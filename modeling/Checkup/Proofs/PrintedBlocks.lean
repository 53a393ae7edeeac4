import Checkup.Proofs.PrintedClones

/-!
# Blocks in one piece and in several

A block is whole if nothing but blanks stands between its lines. The pattern for a whole block
finds the clone of every block that is whole, and nothing where another line lies in between; it
cannot step over that line, nor take it for a file. The search among the lines of a block finds
the clone in either case.
-/

namespace Checkup.Jscpd

open Text

variable {logs : List LogLine} {place : Place} {clone : Announced} {block : Block} {rest : List Char}

/-- The clone that is found, with its digits. -/
def Announced.found (clone : Announced) : Clone where
  first := clone.first.file.toList
  firstSpan := clone.first.span
  second := clone.second.file.toList
  secondSpan := clone.second.span
  count := Nat.toDigits 10 clone.count

/-! ## The second place of a whole block -/

/-- A text with more than blanks behind a line with more than blanks is no second place:
the stretch would have to leave the line. -/
theorem longest_secondPlace?_eq_none {front mid : List Char} {c : Char} (hc : c ∈ front) (hb : isBlank c = false)
    (hf : '[' ∉ front) (hm : '[' ∉ mid) (hmid : allBlank mid = false) (back : List Char) :
    longest isBlank secondPlace? (front ++ '\n' :: (mid ++ back)) = none := by
  obtain ⟨start, more, rfl⟩ := List.append_of_mem hc
  refine longest_eq_none fun blanks place htext hall => shortest_eq_none fun stretch left hplace hstays => ?_
  -- The blanks end before the character, and the stretch before the end of its line.
  have hblank : c ∉ blanks := not_mem_of_allBlank hall hb
  have hfeed : '\n' ∉ stretch := fun hm => by cases List.all_eq_true.mp hstays '\n' hm
  rw [List.append_assoc, List.cons_append] at htext
  obtain ⟨before, hstart, rfl⟩ := exists_append_of_not_mem htext.symm hblank
  have hline : stretch ++ left = (before ++ c :: more) ++ '\n' :: (mid ++ back) := by
    rw [← hplace, List.append_assoc, List.cons_append]
  obtain ⟨behind, hbehind, rfl⟩ := exists_append_of_not_mem hline hfeed
  have hblanks : allBlank (behind ++ '\n' :: mid) = false :=
    not_allBlank_of_isInfix hmid (((List.suffix_cons _ mid).trans (List.suffix_append behind _)).isInfix)
  have hbracket : '[' ∉ behind ++ '\n' :: mid := by
    intro hbracket
    rcases List.mem_append.mp hbracket with hbehind' | hmid'
    · have hfront : '[' ∈ before ++ c :: more := hbehind ▸ List.mem_append_right stretch hbehind'
      rw [hstart, List.append_assoc] at hf
      exact hf (List.mem_append_right blanks hfront)
    · exact hm ((List.mem_cons.mp hmid').resolve_left (by decide))
  have hspan := takeSpan?_trimStart_append hblanks hbracket back
  rw [List.append_assoc, List.cons_append] at hspan
  rw [hspan, Option.map_none]

/-- Log lines with more than blanks hold one that has more. -/
theorem exists_log_of_allBlank (h : allBlank (logged logs) = false) :
    ∃ before log after c, logs = before ++ log :: after ∧ c ∈ log.text.toList ∧ isBlank c = false := by
  obtain ⟨c, hc, hblank⟩ := List.all_eq_false.mp h
  have hfeed : c ≠ '\n' := fun he => hblank (by rw [he]; rfl)
  obtain ⟨log, hlog, hmem⟩ := exists_of_mem_logged hc hfeed
  obtain ⟨before, after, rfl⟩ := List.append_of_mem hlog
  exact ⟨before, log, after, c, rfl, hmem, Bool.eq_false_iff.mpr hblank⟩

/-- Before the bracket of a second place stands more than blanks, and no other bracket. -/
theorem exists_before_bracket (logs : List LogLine) (place : Place) :
    ∃ mid back, allBlank mid = false ∧ '[' ∉ mid ∧
      ∀ rest, logged logs ++ ("   ".toList ++ (place.shown ++ rest)) = mid ++ (back ++ rest) := by
  have hfile := place.isFile.allBlank_of_suffix place.isFile.nonempty (List.suffix_refl _)
  refine ⟨logged logs ++ ("   ".toList ++ place.file.toList), ' ' :: place.bracket.toList, ?_, fun hm => ?_,
    fun rest => ?_⟩
  · exact not_allBlank_of_isInfix hfile ((List.suffix_append _ _).trans (List.suffix_append _ _)).isInfix
  · rcases List.mem_append.mp hm with hm | hm
    · exact not_mem_logged_bracket logs hm
    · exact (List.mem_append.mp hm).elim (by decide) place.isFile.not_mem_bracket
  · simp only [Place.shown, List.append_assoc]

/-- Behind a line feed the second place is searched. -/
theorem nextLine?_cons_feed (text : List Char) :
    nextLine? ('\n' :: text) = (longest isBlank secondPlace? text).map (·.2) := rfl

/-- The second place is found on the next line exactly if nothing but blanks stands before it. -/
theorem nextLine?_logged (logs : List LogLine) (place : Place) (rest : List Char) :
    nextLine? ('\n' :: (logged logs ++ ("   ".toList ++ (place.shown ++ rest)))) =
      if allBlank (logged logs) then some (place.file.toList, place.span) else none := by
  rw [nextLine?_cons_feed]
  have hindent : allBlank "   ".toList = true := rfl
  split
  · next hb =>
    have hblanks : ∀ c ∈ logged logs ++ "   ".toList, isBlank c = true :=
      List.forall_mem_append.mpr ⟨List.all_eq_true.mp hb, List.all_eq_true.mp hindent⟩
    have hstops : Stops isBlank (place.shown ++ rest) := by
      rw [Place.shown, List.append_assoc]
      exact place.isFile.stops _
    have hfound : secondPlace? (place.shown ++ rest) = some (place.file.toList, place.span) :=
      place.shortest_shown (fun _ => staysOnLine_of_isBlank) rest
    rw [← List.append_assoc, longest_append hblanks hstops hfound, Option.map_some]
  · next hb =>
    obtain ⟨before, log, after, c, rfl, hc, hblank⟩ := exists_log_of_allBlank (Bool.eq_false_iff.mpr hb)
    obtain ⟨mid, back, hmid, hbracket, htext⟩ := exists_before_bracket after place
    have hline : c ∈ logged before ++ log.text.toList := List.mem_append_right _ hc
    have hnone : '[' ∉ logged before ++ log.text.toList := fun hm =>
      (List.mem_append.mp hm).elim (not_mem_logged_bracket before) log.isLog.noBracket
    have hlongest := longest_secondPlace?_eq_none hline hblank hnone hbracket hmid (back ++ rest)
    rw [← htext] at hlongest
    rw [logged_append, logged_cons, List.append_assoc, List.append_assoc, List.cons_append, ← List.append_assoc,
      hlongest, Option.map_none]

/-! ## The first place of a whole block -/

/-- What follows the first file is read if the second place is. -/
theorem firstTail?_bracket (clone : Announced) {blanks : List Char} (hb : allBlank blanks = true) (rest : List Char) :
    firstTail? (blanks ++ (clone.first.bracket.toList ++ ' ' :: (clone.size.toList ++ rest))) =
      (nextLine? rest).map fun second => (clone.first.span, Nat.toDigits 10 clone.count, second) := by
  obtain ⟨behind, hcount, hclose⟩ := clone.takeLineCount?_size rest
  have hstops : trimStart (clone.first.bracket.toList ++ ' ' :: (clone.size.toList ++ rest)) =
      clone.first.bracket.toList ++ ' ' :: (clone.size.toList ++ rest) := by
    rw [clone.first.toList_bracket]
    rfl
  have hbracket : after? [')'] (')' :: rest) = some rest := rfl
  unfold firstTail?
  simp only [trimStart_append hb, hstops, clone.first.takeSpan?_bracket, hcount, hclose, hbracket, Option.bind_eq_bind,
    Option.bind_some]
  cases nextLine? rest <;> rfl

/-- Without a span nothing follows a first file. -/
theorem firstTail?_eq_none {text : List Char} (h : takeSpan? (trimStart text) = none) : firstTail? text = none := by
  unfold firstTail?
  rw [h]
  rfl

/-- No bracket opens behind the one of the first place. -/
theorem exists_tail_firstLine (clone : Announced) :
    ∃ inside, clone.first.bracket.toList ++ ' ' :: clone.size.toList = '[' :: inside ∧ '[' ∉ inside := by
  rw [clone.first.toList_bracket, clone.toList_size, List.cons_append]
  refine ⟨_, rfl, ?_⟩
  simp [not_mem_toDigits]

/-- Nothing follows a first file that ends anywhere on the line, if no second place is read. -/
theorem firstTail?_of_suffix {left mid back : List Char}
    (hl : left <:+ ' ' :: (clone.first.shown ++ ' ' :: clone.size.toList)) (hm : '[' ∉ mid)
    (hb : allBlank mid = false) (hn : nextLine? ('\n' :: (mid ++ back)) = none) :
    firstTail? (left ++ '\n' :: (mid ++ back)) = none := by
  obtain ⟨inside, hinside, hbracket⟩ := exists_tail_firstLine clone
  have hline : ' ' :: (clone.first.shown ++ ' ' :: clone.size.toList) =
      (' ' :: (clone.first.file.toList ++ [' '])) ++ ('[' :: inside) := by
    rw [← hinside, Place.shown]
    simp only [List.append_assoc, List.cons_append, List.nil_append]
  have hfront : '[' ∉ ' ' :: (clone.first.file.toList ++ [' ']) := by
    simp [clone.first.isFile.not_mem_bracket]
  -- Either the stretch ends before the bracket, which is read, or behind it, where no other is.
  have hbefore : ∀ front, front <:+ ' ' :: (clone.first.file.toList ++ [' ']) →
      firstTail? (front ++ ('[' :: inside) ++ '\n' :: (mid ++ back)) = none := by
    intro front hsuffix
    cases hblank : allBlank front with
    | true =>
      have htail := firstTail?_bracket clone hblank ('\n' :: (mid ++ back))
      rw [hn, Option.map_none] at htail
      rw [← hinside, List.append_assoc, List.append_assoc, List.cons_append]
      exact htail
    | false =>
      rw [List.append_assoc]
      exact firstTail?_eq_none (takeSpan?_trimStart_append hblank (fun h => hfront (hsuffix.mem h)) _)
  rw [hline] at hl
  rcases List.suffix_or_suffix_of_suffix hl (List.suffix_append _ _) with hshort | ⟨front, rfl⟩
  · rcases List.suffix_cons_iff.mp hshort with rfl | hlater
    · exact hbefore [] List.nil_suffix
    · have hblank : allBlank (left ++ '\n' :: mid) = false :=
        not_allBlank_of_isInfix hb ((List.suffix_cons _ mid).trans (List.suffix_append left _)).isInfix
      have hnone : '[' ∉ left ++ '\n' :: mid := fun h => (List.mem_append.mp h).elim (fun h => hbracket (hlater.mem h))
        fun h => hm ((List.mem_cons.mp h).resolve_left (by decide))
      have hspan := takeSpan?_trimStart_append hblank hnone back
      rw [List.append_assoc, List.cons_append] at hspan
      exact firstTail?_eq_none hspan
  · obtain ⟨earlier, hearlier⟩ := hl
    rw [← List.append_assoc] at hearlier
    exact hbefore front ⟨earlier, List.append_cancel_right hearlier⟩

/-- The first place of a block is read with its file if the second place is. -/
theorem longest_firstTail? (clone : Announced) {mid back : List Char} (hm : '[' ∉ mid) (hb : allBlank mid = false) :
    longest isBlank (shortest staysOnLine firstTail?)
        (' ' :: (clone.first.shown ++ ' ' :: (clone.size.toList ++ '\n' :: (mid ++ back)))) =
      (nextLine? ('\n' :: (mid ++ back))).map fun second =>
        ([' '], clone.first.file.toList, clone.first.span, Nat.toDigits 10 clone.count, second) := by
  have hfile := clone.first.isFile
  have hblank : allBlank [' '] = true := rfl
  cases hnext : nextLine? ('\n' :: (mid ++ back)) with
  | some second =>
    have htail := firstTail?_bracket clone hblank ('\n' :: (mid ++ back))
    rw [hnext] at htail
    have hshortest := hfile.shortest_append (fun _ => staysOnLine_of_isBlank) (fun _ => firstTail?_eq_none) htail
    have hlongest := longest_append (List.all_eq_true.mp hblank) (hfile.stops _) hshortest
    rw [Place.shown, List.append_assoc, List.cons_append, ← List.singleton_append,
      ← @List.singleton_append _ ' ' (_ ++ _), hlongest, Option.map_some]
  | none =>
    refine longest_eq_none fun blanks place htext hall => shortest_eq_none fun stretch left hplace hstays => ?_
    -- The blanks end before the file, and the stretch with the line.
    obtain ⟨c, letters, hletters⟩ := List.exists_cons_of_ne_nil hfile.nonempty
    have hc : isBlank c = false := (hfile.plain c (by rw [hletters]; exact List.mem_cons_self)).1
    have hstart : blanks ++ place = [' '] ++ c :: (letters ++ ' ' :: (clone.first.bracket.toList ++ ' ' ::
        (clone.size.toList ++ '\n' :: (mid ++ back)))) := by
      rw [← htext, Place.shown, hletters]
      simp only [List.append_assoc, List.cons_append, List.nil_append]
    obtain ⟨before, hbefore, -⟩ := exists_append_of_not_mem hstart (not_mem_of_allBlank hall hc)
    have hblanks : '\n' ∉ blanks := fun h => by
      have hmem : '\n' ∈ [' '] := hbefore ▸ List.mem_append_left before h
      revert hmem
      decide
    have hfeed : '\n' ∉ blanks ++ stretch := fun h => (List.mem_append.mp h).elim hblanks fun h => by
      cases List.all_eq_true.mp hstays '\n' h
    have hline : (blanks ++ stretch) ++ left = (' ' :: (clone.first.shown ++ ' ' :: clone.size.toList)) ++
        '\n' :: (mid ++ back) := by
      rw [List.append_assoc, ← hplace, ← htext]
      simp only [List.append_assoc, List.cons_append]
    obtain ⟨later, hlater, rfl⟩ := exists_append_of_not_mem hline hfeed
    exact firstTail?_of_suffix ⟨_, hlater.symm⟩ hm hb hnext

/-- The places of a block are read exactly if nothing but blanks stands between them. -/
theorem longest_firstTail?_logged (clone : Announced) (logs : List LogLine) (rest : List Char) :
    longest isBlank (shortest staysOnLine firstTail?) (' ' :: (clone.first.shown ++ ' ' :: (clone.size.toList ++
        '\n' :: (logged logs ++ (clone.secondLine.toList ++ rest))))) =
      if allBlank (logged logs) then
        some ([' '], clone.first.file.toList, clone.first.span, Nat.toDigits 10 clone.count,
          clone.second.file.toList, clone.second.span)
      else none := by
  obtain ⟨mid, back, hmid, hbracket, htext⟩ := exists_before_bracket logs clone.second
  have hplace := @longest_firstTail? clone mid (back ++ rest) hbracket hmid
  rw [clone.toList_secondLine, List.append_assoc, htext, hplace, ← htext, nextLine?_logged]
  split <;> rfl

/-! ## Whole blocks -/

/-- What follows the mark of a block. -/
def Block.body (block : Block) : List Char :=
  " (".toList ++ (block.clone.language.toList ++ ("):".toList ++ '\n' :: (logged block.afterHeader ++
    (block.clone.firstLine.toList ++ '\n' :: (logged block.afterFirst ++
      (block.clone.secondLine.toList ++ '\n' :: logged block.afterSecond))))))

/-- A block is its mark and what follows it. -/
theorem ended_lines (block : Block) : ended block.lines = header ++ block.body := by
  rw [Block.lines, ended_cons, ended_append, ended_cons, ended_append, ended_cons, block.clone.toList_headerLine,
    Block.body]
  simp only [List.append_assoc, logged]

/-- A block is whole if it tells its language and nothing but blanks stands between its lines. -/
def Block.isWhole (block : Block) : Bool :=
  !block.clone.language.toList.isEmpty && (allBlank (logged block.afterHeader) && allBlank (logged block.afterFirst))

/-- The pattern finds the clone of a block exactly if the block is whole. -/
theorem block?_body (block : Block) (rest : List Char) :
    block? (header ++ (block.body ++ rest)) = if block.isWhole then some block.clone.found else none := by
  have hstart : ∀ tail, after? "Clone found (".toList (header ++ (" (".toList ++ tail)) = some tail := by
    intro tail
    rw [toList_opening]
    exact after?_eq_some.mpr (List.append_assoc _ _ _).symm
  have hclose : ∀ tail, after? "):".toList ("):".toList ++ tail) = some tail := fun tail => after?_eq_some.mpr rfl
  have hfeed : ∀ tail, (('\n' :: tail).takeWhile isBlank).contains '\n' = true := fun tail => by
    rw [List.takeWhile_cons_of_pos rfl, List.contains_cons]
    rfl
  have hhyphen : ∀ tail, after? ['-'] (trimStart ('\n' :: (logged block.afterHeader ++ ' ' :: '-' :: tail))) =
      if allBlank (logged block.afterHeader) then some tail else none := fun tail =>
    (congrArg _ (@trimStart_append ['\n'] rfl _)).trans (after?_hyphen_logged _ _)
  unfold block? Block.body
  simp only [List.append_assoc, List.cons_append, hstart, Option.bind_eq_bind, Option.bind_some]
  cases hl : block.clone.language.toList with
  | nil =>
    have hwhole : block.isWhole = false := by
      rw [Block.isWhole, hl]
      rfl
    rw [hwhole, if_neg Bool.false_ne_true]
    rfl
  | cons c letters =>
    have hletters : ∀ d ∈ c :: letters, isWord d = true := hl ▸ block.clone.isLanguage
    have hword : ∀ tail, run? isWord (c :: letters ++ ("):".toList ++ tail)) =
        some (c :: letters, "):".toList ++ tail) :=
      fun tail => run?_eq_some_iff.mpr ⟨List.cons_ne_nil c letters, hletters, stops_cons (by decide) _, rfl⟩
    have hwhole : block.isWhole = (allBlank (logged block.afterHeader) && allBlank (logged block.afterFirst)) := by
      rw [Block.isWhole, hl]
      rfl
    rw [← List.cons_append, hword]
    simp only [Option.bind_some, hclose, hfeed, if_true, block.clone.toList_firstLine, List.cons_append, hhyphen]
    have hplace := longest_firstTail?_logged block.clone block.afterFirst ('\n' :: (logged block.afterSecond ++ rest))
    rw [hwhole, List.append_assoc, List.cons_append]
    cases allBlank (logged block.afterHeader) with
    | true =>
      rw [if_pos rfl, Option.bind_some, hplace, Bool.true_and]
      split <;> rfl
    | false => rfl

/-! ## Blocks in several pieces -/

/-- Without a bracket there is no span. -/
theorem takeSpan?_of_not_mem {text : List Char} (h : '[' ∉ text) : takeSpan? (trimStart text) = none := by
  refine Option.eq_none_iff_forall_ne_some.mpr fun ⟨span, rest⟩ hspan => h ?_
  have hmem : '[' ∈ trimStart text := List.mem_of_mem_head? (Option.mem_def.mpr (head?_of_takeSpan? hspan))
  exact (text.dropWhile_suffix isBlank).mem hmem

/-- Without a bracket there is no first place. -/
theorem firstPlace?_of_not_mem {text : List Char} (h : '[' ∉ text) : firstPlace? text = none := by
  unfold firstPlace?
  cases hstart : after? ['-'] text with
  | none => rfl
  | some start =>
    have hlongest : longest isBlank (shortest (fun _ => true) looseTail?) start = none := by
      refine longest_eq_none fun blanks place hplace _ => shortest_eq_none fun stretch left hleft _ => ?_
      have hnone : '[' ∉ left := by
        rw [after?_eq_some.mp hstart, hplace, hleft] at h
        simp only [List.mem_append, not_or] at h
        exact h.2.2.2
      unfold looseTail?
      rw [takeSpan?_of_not_mem hnone]
      rfl
    change (longest isBlank (shortest (fun _ => true) looseTail?) start).bind _ = none
    rw [hlongest]
    rfl

/-- A line without a bracket holds no first place. -/
theorem firstSighting_of_not_mem {line : List Char} (h : '[' ∉ line) :
    firstSighting (fun _ text => firstPlace? text) none line = none := by
  rw [firstSighting_eq_head?]
  refine Option.eq_none_iff_forall_ne_some.mpr fun found hfound => ?_
  obtain ⟨before, rest, hrest, hplace⟩ := exists_of_mem_sightings (List.mem_of_mem_head? (Option.mem_def.mpr hfound))
  rw [firstPlace?_of_not_mem fun hm => h (hrest.mem hm)] at hplace
  cases hplace

/-- A line without a bracket is no second place. -/
theorem secondLine?_of_not_mem {line : List Char} (h : '[' ∉ line) : secondLine? line = none := by
  have hplace : secondLine?.place (trimStart line) = none := by
    refine shortest_eq_none fun stretch left hleft _ => ?_
    have hnone : '[' ∉ left := fun hm => h ((line.dropWhile_suffix isBlank).mem (by
      rw [trimStart] at hleft
      rw [hleft]
      exact List.mem_append_right stretch hm))
    rw [takeSpan?_of_not_mem hnone, Option.map_none]
  unfold secondLine?
  split
  · next c rest heq =>
    rw [heq] at hplace
    rw [hplace, ite_self]
  · exact hplace

/-- The search passes over lines without brackets. -/
theorem searchBlock_append {found : Option (List Char × Span × List Char)} {pieces : List (List Char)}
    (h : ∀ piece ∈ pieces, '[' ∉ piece) (more : List (List Char)) :
    searchBlock found (pieces ++ more) = searchBlock found more := by
  induction pieces with
  | nil => rfl
  | cons piece pieces ih =>
    obtain ⟨hpiece, hpieces⟩ := List.forall_mem_cons.mp h
    rw [List.cons_append]
    cases found with
    | none => rw [searchBlock, firstSighting_of_not_mem hpiece, ih hpieces]
    | some found =>
      rw [searchBlock, secondLine?_of_not_mem hpiece]
      exact ih hpieces

/-- The line of a first place is found with its file and digits. -/
theorem firstSighting_firstLine (clone : Announced) :
    firstSighting (fun _ text => firstPlace? text) none clone.firstLine.toList =
      some (clone.first.file.toList, clone.first.span, Nat.toDigits 10 clone.count) := by
  have hfile := clone.first.isFile
  have hblank : ∀ c ∈ [' '], isBlank c = true := forall_mem_of_all rfl
  obtain ⟨behind, hcount, -⟩ := clone.takeLineCount?_size []
  rw [List.append_nil] at hcount
  have htail : looseTail? (' ' :: (clone.first.bracket.toList ++ ' ' :: clone.size.toList)) =
      some (clone.first.span, Nat.toDigits 10 clone.count) := by
    unfold looseTail?
    simp only [clone.first.takeSpan?_blank_bracket, hcount, Option.bind_eq_bind, Option.bind_some]
  have hnone : ∀ text, takeSpan? (trimStart text) = none → looseTail? text = none := by
    intro text h
    unfold looseTail?
    rw [h]
    rfl
  have hadmits : ∀ c, isBlank c = false → (fun _ : Char => true) c = true := fun _ _ => rfl
  have hshortest := hfile.shortest_append hadmits hnone htail
  have hlongest := longest_append hblank (hfile.stops _) hshortest
  have hplace : firstPlace? ('-' :: ' ' :: (clone.first.shown ++ ' ' :: clone.size.toList)) =
      some (clone.first.file.toList, clone.first.span, Nat.toDigits 10 clone.count) := by
    have hstart : after? ['-'] ('-' :: ' ' :: (clone.first.shown ++ ' ' :: clone.size.toList)) =
        some ([' '] ++ (clone.first.file.toList ++
          ' ' :: (clone.first.bracket.toList ++ ' ' :: clone.size.toList))) := by
      rw [after?_eq_some, Place.shown, List.append_assoc]
      rfl
    unfold firstPlace?
    simp only [hstart, hlongest, Option.bind_eq_bind, Option.bind_some]
  have hfirst : ∀ text, firstPlace? (' ' :: text) = none := fun text => rfl
  rw [clone.toList_firstLine, firstSighting, hfirst, firstSighting, hplace]

/-- The line of a second place gives its file and digits. -/
theorem secondLine?_secondLine (clone : Announced) :
    secondLine? clone.secondLine.toList = some (clone.second.file.toList, clone.second.span) := by
  have hfile := clone.second.isFile
  have hplace : secondLine?.place clone.second.shown = some (clone.second.file.toList, clone.second.span) := by
    have hadmits : ∀ c, isBlank c = false → (fun _ : Char => true) c = true := fun _ _ => rfl
    have hshortest := clone.second.shortest_shown hadmits []
    rwa [List.append_nil] at hshortest
  have htrim : trimStart clone.secondLine.toList = clone.second.shown := by
    rw [clone.toList_secondLine, trimStart_append rfl]
    exact trimStart_eq_self (hfile.stops _)
  unfold secondLine?
  split
  · next c rest heq =>
    rw [htrim] at heq
    -- The file is no lone hyphen, so what follows the hyphen belongs to the file.
    have hc : isBlank c = false := by
      obtain ⟨d, letters, hletters⟩ := List.exists_cons_of_ne_nil hfile.nonempty
      rw [Place.shown, hletters, List.cons_append] at heq
      obtain ⟨rfl, hmore⟩ := List.cons_eq_cons.mp heq
      cases letters with
      | nil => exact absurd hletters hfile.notHyphen
      | cons e letters =>
        obtain ⟨rfl, -⟩ := List.cons_eq_cons.mp hmore
        exact (hfile.plain e (by rw [hletters]; exact List.mem_cons_of_mem _ List.mem_cons_self)).1
    rw [hc, if_neg Bool.false_ne_true, ← heq, hplace]
  · rw [htrim, hplace]

/-- The text of log lines is cut apart from what follows it. -/
theorem lines_logged_append (logs : List LogLine) (rest : List Char) :
    lines (logged logs ++ rest) = lines (logged logs) ++ lines rest := by
  induction logs with
  | nil => rfl
  | cons log logs ih =>
    rw [logged_cons, List.append_assoc, List.cons_append, lines_append, ih, lines_append log.text.toList (logged logs),
      List.append_assoc]

/-- The lines of log lines hold no bracket. -/
theorem not_mem_of_mem_lines_logged {piece : List Char} (h : piece ∈ lines (logged logs)) : '[' ∉ piece :=
  fun hm => not_mem_logged_bracket logs ((isInfix_of_mem_lines h).mem hm)

/-- A block is cut into its header, its two places, and lines without brackets. -/
theorem exists_lines_body (block : Block) :
    ∃ start above between below, lines block.body =
        start :: (above ++ block.clone.firstLine.toList :: (between ++ block.clone.secondLine.toList :: below)) ∧
      (∀ piece ∈ above, '[' ∉ piece) ∧ (∀ piece ∈ between, '[' ∉ piece) := by
  have hdigit : ∀ c, c.isDigit = true → isLineBreak c = false :=
    fun c h => isLineBreak_of_isBlank (isBlank_of_isDigit c h)
  have hsigns : ∀ c ∈ signs, isLineBreak c = false := forall_mem_of_all rfl
  have hfirst := block.clone.forall_mem_firstLine hdigit hsigns
    fun c hc => isLineBreak_of_isBlank (block.clone.first.isFile.plain c hc).1
  have hsecond := block.clone.forall_mem_secondLine hdigit hsigns
    fun c hc => isLineBreak_of_isBlank (block.clone.second.isFile.plain c hc).1
  have hstart : ∀ c ∈ " (".toList ++ (block.clone.language.toList ++ "):".toList), isLineBreak c = false := by
    simp only [List.forall_mem_append]
    exact ⟨forall_mem_of_all rfl,
      fun c hc => isLineBreak_of_isBlank (isBlank_of_isWord (block.clone.isLanguage c hc)), forall_mem_of_all rfl⟩
  refine ⟨" (".toList ++ (block.clone.language.toList ++ "):".toList), lines (logged block.afterHeader),
    lines (logged block.afterFirst), lines (logged block.afterSecond), ?_, fun _ => not_mem_of_mem_lines_logged,
    fun _ => not_mem_of_mem_lines_logged⟩
  rw [Block.body, ← List.append_assoc block.clone.language.toList, ← List.append_assoc, lines_append_line hstart,
    lines_logged_append, lines_append_line hfirst, lines_logged_append, lines_append_line hsecond]

/-- The search among the lines of a block finds its clone. -/
theorem searchBlock_body (block : Block) : searchBlock none ((lines block.body).drop 1) = some block.clone.found := by
  obtain ⟨start, above, between, below, hlines, habove, hbetween⟩ := exists_lines_body block
  have hplain : ∀ place : Place, trim place.file.toList = place.file.toList :=
    fun place => trim_eq_self fun c hc => (place.isFile.plain c hc).1
  rw [hlines, List.drop_one, List.tail_cons, searchBlock_append habove, searchBlock, firstSighting_firstLine,
    searchBlock_append hbetween, searchBlock, secondLine?_secondLine]
  dsimp only
  rw [hplain, hplain, Announced.found]

end Checkup.Jscpd
