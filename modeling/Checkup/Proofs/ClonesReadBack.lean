import Checkup.Proofs.DuplicateCounts
import Checkup.Proofs.PrintedBlocks
import Mathlib.Data.List.Basic

/-!
# Clones are read back

Every header of a printed text is the one of a block, since no other line holds its mark, nor do
two lines together. So printed clones are found block by block, by the pattern for whole blocks or
by the search among the lines of each, and their numbers are read back. The issues are the clones
again, whatever log lines stand between the lines, wherever colours are put in, and wherever the
text is cut into two streams. Only a number with more digits than are read stops the reading.
-/

namespace Checkup.Jscpd

open Text

variable {α : Type} {recognise : Recogniser α}

/-- Whatever the recogniser finds starts with the mark of a header. -/
def StartsAtHeader (recognise : Recogniser α) : Prop :=
  ∀ before text item, recognise before text = some item → header <+: text

/-- A text without blanks and a blank do not hold the mark, in which a letter follows the blank. -/
theorem not_isInfix_concat_blank {part : List Char} (hp : ' ' ∉ part) : ¬header <:+: part ++ [' '] := by
  rintro ⟨front, back, hinfix⟩
  have hmark : header = "Clone".toList ++ ' ' :: "found".toList := rfl
  rw [hmark, ← List.append_assoc, List.append_assoc _ (' ' :: _), List.cons_append] at hinfix
  obtain ⟨-, -, hback⟩ := (List.append_cons_inj_of_notMem hp List.not_mem_nil).mp hinfix.symm
  cases hback

/-- No digit is the first letter of the mark. -/
theorem ne_of_isDigit (c : Char) (h : c.isDigit = true) : c ≠ 'C' := by
  rintro rfl
  cases h

namespace StartsAtHeader

/-- A part without the first letter of the mark holds no header. -/
theorem isPlain_of_not_mem (h : StartsAtHeader recognise) {part : List Char} (hp : 'C' ∉ part) :
    IsPlain recognise part := by
  intro before back
  refine isBare_of_not_mem (fun before text item hfound => ?_) hp before back
  obtain ⟨rest, hrest⟩ := h before text item hfound
  rw [← hrest]
  rfl

/-- A part without the mark and a character behind it that the mark does not hold are no header. -/
theorem isPlain_concat (h : StartsAtHeader recognise) {part : List Char} {c : Char} (hp : ¬header <:+: part)
    (hc : c ∉ header) (hne : c ≠ 'C') : IsPlain recognise (part ++ [c]) := by
  intro before back
  have hlast : 'C' ∉ [c] := fun hm => hne (List.mem_singleton.mp hm).symm
  exact (isBare_of_not_isInfix h hp hc before back).append fun before => h.isPlain_of_not_mem hlast before back

/-- Log lines hold no header. -/
theorem isPlain_logged (h : StartsAtHeader recognise) (logs : List LogLine) : IsPlain recognise (logged logs) := by
  induction logs with
  | nil => exact fun _ _ => trivial
  | cons log logs ih =>
    rw [logged_cons, ← List.singleton_append, ← List.append_assoc]
    exact (h.isPlain_concat log.isLog.noHeader (by decide) (by decide)).append ih

/-- A place holds no header. -/
theorem isPlain_shown (h : StartsAtHeader recognise) (place : Place) : IsPlain recognise place.shown := by
  have hfile : ' ' ∉ place.file.toList := fun hm => by cases (place.isFile.plain ' ' hm).1
  obtain ⟨inside, hinside⟩ : ∃ inside, place.bracket.toList = '[' :: inside := ⟨_, place.toList_bracket⟩
  have hbracket : 'C' ∉ inside := fun hm =>
    place.forall_mem_bracket ne_of_isDigit (forall_mem_of_all rfl) 'C' (hinside ▸ List.mem_cons_of_mem '[' hm) rfl
  have hplain := (h.isPlain_concat (not_isInfix_concat_blank hfile) (c := '[') (by decide) (by decide)).append
    (h.isPlain_of_not_mem hbracket)
  rw [Place.shown, hinside]
  rwa [List.append_assoc, List.append_assoc] at hplain

/-- The line of a first place holds no header. -/
theorem isPlain_firstLine (h : StartsAtHeader recognise) (clone : Announced) :
    IsPlain recognise (clone.firstLine.toList ++ ['\n']) := by
  have hsize : 'C' ∉ ' ' :: (clone.size.toList ++ ['\n']) := fun hm => by
    rcases List.mem_append.mp ((List.mem_cons.mp hm).resolve_left (by decide)) with hm | hm
    · exact clone.forall_mem_size ne_of_isDigit (forall_mem_of_all rfl) 'C' hm rfl
    · revert hm
      decide
  have hplain := (h.isPlain_of_not_mem (by decide : 'C' ∉ [' ', '-', ' '])).append
    ((h.isPlain_shown clone.first).append (h.isPlain_of_not_mem hsize))
  rw [clone.toList_firstLine]
  simpa only [List.append_assoc, List.cons_append, List.nil_append] using hplain

/-- The line of a second place holds no header. -/
theorem isPlain_secondLine (h : StartsAtHeader recognise) (clone : Announced) :
    IsPlain recognise (clone.secondLine.toList ++ ['\n']) := by
  have hplain := (h.isPlain_of_not_mem (by decide : 'C' ∉ "   ".toList)).append
    ((h.isPlain_shown clone.second).append (h.isPlain_of_not_mem (by decide : 'C' ∉ ['\n'])))
  rw [clone.toList_secondLine]
  simpa only [List.append_assoc] using hplain

/-- What follows the mark of a block holds no further header. -/
theorem isPlain_body (h : StartsAtHeader recognise) (block : Block) : IsPlain recognise block.body := by
  have hlanguage : ¬header <:+: block.clone.language.toList ++ "):".toList := by
    intro hm
    rcases List.mem_append.mp (hm.subset (by decide : ' ' ∈ header)) with hblank | hblank
    · cases block.clone.isLanguage ' ' hblank
    · revert hblank
      decide
  have hopen : IsPlain recognise " (".toList := h.isPlain_of_not_mem (by decide)
  have hbody := hopen.append ((h.isPlain_concat hlanguage (c := '\n') (by decide) (by decide)).append
    ((h.isPlain_logged block.afterHeader).append ((h.isPlain_firstLine block.clone).append
      ((h.isPlain_logged block.afterFirst).append ((h.isPlain_secondLine block.clone).append
        (h.isPlain_logged block.afterSecond))))))
  rw [Block.body]
  simpa only [List.append_assoc, List.cons_append, List.nil_append] using hbody

/-- Behind a header and its block the sightings go on with the next block. -/
theorem exists_sightings_body (h : StartsAtHeader recognise) (block : Block) (before : Option Char)
    (rest : List Char) :
    ∃ character, sightings recognise before (header ++ (block.body ++ rest)) =
      (recognise before (header ++ (block.body ++ rest))).toList ++ sightings recognise character rest := by
  have hmark : header = 'C' :: "lone found".toList := rfl
  have hletters : 'C' ∉ "lone found".toList := by decide
  have hplain := ((h.isPlain_of_not_mem hletters).append (h.isPlain_body block)) (some 'C') rest
  have hlater := hplain.sightings_append
  rw [List.append_assoc] at hlater
  rw [hmark, List.cons_append, sightings, hlater]
  exact ⟨_, rfl⟩

end StartsAtHeader

/-! ## Texts of blocks -/

/-- The text of some blocks. -/
def shown (blocks : List Block) : List Char := blocks.flatMap fun block => header ++ block.body

/-- What is found in the text of some blocks is found at their headers, block by block. -/
theorem StartsAtHeader.map_sightings_shown {β : Type} (h : StartsAtHeader recognise) {f : α → β} {g : Block → Option β}
    (hg : ∀ block more before, (recognise before (header ++ (block.body ++ shown more))).map f = g block)
    (blocks : List Block) (before : Option Char) :
    (sightings recognise before (shown blocks)).map f = blocks.filterMap g := by
  induction blocks generalizing before with
  | nil => rfl
  | cons block blocks ih =>
    obtain ⟨character, hsightings⟩ := h.exists_sightings_body block before (shown blocks)
    have hhere := hg block blocks before
    rw [shown, List.flatMap_cons, List.append_assoc, ← shown, hsightings, List.map_append, ih character,
      List.filterMap_cons, ← hhere]
    cases recognise before (header ++ (block.body ++ shown blocks)) <;> rfl

/-- What is printed is the log lines and the blocks. -/
theorem printed_eq (before : List LogLine) (blocks : List Block) :
    printed before blocks = logged before ++ shown blocks := by
  have hblocks : ended (blocks.flatMap Block.lines) = shown blocks := by
    rw [ended, List.flatMap_assoc, shown]
    exact List.flatMap_congr fun block _ => ended_lines block
  rw [printed, ended_append, hblocks, logged]

/-- A mark that is found stands at the start. -/
theorem startsAtHeader_following : StartsAtHeader (following header) :=
  fun _ _ rest h => ⟨rest, (after?_eq_some.mp h).symm⟩

/-- A whole block starts with the mark. -/
theorem startsAtHeader_block? : StartsAtHeader fun _ text => block? text := by
  intro before text clone h
  change block? text = some clone at h
  unfold block? at h
  obtain ⟨start, hstart, -⟩ := Option.bind_eq_some_iff.mp h
  rw [after?_eq_some.mp hstart, toList_opening, List.append_assoc]
  exact List.prefix_append _ _

/-- Log lines before the first block make no difference to what is found. -/
theorem StartsAtHeader.exists_sightings_printed (h : StartsAtHeader recognise) (before : List LogLine)
    (blocks : List Block) :
    ∃ character, sightings recognise none (printed before blocks) = sightings recognise character (shown blocks) := by
  rw [printed_eq, (h.isPlain_logged before none (shown blocks)).sightings_append]
  exact ⟨_, rfl⟩

/-- No mark stands before the first of some blocks. -/
theorem upTo_shown (blocks : List Block) : upTo header (shown blocks) = [] := by
  cases blocks with
  | nil => rfl
  | cons block blocks =>
    refine upTo_of_isPrefix ?_
    rw [shown, List.flatMap_cons, List.append_assoc]
    exact List.prefix_append _ _

/-- The parts behind the marks are those of the blocks. -/
theorem partsAfter_printed (before : List LogLine) (blocks : List Block) :
    partsAfter header (printed before blocks) = blocks.map Block.body := by
  obtain ⟨character, hsightings⟩ := startsAtHeader_following.exists_sightings_printed before blocks
  have hbody : ∀ (block : Block) (more : List Block) (before : Option Char),
      (following header before (header ++ (block.body ++ shown more))).map (upTo header) = some block.body := by
    intro block more before
    have hbehind : following header before (header ++ (block.body ++ shown more)) = some (block.body ++ shown more) :=
      after?_eq_some.mpr rfl
    rw [hbehind, Option.map_some, upTo_append (startsAtHeader_following.isPlain_body block none (shown more)),
      upTo_shown, List.append_nil]
  rw [partsAfter, hsightings, startsAtHeader_following.map_sightings_shown hbody]
  exact congrFun List.filterMap_eq_map' blocks

/-- There are as many headers as blocks. -/
theorem headerCount_printed (before : List LogLine) (blocks : List Block) :
    headerCount (printed before blocks) = blocks.length := by
  have hparts := congrArg List.length (partsAfter_printed before blocks)
  rwa [partsAfter, List.length_map, List.length_map] at hparts

/-- The whole blocks that are found are those of the text, in their order. -/
theorem blocks_printed (before : List LogLine) (blocks : List Block) :
    Jscpd.blocks (printed before blocks) = (blocks.filter Block.isWhole).map fun block => block.clone.found := by
  obtain ⟨character, hsightings⟩ := startsAtHeader_block?.exists_sightings_printed before blocks
  have hwhole : ∀ (block : Block) (more : List Block) (_ : Option Char),
      (block? (header ++ (block.body ++ shown more))).map id =
        if block.isWhole then some block.clone.found else none := by
    intro block more _
    rw [Option.map_id, id, block?_body]
  have hmap := startsAtHeader_block?.map_sightings_shown hwhole blocks character
  rw [List.map_id] at hmap
  rw [Jscpd.blocks, hsightings, hmap, ← List.filterMap_filter]
  exact congrFun List.filterMap_eq_map' _

/-! ## Numbers -/

variable {before : List LogLine} {blocks : List Block}

/-- The fault of a number that is too long to be read. -/
def Announced.Exceeds (clone : Announced) (fault : Fault) : Prop :=
  ∃ n ∈ clone.numbers, unwritable ≤ n ∧ fault = .tooManyDigits (Nat.toDigits 10 n).length

/-- A number that can be written is read from its digits. -/
theorem number_toDigits {n : Nat} (h : n < unwritable) : number (Nat.toDigits 10 n) = .ok n := by
  rw [number, toNat?_toDigits_eq_some h]

/-- No other number is read. -/
theorem number_failsBy (n : Nat) : FailsBy (number (Nat.toDigits 10 n)) fun fault =>
    unwritable ≤ n ∧ fault = .tooManyDigits (Nat.toDigits 10 n).length := by
  by_cases h : n < unwritable
  · rw [number_toDigits h]
    exact (FailsBy.of_succeeds (.ok n)).congr fun fault => by simp [Nat.not_le.mpr h]
  · have hnumber : number (Nat.toDigits 10 n) = .error (.tooManyDigits (Nat.toDigits 10 n).length) := by
      rw [number, toNat?_toDigits_eq_none (Nat.not_lt.mp h)]
    rw [hnumber]
    constructor
    · rintro fault hfault
      cases hfault
      exact ⟨Nat.not_lt.mp h, rfl⟩
    · exact fun _ _ => ⟨_, rfl⟩

namespace Announced

/-- The clone with its numbers. -/
def duplicate (clone : Announced) : Duplicate where
  first := clone.first.file.toList
  firstRange := ⟨clone.first.first, clone.first.last⟩
  second := clone.second.file.toList
  secondRange := ⟨clone.second.first, clone.second.last⟩
  lines := clone.count

/-- A clone whose numbers can be written is read. -/
theorem read_found {clone : Announced} (h : ∀ n ∈ clone.numbers, n < unwritable) :
    clone.found.read = .ok clone.duplicate := by
  simp only [numbers, List.forall_mem_cons] at h
  obtain ⟨hfirst, hfirstLast, hsecond, hsecondLast, hcount, -⟩ := h
  simp only [Clone.read, found, Span.numbers, Place.span, number_toDigits, hfirst, hfirstLast, hsecond, hsecondLast,
    hcount, ok_bind, duplicate]

/-- Any other clone is not. -/
theorem read_found_failsBy (clone : Announced) : FailsBy clone.found.read clone.Exceeds := by
  have hspan : ∀ place : Place, FailsBy place.span.numbers fun fault =>
      (unwritable ≤ place.first ∧ fault = .tooManyDigits (Nat.toDigits 10 place.first).length) ∨
        (unwritable ≤ place.last ∧ fault = .tooManyDigits (Nat.toDigits 10 place.last).length) :=
    fun place => (number_failsBy place.first).bind fun _ _ => (number_failsBy place.last).bind_succeeds fun _ => .ok _
  refine ((hspan clone.first).bind fun _ _ => (hspan clone.second).bind fun _ _ =>
    (number_failsBy clone.count).bind_succeeds fun _ => .ok _).congr fun fault => ?_
  simp only [Exceeds, numbers, List.mem_cons, List.not_mem_nil, or_false, exists_eq_or_imp, exists_eq_left, or_assoc]

/-- A file is shown as it was printed. -/
theorem toPath_file {file : String} (h : IsFile file) : (Value.text file).toPath none = .ok (.text file) :=
  Value.toPath_none_text h.nonempty (trim_eq_self fun c hc => (h.plain c hc).1)
    fun hmem => (h.plain _ hmem).2.2.1 rfl

/-- The issue of a clone that is read is its warning. -/
theorem issueOf_duplicate (clone : Announced) : issueOf none clone.duplicate = .ok clone.issue := by
  have hfirst := toPath_file clone.first.isFile
  have hsecond := toPath_file clone.second.isFile
  have hword : ∀ rest, " " ++ ("L" ++ rest) = " L" ++ rest := fun rest => by
    rw [← String.append_assoc]
    rfl
  unfold issueOf duplicate
  dsimp only
  rw [String.ofList_toList, String.ofList_toList, hfirst, ok_bind, hsecond, ok_bind]
  simp only [issue, Value.display, rangeWord, String.append_assoc, hword]

end Announced

/-- Clones that can be read give their warnings, whichever reader found them. -/
theorem issues_of_found (h : ∀ block ∈ blocks, ∀ n ∈ block.clone.numbers, n < unwritable) :
    ((blocks.map fun block => block.clone.found).mapM Clone.read >>= fun clones => clones.mapM (issueOf none)) =
      .ok (blocks.map fun block => block.clone.issue) := by
  have hread : (blocks.map fun block => block.clone.found).mapM Clone.read =
      .ok (blocks.map fun block => block.clone.duplicate) :=
    mapM_map_eq_pure fun block hblock => Announced.read_found (h block hblock)
  rw [hread, ok_bind]
  exact mapM_map_eq_pure fun block _ => block.clone.issueOf_duplicate

/-- Clones are read, but for those with a number that is too long. -/
theorem mapM_found_failsBy (blocks : List Block) :
    FailsBy ((blocks.map fun block => block.clone.found).mapM Clone.read)
      fun fault => ∃ block ∈ blocks, block.clone.Exceeds fault := by
  rw [List.mapM_map]
  exact FailsBy.mapM fun block _ => block.clone.read_found_failsBy

/-! ## Readers -/

variable {stdout stderr : String}

/-- No line of a block holds the start of a colour. -/
theorem not_mem_of_mem_lines {block : Block} {line : String} (h : line ∈ block.lines) : escape ∉ line.toList := by
  have hdigit : ∀ c : Char, c.isDigit = true → c ≠ escape := by
    rintro c hc rfl
    cases hc
  have hsigns : ∀ c ∈ signs, c ≠ escape := forall_mem_of_all rfl
  have hlog : ∀ logs : List LogLine, line ∈ logs.map LogLine.text → escape ∉ line.toList := by
    intro logs hline
    obtain ⟨log, -, rfl⟩ := List.mem_map.mp hline
    exact log.isLog.noColour
  simp only [Block.lines, List.mem_cons, List.mem_append] at h
  rcases h with rfl | h | rfl | h | rfl | h
  case inl =>
    rw [block.clone.toList_headerLine]
    intro hm
    rcases List.mem_append.mp hm with hm | hm
    · revert hm
      decide
    · rcases List.mem_append.mp hm with hm | hm
      · revert hm
        decide
      · rcases List.mem_append.mp hm with hm | hm
        · cases block.clone.isLanguage escape hm
        · revert hm
          decide
  case inr.inr.inl =>
    exact fun hm => block.clone.forall_mem_firstLine hdigit hsigns
      (fun c hc => (block.clone.first.isFile.plain c hc).2.2.2) escape hm rfl
  case inr.inr.inr.inr.inl =>
    exact fun hm => block.clone.forall_mem_secondLine hdigit hsigns
      (fun c hc => (block.clone.second.isFile.plain c hc).2.2.2) escape hm rfl
  all_goals exact hlog _ h

/-- What is printed holds no colour. -/
theorem not_mem_printed (before : List LogLine) (blocks : List Block) : escape ∉ printed before blocks := by
  intro hm
  obtain ⟨line, hline, hmem⟩ := List.mem_flatMap.mp hm
  rcases List.mem_append.mp hmem with hmem | hmem
  · rcases List.mem_append.mp hline with hline | hline
    · obtain ⟨log, -, rfl⟩ := List.mem_map.mp hline
      exact log.isLog.noColour hmem
    · obtain ⟨block, -, hblock⟩ := List.mem_flatMap.mp hline
      exact not_mem_of_mem_lines hblock hmem
  · revert hmem
    decide

/-- The text that is scanned is what was printed. -/
theorem scanned_eq (h : Coloured (printed before blocks) (stdout ++ stderr).toList) :
    (scanned stdout stderr).toList = printed before blocks := by
  rw [scanned, String.toList_ofList, h.uncoloured_eq (not_mem_printed before blocks)]

/-- The search finds the clones of all blocks. -/
theorem issuesOfText_printed {text : String} (h : text.toList = printed before blocks) :
    issuesOfText none text =
      ((blocks.map fun block => block.clone.found).mapM Clone.read >>= fun clones => clones.mapM (issueOf none)) := by
  have hfound : (partsAfter header text.toList).filterMap (fun part => searchBlock none ((lines part).drop 1)) =
      blocks.map fun block => block.clone.found := by
    rw [h, partsAfter_printed, List.filterMap_map]
    exact (List.filterMap_congr fun block _ => searchBlock_body block).trans (congrFun List.filterMap_eq_map' blocks)
  rw [issuesOfText, hfound]

/-- The output has its structure exactly if every block is whole. -/
theorem read_printed (h : Coloured (printed before blocks) (stdout ++ stderr).toList) (hne : blocks ≠ []) :
    read stdout stderr =
      (((blocks.filter Block.isWhole).map fun block => block.clone.found).mapM Clone.read >>= fun clones =>
        .ok (if blocks.all Block.isWhole then .structured "console" clones else .text (scanned stdout stderr))) := by
  have hcount : headerCount (scanned stdout stderr).toList = blocks.length := by
    rw [scanned_eq h, headerCount_printed]
  have hblocks : Jscpd.blocks (scanned stdout stderr).toList =
      (blocks.filter Block.isWhole).map fun block => block.clone.found := by
    rw [scanned_eq h, blocks_printed]
  have hpos : ¬blocks.length = 0 := mt List.eq_nil_of_length_eq_zero hne
  unfold read
  dsimp only
  rw [hcount, hblocks, if_neg hpos]
  cases hread : ((blocks.filter Block.isWhole).map fun block => block.clone.found).mapM Clone.read with
  | error fault => rfl
  | ok clones =>
    have hlength : clones.length = blocks.length ↔ blocks.all Block.isWhole = true := by
      rw [length_of_mapM_eq_ok hread, List.length_map, List.length_filter_eq_length_iff, List.all_eq_true]
    rw [ok_bind, ok_bind]
    exact congrArg _ (if_congr hlength rfl rfl)

/-- Clones whose numbers can be written give their warnings, with the structure and without. -/
theorem issues_printed (h : Coloured (printed before blocks) (stdout ++ stderr).toList) (hne : blocks ≠ [])
    (hw : ∀ block ∈ blocks, ∀ n ∈ block.clone.numbers, n < unwritable) :
    (dialect none).issues stdout stderr = .ok (blocks.map fun block => block.clone.issue) := by
  have hsome : (blocks.map fun block => block.clone.issue) ≠ [] := mt List.map_eq_nil_iff.mp hne
  have hwhole : ((blocks.filter Block.isWhole).map fun block => block.clone.found).mapM Clone.read =
      .ok ((blocks.filter Block.isWhole).map fun block => block.clone.duplicate) :=
    mapM_map_eq_pure fun block hblock => Announced.read_found (hw block (List.mem_of_mem_filter hblock))
  have hread := read_printed h hne
  rw [hwhole, ok_bind] at hread
  cases hall : blocks.all Block.isWhole with
  | true =>
    have hfilter : blocks.filter Block.isWhole = blocks := List.filter_eq_self.mpr (List.all_eq_true.mp hall)
    rw [hall, if_pos rfl, hfilter] at hread
    rw [issues_of_structured hread]
    exact mapM_map_eq_pure fun block _ => block.clone.issueOf_duplicate
  | false =>
    rw [hall, if_neg Bool.false_ne_true] at hread
    exact Dialect.issues_of_ofText hread ((issuesOfText_printed (scanned_eq h)).trans (issues_of_found hw)) hsome

/-- Other clones give none, because of a number that is too long. -/
theorem exists_fault_printed (h : Coloured (printed before blocks) (stdout ++ stderr).toList) (hne : blocks ≠ [])
    (hw : ¬∀ block ∈ blocks, ∀ n ∈ block.clone.numbers, n < unwritable) :
    ∃ fault, (dialect none).issues stdout stderr = .error fault ∧ ∃ block ∈ blocks, block.clone.Exceeds fault := by
  obtain ⟨long, hlong, n, hn, hl⟩ : ∃ block ∈ blocks, ∃ n ∈ block.clone.numbers, unwritable ≤ n := by
    simpa only [not_forall, Nat.not_lt, exists_prop] using hw
  -- The clones of all blocks cannot be read, and the search reads them all.
  obtain ⟨fault, hfault⟩ := (mapM_found_failsBy blocks).fails _ ⟨long, hlong, n, hn, hl, rfl⟩
  have hcause := (mapM_found_failsBy blocks).caused fault hfault
  have hread := read_printed h hne
  cases hwhole : ((blocks.filter Block.isWhole).map fun block => block.clone.found).mapM Clone.read with
  | error early =>
    obtain ⟨block, hblock, hexceeds⟩ := (mapM_found_failsBy _).caused early hwhole
    rw [hwhole] at hread
    refine ⟨early, ?_, block, List.mem_of_mem_filter hblock, hexceeds⟩
    unfold Dialect.issues
    change read stdout stderr >>= _ = _
    rw [hread]
    rfl
  | ok clones =>
    have hall : blocks.all Block.isWhole = false := by
      rw [Bool.eq_false_iff]
      intro hall
      rw [List.filter_eq_self.mpr (List.all_eq_true.mp hall), hfault] at hwhole
      cases hwhole
    rw [hwhole, ok_bind, hall, if_neg Bool.false_ne_true] at hread
    refine ⟨fault, Dialect.issues_of_ofText_error hread ?_, hcause⟩
    have hissues := issuesOfText_printed (scanned_eq h)
    rw [hfault] at hissues
    exact hissues

/-! ## Clones read back -/

/-- What is made of the text in which clones are printed. -/
structure ReadsBack (clones : List Announced) (outcome : Outcome (List Issue)) : Prop where
  /-- The warnings about the clones, one for each in their order, if every number can be read. -/
  exact : (∀ clone ∈ clones, ∀ n ∈ clone.numbers, n < unwritable) → outcome = .ok (clones.map Announced.issue)
  /-- The fault of a number that is too long, if there is one. -/
  refused : (¬∀ clone ∈ clones, ∀ n ∈ clone.numbers, n < unwritable) →
    ∃ fault, outcome = .error fault ∧ ∃ clone ∈ clones, clone.Exceeds fault

/-- Printed clones are read back whatever log lines stand between their lines, wherever complete
colours are put in, and wherever the text is cut into two streams. -/
theorem readsBack_printed (hne : blocks ≠ []) (h : Coloured (printed before blocks) (stdout ++ stderr).toList) :
    ReadsBack (blocks.map Block.clone) ((dialect none).issues stdout stderr) := by
  constructor
  case exact =>
    intro hw
    rw [List.map_map]
    exact issues_printed h hne (List.forall_mem_map.mp hw)
  case refused =>
    intro hw
    obtain ⟨fault, hfault, block, hblock, hexceeds⟩ :=
      exists_fault_printed h hne fun hshort => hw (List.forall_mem_map.mpr hshort)
    exact ⟨fault, hfault, block.clone, List.mem_map_of_mem hblock, hexceeds⟩

/-- A clone with a log line between its places. -/
def interrupted (count : Nat) : Block where
  clone := {
    language := "ts"
    first := ⟨"a.ts", 1, 1, 20, 1, by decide, by decide, forall_mem_of_all rfl⟩
    second := ⟨"b.ts", 5, 1, 24, 1, by decide, by decide, forall_mem_of_all rfl⟩
    count
    tokens := 100
    isLanguage := forall_mem_of_all rfl }
  afterHeader := []
  afterFirst := [⟨"INFO detecting", by decide, by decide, by decide, by decide, by decide⟩]
  afterSecond := []

/-- A coloured header, and a text that is cut within a line. -/
theorem readsBack_printed_interrupted :
    let stdout := "\x1b[90mClone found (ts):\n - a.ts [1:1 - 20:1] (19 lines, 100 tokens)\nINFO detec"
    let stderr := "ting\n   b.ts [5:1 - 24:1]\n"
    [interrupted 19] ≠ [] ∧ Coloured (printed [] [interrupted 19]) (stdout ++ stderr).toList ∧
      ReadsBack [(interrupted 19).clone] ((dialect none).issues stdout stderr) := by
  intro stdout stderr
  have hne : [interrupted 19] ≠ [] := List.cons_ne_nil _ _
  have hcolour : IsColour "\x1b[90m".toList := ⟨['9', '0'], 'm', rfl, forall_mem_of_all rfl, rfl⟩
  have htext : (stdout ++ stderr).toList = "\x1b[90m".toList ++ printed [] [interrupted 19] := by
    decide
  have hcoloured : Coloured (printed [] [interrupted 19]) (stdout ++ stderr).toList :=
    htext ▸ .colour hcolour (.refl _)
  exact ⟨hne, hcoloured, readsBack_printed hne hcoloured⟩

/-- A number of lines with too many digits is not read, and neither is anything else. -/
theorem not_readBack_unwritable :
    let stdout := String.ofList (printed [] [interrupted unwritable])
    Coloured (printed [] [interrupted unwritable]) (stdout ++ "").toList ∧
      (dialect none).issues stdout "" ≠ .ok [(interrupted unwritable).clone.issue] := by
  intro stdout
  have htext : (stdout ++ "").toList = printed [] [interrupted unwritable] := by
    rw [String.append_empty, String.toList_ofList]
  have hcoloured : Coloured (printed [] [interrupted unwritable]) (stdout ++ "").toList := htext ▸ .refl _
  have hnumber : ∀ count, count ∈ (interrupted count).clone.numbers := fun count => by
    simp [Announced.numbers, interrupted]
  have hlong : ¬∀ block ∈ [interrupted unwritable], ∀ n ∈ block.clone.numbers, n < unwritable := fun h =>
    Nat.lt_irrefl unwritable (h _ List.mem_cons_self unwritable (hnumber unwritable))
  obtain ⟨fault, hfault, -⟩ := exists_fault_printed hcoloured (List.cons_ne_nil _ _) hlong
  refine ⟨hcoloured, fun hissues => ?_⟩
  rw [hfault] at hissues
  cases hissues

end Checkup.Jscpd
