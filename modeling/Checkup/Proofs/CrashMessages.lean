import Checkup.Proofs.EvidentFindings
import Checkup.Proofs.PrintedRows

/-!
# Crash messages of ESLint

A crash message is a line that starts with the word of a severity. Three things keep such a line
from giving an issue: it ends like the path of a file, it announces a number of problems, or the
numbers that are announced add up to one that cannot be written. An announcement is caught when
the whole text is searched again, so a crash is taken for a clean report exactly if every line that
speaks of an error or a warning ends like a path and nothing is announced.
-/

namespace Checkup.Eslint

open Text

/-- What the first word of a crash message may be. -/
def crashWords : List String := ["error", "error:", "warning", "warning:"]

/-- A line whose first word names a severity, with further text behind it. -/
def IsCrashMessage (line : List Char) : Prop :=
  ∃ indent word gap message, line = indent ++ (String.toList word ++ (gap ++ message)) ∧
    allBlank indent = true ∧ word ∈ crashWords ∧ IsGap gap ∧ allBlank message = false

/-- A line that speaks of an error or a warning. -/
def speaksOfFinding (line : List Char) : Bool := occurs "error".toList line || occurs "warning".toList line

/-- A text whose findings leave no trace. -/
structure IsSwallowed (stdout : String) : Prop where
  /-- Every line that speaks of an error or a warning reads like the path of a file. -/
  headers : ∀ line ∈ lines stdout.toList, speaksOfFinding line = true → (headerPath? line).isSome = true
  /-- No number of problems is announced. -/
  silent : (dialect none).announcements stdout = []

variable {root : Option String} {file : Value} {line : List Char} {rest : List (List Char)} {stdout : String}

/-! ## Lines that speak of findings -/

/-- A line speaks of a finding exactly if the word of a severity is a passage of it. -/
theorem speaksOfFinding_iff : speaksOfFinding line = true ↔ "error".toList <:+: line ∨ "warning".toList <:+: line := by
  rw [speaksOfFinding, Bool.or_eq_true, occurs_iff, occurs_iff]

/-- A crash message speaks of a finding. -/
theorem IsCrashMessage.speaks (h : IsCrashMessage line) : speaksOfFinding line = true := by
  obtain ⟨indent, word, gap, message, rfl, -, hword, -, -⟩ := h
  have hwords : ∀ word ∈ crashWords, speaksOfFinding word.toList = true := by decide
  have hinside : word.toList <:+: indent ++ (word.toList ++ (gap ++ message)) :=
    ⟨indent, gap ++ message, List.append_assoc _ _ _⟩
  exact speaksOfFinding_iff.mpr
    ((speaksOfFinding_iff.mp (hwords word hword)).imp (·.trans hinside) (·.trans hinside))

/-- A severity is taken where its word stands. -/
theorem speaksOfFinding_of_takeSeverity? {text : List Char} {taken : Severity × List Char}
    (h : takeSeverity? text = some taken) : speaksOfFinding text = true := by
  unfold takeSeverity? at h
  split at h
  · next behind herror =>
    rw [after?_eq_some] at herror
    exact speaksOfFinding_iff.mpr (.inl ⟨[], behind, by rw [herror, List.nil_append]⟩)
  · obtain ⟨behind, hwarning, -⟩ := Option.map_eq_some_iff.mp h
    rw [after?_eq_some] at hwarning
    exact speaksOfFinding_iff.mpr (.inr ⟨[], behind, by rw [hwarning, List.nil_append]⟩)

/-- A row speaks of a finding. -/
theorem speaksOfFinding_of_row? {row : Row} (h : row? line = some row) : speaksOfFinding line = true := by
  unfold row? at h
  obtain ⟨number, hindent, h⟩ := Option.bind_eq_some_iff.mp h
  obtain ⟨⟨digits, colon⟩, hdigits, h⟩ := Option.bind_eq_some_iff.mp h
  obtain ⟨column, hcolon, h⟩ := Option.bind_eq_some_iff.mp h
  obtain ⟨⟨more, gap⟩, hcolumn, h⟩ := Option.bind_eq_some_iff.mp h
  obtain ⟨severity, hgap, h⟩ := Option.bind_eq_some_iff.mp h
  obtain ⟨taken, htaken, -⟩ := Option.bind_eq_some_iff.mp h
  obtain ⟨-, indent, -, -, hline⟩ := takeBlanks?_eq_some_iff.mp hindent
  obtain ⟨-, -, hnumber⟩ := takeDigits?_eq_some_iff.mp hdigits
  obtain ⟨-, -, hplace⟩ := takeDigits?_eq_some_iff.mp hcolumn
  obtain ⟨-, blanks, -, -, hbehind⟩ := takeBlanks?_eq_some_iff.mp hgap
  have hsuffix : severity <:+ line := by
    refine ⟨indent ++ (digits ++ (':' :: (more ++ blanks))), ?_⟩
    rw [hline, hnumber, after?_eq_some.mp hcolon, hplace, hbehind]
    simp only [List.append_assoc, List.cons_append, List.nil_append]
  exact speaksOfFinding_iff.mpr ((speaksOfFinding_iff.mp (speaksOfFinding_of_takeSeverity? htaken)).imp
    (·.trans hsuffix.isInfix) (·.trans hsuffix.isInfix))

/-! ## What the lines give -/

/-- A line gives one issue at most, and says where the next lines are. It gives none exactly where it
speaks of no finding, reads like a path, or announces something without being a row. -/
theorem issuesOfLines_step (h : Value.isBadRoot root = false) (file : Value) (line : List Char)
    (rest : List (List Char)) : ∃ (given : Option Issue) (next : Value),
      issuesOfLines root file (line :: rest) =
        (issuesOfLines root next rest >>= fun more => .ok (given.toList ++ more)) ∧
      (given.isSome = true → speaksOfFinding line = true ∧ headerPath? line = none) ∧
      (given = none → speaksOfFinding line = true →
        (headerPath? line).isSome = true ∨ (firstSighting announcement none line).isSome = true) := by
  have hnothing : ∀ lines next, issuesOfLines root next lines =
      (issuesOfLines root next lines >>= fun more => .ok ((none : Option Issue).toList ++ more)) := by
    intro lines next
    cases issuesOfLines root next lines <;> rfl
  rw [issuesOfLines.eq_def]
  dsimp only
  split
  · next path hpath =>
    obtain ⟨next, hnext⟩ := Value.toPath_succeeds h (.text (String.ofList path))
    refine ⟨none, next, ?_, fun hsome => absurd hsome Bool.false_ne_true,
      fun _ _ => .inl (Option.isSome_of_mem hpath)⟩
    rw [hnext]
    exact hnothing rest next
  · next hpath =>
    split
    · next row path hrow =>
      obtain ⟨number, hnumber⟩ :=
        Value.toLine_succeeds (Value.not_isInfinite_text (String.ofList row.line))
      let issue : Issue := {
        severity := row.severity
        message := .text (String.ofList row.message)
        file := .text path
        line := .ofLine? number
        rule := .ofText? (row.rule.map String.ofList) }
      refine ⟨some issue, .text path, ?_, fun _ => ⟨speaksOfFinding_of_row? hrow, hpath⟩,
        fun hnone => absurd hnone (Option.some_ne_none _)⟩
      rw [hnumber]
      rfl
    · next file _ _ _ =>
      split
      · next hseen =>
        exact ⟨none, file, hnothing rest file, fun hsome => absurd hsome Bool.false_ne_true, fun _ _ => .inr hseen⟩
      · split
        · next hspeaks =>
          obtain ⟨issue, hissue⟩ := colonIssue_succeeds h line
          refine ⟨some issue, file, ?_, fun _ => ⟨hspeaks, hpath⟩,
            fun hnone => absurd hnone (Option.some_ne_none _)⟩
          rw [hissue]
          rfl
        · next hquiet =>
          exact ⟨none, file, hnothing rest file, fun hsome => absurd hsome Bool.false_ne_true,
            fun _ hspeaks => absurd hspeaks hquiet⟩

/-- Lines of which every one with a finding reads like a path give nothing. -/
theorem issuesOfLines_of_headers (h : Value.isBadRoot root = false) {lines : List (List Char)}
    (hl : ∀ line ∈ lines, speaksOfFinding line = true → (headerPath? line).isSome = true) :
    issuesOfLines root file lines = .ok [] := by
  induction lines generalizing file with
  | nil => rw [issuesOfLines]
  | cons line rest ih =>
    obtain ⟨hline, hrest⟩ := List.forall_mem_cons.mp hl
    obtain ⟨given, next, hstep, hgiven, -⟩ := issuesOfLines_step h file line rest
    have hnone : given = none := by
      refine Option.not_isSome_iff_eq_none.mp fun hsome => ?_
      obtain ⟨hspeaks, hpath⟩ := hgiven hsome
      have hheader := hline hspeaks
      rw [hpath] at hheader
      cases hheader
    rw [hstep, ih hrest, hnone]
    rfl

/-- Lines that give nothing read like a path or announce something wherever they speak of a finding. -/
theorem passed_of_issuesOfLines (h : Value.isBadRoot root = false) {lines : List (List Char)}
    (hn : issuesOfLines root file lines = .ok []) : ∀ line ∈ lines, speaksOfFinding line = true →
      (headerPath? line).isSome = true ∨ (firstSighting announcement none line).isSome = true := by
  induction lines generalizing file with
  | nil => exact fun line hline => by cases hline
  | cons line rest ih =>
    obtain ⟨given, next, hstep, -, hpassed⟩ := issuesOfLines_step h file line rest
    rw [hstep] at hn
    obtain ⟨more, hmore, hnil⟩ := bind_eq_ok_iff.mp hn
    obtain ⟨hgiven, rfl⟩ := List.append_eq_nil_iff.mp (Except.ok.inj hnil)
    exact List.forall_mem_cons.mpr ⟨hpassed (Option.toList_eq_nil_iff.mp hgiven), ih hmore⟩

/-! ## Announcements of a line -/

/-- The end of a line holds up whatever takes no blanks. -/
theorem stops_of_startsBroken {admits : Char → Bool} {back : List Char} (hb : StartsBroken back)
    (ha : ∀ c, admits c = true → isBlank c = false) : Stops admits back := by
  intro c hc
  refine Bool.eq_false_iff.mpr fun hadmits => ?_
  have hblank := isBlank_of_isLineBreak (hb c hc)
  rw [ha c hadmits] at hblank
  cases hblank

/-- Whether a word with an optional letter behind it ends is not changed by the end of the line. -/
theorem wordEnds_afterOptional_append {back : List Char} (hb : StartsBroken back) (text : List Char) :
    wordEnds (afterOptional ['s'] (text ++ back)) = wordEnds (afterOptional ['s'] text) := by
  have hback : wordEnds back = true := wordEnds_iff.mpr (stops_of_startsBroken hb fun c => isBlank_of_isWord)
  have hall : ∀ part, wordEnds (part ++ back) = wordEnds part := by
    rintro (_ | ⟨c, part⟩)
    · exact hback
    · rfl
  cases text with
  | nil =>
    have hplain : afterOptional ['s'] back = back := by
      obtain ⟨optional, rfl | rfl, hsplit⟩ := exists_optional ['s'] back
      · exact hsplit.symm
      · rw [hsplit] at hb
        exact absurd (hb 's' rfl) (by decide)
    rw [List.nil_append, hplain, hback]
    rfl
  | cons c text =>
    have hafter : afterOptional ['s'] (c :: text ++ back) = afterOptional ['s'] (c :: text) ++ back := by
      unfold afterOptional
      simp only [List.cons_append, after?]
      split <;> rfl
    rw [hafter, hall]

/-- A count that is announced in a line is announced with the end of the line behind it. -/
theorem announcement_append {back : List Char} (hb : StartsBroken back) (before : Option Char) (text : List Char)
    (found : Option (List Char)) (h : announcement before text = some found) :
    announcement before (text ++ back) = some found := by
  unfold announcement countedWord at h ⊢
  dsimp only at h ⊢
  split at h
  · next hstarts =>
    obtain ⟨⟨digits, counted⟩, hcount, h⟩ := Option.bind_eq_some_iff.mp h
    obtain ⟨named, hgap, h⟩ := Option.bind_eq_some_iff.mp h
    obtain ⟨ended, hword, h⟩ := Option.bind_eq_some_iff.mp h
    obtain ⟨d, more, rfl, hd, hmore, htext⟩ := takeCount?_eq_some hcount
    obtain ⟨-, blanks, hne, hblanks, hcounted⟩ := takeBlanks?_eq_some_iff.mp hgap
    dsimp only at hcounted
    rw [after?_eq_some] at hword
    have hcountBack : takeCount? (text ++ back) = some (d :: more, counted ++ back) := by
      obtain ⟨blank, blanks, rfl⟩ := List.exists_cons_of_ne_nil hne
      have hblank : isDecimal blank = false := by
        refine Bool.eq_false_iff.mpr fun hdecimal => ?_
        have hgap := List.all_eq_true.mp hblanks blank List.mem_cons_self
        rw [isBlank_of_isDecimal hdecimal] at hgap
        cases hgap
      rw [htext, hcounted]
      simp only [List.cons_append, List.append_assoc]
      exact takeCount?_append hd hmore hblank
    have hgapBack : takeBlanks? (counted ++ back) = some ("problem".toList ++ (ended ++ back)) := by
      rw [hcounted, hword, List.append_assoc, List.append_assoc]
      exact takeBlanks?_gap ⟨hne, hblanks⟩ (stops_cons rfl _)
    have hwordBack : after? "problem".toList ("problem".toList ++ (ended ++ back)) = some (ended ++ back) :=
      after?_eq_some.mpr rfl
    rw [if_pos hstarts]
    refine Option.bind_eq_some_iff.mpr ⟨_, hcountBack, ?_⟩
    refine Option.bind_eq_some_iff.mpr ⟨_, hgapBack, ?_⟩
    refine Option.bind_eq_some_iff.mpr ⟨_, hwordBack, ?_⟩
    rw [wordEnds_afterOptional_append hb]
    exact h
  · cases h

/-- Behind the end of a line announcements are those of a text of its own. -/
theorem sightings_behind_break {c : Char} (hc : isLineBreak c = true) (text : List Char) :
    sightings announcement (some c) text = sightings announcement none text := by
  have hword : isWord c = false := by
    refine Bool.eq_false_iff.mpr fun hword => ?_
    have hblank := isBlank_of_isLineBreak hc
    rw [isBlank_of_isWord hword] at hblank
    cases hblank
  have hstarts : wordStarts (some c) = wordStarts none := by
    change (!isWord c) = true
    rw [hword]
    rfl
  cases text with
  | nil => rfl
  | cons d text =>
    have hfirst : announcement (some c) (d :: text) = announcement none (d :: text) := by
      unfold announcement countedWord
      dsimp only
      rw [hstarts]
    rw [sightings, sightings, hfirst]

/-- What a line announces is announced in the text. -/
theorem announcements_ne_nil_of_line (hline : line ∈ lines stdout.toList)
    (hseen : (firstSighting announcement none line).isSome = true) : (dialect root).announcements stdout ≠ [] := by
  rw [firstSighting_eq_head?, List.isSome_head?] at hseen
  obtain ⟨found, hfound⟩ := List.exists_mem_of_ne_nil _ hseen
  have hback : ∀ back, StartsBroken back → found ∈ sightings announcement none (line ++ back) :=
    fun back hb => mem_sightings_append (announcement_append hb) hfound
  suffices hmem : found ∈ (dialect root).announcements stdout from List.ne_nil_of_mem hmem
  change found ∈ sightings announcement none stdout.toList
  obtain ⟨⟨back, hfirst, hbroken⟩, hother⟩ := lines_places stdout.toList
  cases hlines : lines stdout.toList with
  | nil =>
    rw [hlines] at hline
    cases hline
  | cons first more =>
    rw [hlines] at hline hfirst hother
    rcases List.mem_cons.mp hline with rfl | hmore
    · rw [hfirst]
      exact hback back hbroken
    · obtain ⟨front, c, behind, hsplit, hc, hends⟩ := hother line hmore
      obtain ⟨earlier, hearlier⟩ := exists_sightings_cons announcement none front c (line ++ behind)
      rw [hsplit, hearlier, sightings_behind_break hc]
      exact List.mem_append_right earlier (hback behind hends)

/-! ## Reading a crash message -/

/-- Output with a crash message is scanned if it is no document. -/
theorem read_of_crash_message (hj : Json.read? (trim stdout.toList) = none) (hline : line ∈ lines stdout.toList)
    (hcrash : IsCrashMessage line) (stderr : String) : (dialect root).read stdout stderr = .ok (.text stdout) := by
  have hfull : allBlank line = false := by
    rcases speaksOfFinding_iff.mp hcrash.speaks with h | h
    · exact not_allBlank_of_isInfix rfl h
    · exact not_allBlank_of_isInfix rfl h
  exact congrArg Except.ok (Dialect.readJson_of_not_blank hj (allBlank_of_mem_lines hline hfull) stderr)

/-- Text that is swallowed gives nothing. -/
theorem IsSwallowed.issues_eq (h : IsSwallowed stdout) (hroot : Value.isBadRoot root = false) {stderr : String}
    (hread : (dialect root).read stdout stderr = .ok (.text stdout)) :
    (dialect root).issues stdout stderr = .ok [] := by
  have hscan : (dialect root).ofText stdout = .ok [] := issuesOfLines_of_headers hroot h.headers
  have hnothing : (dialect root).FindsNothing stdout stderr := .inr ⟨stdout, hread, hscan⟩
  rw [hnothing.issues_eq]
  exact Dialect.unread_of_nil h.silent

/-- A crash message gives an issue, unless all findings of the text are swallowed or it announces more
problems than a number can say; and text whose findings are swallowed is taken for a clean report. -/
theorem issues_of_crash_message (hroot : Value.isBadRoot root = false)
    (hj : Json.read? (trim stdout.toList) = none) (hline : line ∈ lines stdout.toList)
    (hcrash : IsCrashMessage line) (stderr : String) :
    ((∃ found, (dialect root).issues stdout stderr = .ok found ∧ found ≠ []) ↔
        ¬(IsSwallowed stdout ∨ (dialect root).Overflows stdout stderr)) ∧
      (IsSwallowed stdout → (dialect root).issues stdout stderr = .ok []) := by
  have hread := @read_of_crash_message root _ _ hj hline hcrash stderr
  have hcounting := isCounting_countedWord takeBlanks? "problem"
  refine ⟨⟨?_, fun hkept => ?_⟩, fun hs => hs.issues_eq hroot hread⟩
  · rintro ⟨found, hfound, hne⟩ (hs | ⟨hnothing, hlarge⟩)
    · rw [hs.issues_eq hroot hread] at hfound
      exact hne (Except.ok.inj hfound).symm
    · obtain ⟨fault, hfault, -⟩ := Dialect.unread_of_unwritable hcounting hlarge
      rw [hnothing.issues_eq, hfault] at hfound
      cases hfound
  · obtain ⟨hkept, hfits⟩ := not_or.mp hkept
    obtain ⟨found, hscan⟩ := issuesOfLines_succeeds hroot .null (lines stdout.toList)
    by_cases hne : found = []
    · -- No line gives an issue, so what is not swallowed is announced.
      rw [hne] at hscan
      have hnothing : (dialect root).FindsNothing stdout stderr := .inr ⟨stdout, hread, hscan⟩
      have hseen : (dialect root).announcements stdout ≠ [] := by
        intro hsilent
        refine hkept ⟨fun line hline hspeaks => ?_, hsilent⟩
        exact (passed_of_issuesOfLines hroot hscan line hline hspeaks).resolve_right fun hseen =>
          announcements_ne_nil_of_line hline hseen hsilent
      have hsmall : (dialect root).total stdout < unwritable := Nat.not_le.mp fun hlarge => hfits ⟨hnothing, hlarge⟩
      have hunread := Dialect.unread_of_ne_nil hcounting hseen hsmall
      exact ⟨_, hnothing.issues_eq.trans hunread, List.cons_ne_nil _ _⟩
    · exact ⟨found, Dialect.issues_of_ofText hread hscan hne, hne⟩

/-- A message below the path of a file gives an issue. -/
theorem issues_of_crash_message_below_path :
    let stdout := "src/a.ts\r\n Error.\n\terror: cannot load the plugin\n"
    Value.isBadRoot (some "/repo") = false ∧ Json.read? (trim stdout.toList) = none ∧
      "\terror: cannot load the plugin".toList ∈ lines stdout.toList ∧
      IsCrashMessage "\terror: cannot load the plugin".toList ∧
      ∃ found, (dialect (some "/repo")).issues stdout "" = .ok found ∧ found ≠ [] := by
  intro stdout
  have hroot : Value.isBadRoot (some "/repo") = false := by
    simp [Value.isBadRoot]
  have hj : Json.read? (trim stdout.toList) = none := by decide +kernel
  have hline : "\terror: cannot load the plugin".toList ∈ lines stdout.toList := by decide +kernel
  have hcrash : IsCrashMessage "\terror: cannot load the plugin".toList :=
    ⟨['\t'], "error:", [' '], "cannot load the plugin".toList, rfl, rfl, by decide, ⟨by decide, rfl⟩, rfl⟩
  refine ⟨hroot, hj, hline, hcrash, (issues_of_crash_message hroot hj hline hcrash "").1.mpr ?_⟩
  rintro (hs | ⟨-, hlarge⟩)
  · have hheader := hs.headers _ hline hcrash.speaks
    revert hheader
    decide +kernel
  · have hsilent : (dialect (some "/repo")).announcements stdout = [] := by decide +kernel
    rw [show (dialect (some "/repo")).scanned stdout "" = stdout from rfl, Dialect.total, hsilent] at hlarge
    exact Nat.not_lt.mpr hlarge unwritable_pos

/-- A message that ends in the name of a file is taken for the path of one, and the crash for a clean report. -/
theorem issues_of_crash_header :
    let stdout := "error: cannot load eslint.config.js"
    Json.read? (trim stdout.toList) = none ∧ lines stdout.toList = [stdout.toList] ∧
      IsCrashMessage stdout.toList ∧ (dialect none).issues stdout "" = .ok [] := by
  intro stdout
  have hj : Json.read? (trim stdout.toList) = none := by decide +kernel
  have hlines : lines stdout.toList = [stdout.toList] := by decide +kernel
  have hcrash : IsCrashMessage stdout.toList :=
    ⟨[], "error:", [' '], "cannot load eslint.config.js".toList, by decide, rfl, by decide, ⟨by decide, rfl⟩, rfl⟩
  have hheaders : ∀ line ∈ lines stdout.toList, speaksOfFinding line = true → (headerPath? line).isSome = true := by
    decide +kernel
  have hsilent : (dialect none).announcements stdout = [] := by decide +kernel
  have hread := @read_of_crash_message none _ _ hj (by rw [hlines]; exact List.mem_cons_self) hcrash ""
  exact ⟨hj, hlines, hcrash, IsSwallowed.issues_eq ⟨hheaders, hsilent⟩ rfl hread⟩

end Checkup.Eslint
