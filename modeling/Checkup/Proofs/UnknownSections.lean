import Checkup.Proofs.EvidentFindings
import Checkup.Proofs.SectionsReadBack

/-!
# Sections of knip that are not known

The text of knip is read in two ways that exclude each other: by its known sections, or, where these
give nothing, by the lines that speak of something unused. So a section with an unknown title shows
by its title line alone, and only where no row of a known section stands before it. Below one row of
a known section it is dropped, and the issues are what they were without it.
-/

namespace Checkup.Knip

open Text

/-! ## Lines below a header -/

/-- A line that opens a known section. -/
def IsKnownHeader (line : List Char) : Prop :=
  ∃ title, title? (trim line) = some title ∧
    (sectionCategories.lookup (String.ofList (lower title))).isSome = true

/-- A line that is a row if a known section is open. -/
def IsRow (line : List Char) : Prop := allBlank line = false ∧ ¬IsHeader (trim line)

/-- A known header with a row right below it. -/
def ShowsKnownRow (lines : List (List Char)) : Prop :=
  ∃ front opening row back, lines = front ++ opening :: row :: back ∧ IsKnownHeader opening ∧ IsRow row

variable {root : Option String} {seen : Option Category} {line : List Char} {rest : List (List Char)}

/-- The rows below a header stand right below the first line or further down. -/
theorem showsKnownRow_cons : ShowsKnownRow (line :: rest) ↔
    (IsKnownHeader line ∧ ∃ row back, rest = row :: back ∧ IsRow row) ∨ ShowsKnownRow rest := by
  constructor
  · rintro ⟨front, opening, row, back, hlines, hopening, hrow⟩
    cases front with
    | nil =>
      obtain ⟨rfl, rfl⟩ := List.cons_eq_cons.mp hlines
      exact .inl ⟨hopening, row, back, rfl, hrow⟩
    | cons first front =>
      obtain ⟨-, rfl⟩ := List.cons_eq_cons.mp hlines
      exact .inr ⟨front, opening, row, back, rfl, hopening, hrow⟩
  · rintro (⟨hopening, row, back, rfl, hrow⟩ | ⟨front, opening, row, back, rfl, hopening, hrow⟩)
    · exact ⟨[], line, row, back, rfl, hopening, hrow⟩
    · exact ⟨line :: front, opening, row, back, rfl, hopening, hrow⟩

/-- A header is neither a row nor blank. -/
theorem not_isRow_of_title? {title : List Char} (h : title? (trim line) = some title) : ¬IsRow line :=
  fun hrow => hrow.2 (isSome_title?_iff.mp (Option.isSome_of_mem h))

/-- A line that opens a known section has a title. -/
theorem not_isKnownHeader_of_title? (h : title? (trim line) = none) : ¬IsKnownHeader line := by
  rintro ⟨title, htitle, -⟩
  rw [h] at htitle
  cases htitle

/-- Nothing is left of a line exactly if it is blank. -/
theorem isEmpty_trim_iff : (trim line).isEmpty = true ↔ allBlank line = true := by
  constructor
  · exact fun h => allBlank_of_trim (List.isEmpty_iff.mp h)
  · intro h
    rw [trim, trimStart_of_allBlank h]
    rfl

/-- The sections give nothing exactly if the open one does not go on with a row and no known one starts with one. -/
theorem sectionIssues_eq_nil_iff {lines : List (List Char)} : sectionIssues root seen lines = .ok [] ↔
    ¬((seen.isSome = true ∧ ∃ row back, lines = row :: back ∧ IsRow row) ∨ ShowsKnownRow lines) := by
  induction lines generalizing seen with
  | nil =>
    rw [sectionIssues]
    refine iff_of_true rfl ?_
    rintro (⟨-, row, back, hnil, -⟩ | ⟨front, opening, row, back, hnil, -⟩)
    · cases hnil
    · cases front <;> cases hnil
  | cons line rest ih =>
    have hfirst : (∃ row back, line :: rest = row :: back ∧ IsRow row) ↔ IsRow line := by
      constructor
      · rintro ⟨row, back, hcons, hrow⟩
        cases hcons
        exact hrow
      · exact fun hrow => ⟨line, rest, rfl, hrow⟩
    rw [showsKnownRow_cons, hfirst, sectionIssues.eq_def]
    dsimp only
    split
    · next title htitle =>
      have hknown : IsKnownHeader line ↔
          (sectionCategories.lookup (String.ofList (lower title))).isSome = true := by
        constructor
        · rintro ⟨same, hsame, hlookup⟩
          rw [htitle] at hsame
          cases hsame
          exact hlookup
        · exact fun hlookup => ⟨title, htitle, hlookup⟩
      rw [ih, hknown]
      exact not_congr (or_iff_right fun hrow => not_isRow_of_title? htitle hrow.2).symm
    · next htitle =>
      have hunknown : ¬(IsKnownHeader line ∧ ∃ row back, rest = row :: back ∧ IsRow row) :=
        fun hk => not_isKnownHeader_of_title? htitle hk.1
      rw [or_iff_right hunknown]
      have hclosed : sectionIssues root none rest = .ok [] ↔ ¬ShowsKnownRow rest :=
        ih.trans (not_congr (or_iff_right fun hnone => absurd hnone.1 Bool.false_ne_true))
      split
      · next hblank =>
        rw [hclosed]
        refine not_congr (or_iff_right fun hrow => ?_).symm
        have hfalse := isEmpty_trim_iff.mp hblank
        rw [hrow.2.1] at hfalse
        cases hfalse
      · next hfull =>
        cases seen with
        | none =>
          rw [hclosed]
          exact not_congr (or_iff_right fun hnone => absurd hnone.1 Bool.false_ne_true).symm
        | some known =>
          -- The row gives an issue of its own, or it stops the reading.
          have hrow : IsRow line := by
            refine ⟨Bool.eq_false_iff.mpr (mt isEmpty_trim_iff.mpr hfull), fun hheader => ?_⟩
            have hsome := isSome_title?_iff.mpr hheader
            rw [htitle] at hsome
            cases hsome
          refine iff_of_false (fun h => ?_) (not_not_intro (.inl ⟨rfl, hrow⟩))
          obtain ⟨issue, -, h⟩ := bind_eq_ok_iff.mp h
          obtain ⟨more, -, h⟩ := bind_eq_ok_iff.mp h
          cases h

/-- A text gives nothing by its sections exactly if no known one has a row. -/
theorem sectionIssues_none_eq_nil_iff {lines : List (List Char)} :
    sectionIssues root none lines = .ok [] ↔ ¬ShowsKnownRow lines :=
  sectionIssues_eq_nil_iff.trans (not_congr (or_iff_right fun hnone => absurd hnone.1 Bool.false_ne_true))

/-- Lines that open no known section give nothing while none is open. -/
theorem sectionIssues_of_unknown {lines : List (List Char)} (h : ∀ line ∈ lines, ¬IsKnownHeader line) :
    sectionIssues root none lines = .ok [] := by
  induction lines with
  | nil => rw [sectionIssues]
  | cons line rest ih =>
    obtain ⟨hline, hrest⟩ := List.forall_mem_cons.mp h
    rw [sectionIssues.eq_def]
    dsimp only
    split
    · next title htitle =>
      have hnone : sectionCategories.lookup (String.ofList (lower title)) = none :=
        Option.not_isSome_iff_eq_none.mp fun hsome => hline ⟨title, htitle, hsome⟩
      rw [hnone, ih hrest]
    · split
      · exact ih hrest
      · exact ih hrest

/-- Behind a blank line, lines that open no known section change nothing. -/
theorem sectionIssues_append_unknown {blank : List Char} {lines more : List (List Char)}
    (hb : allBlank blank = true) (h : ∀ line ∈ more, ¬IsKnownHeader line) :
    sectionIssues root seen (lines ++ blank :: more) = sectionIssues root seen lines := by
  induction lines generalizing seen with
  | nil =>
    rw [List.nil_append, sectionIssues_blank hb, sectionIssues_of_unknown h, sectionIssues]
  | cons line lines ih =>
    rw [List.cons_append, sectionIssues.eq_def, sectionIssues.eq_def root seen (line :: lines)]
    dsimp only
    split
    · exact ih
    · split
      · exact ih
      · split
        · exact ih
        · rw [ih]

/-! ## A section with an unknown title -/

/-- A section whose title is not in the table, with a row below it. -/
structure UnknownSection where
  words : String
  count : Nat
  rows : String
  /-- The words end in no blank and hold no end of a line. -/
  isWords : ∃ c, words.toList.getLast? = some c ∧ isBlank c = false
  isLine : ∀ c ∈ words.toList, isLineBreak c = false
  isUnknown : sectionCategories.lookup (String.ofList (lower ("Unused ".toList ++ words.toList))) = none
  /-- No line below the title has the shape of a header, and one is not blank. -/
  noHeader : ∀ line ∈ lines rows.toList, ¬IsHeader (trim line)
  hasRow : ∃ line ∈ lines rows.toList, allBlank line = false

/-- What makes a blank line behind a text: one line feed where a line ends already, else two. -/
def blankLineBehind (text : List Char) : List Char :=
  if text = [] ∨ text.getLast? = some '\n' then ['\n'] else ['\n', '\n']

namespace UnknownSection

variable (added : UnknownSection)

/-- The line above the rows. -/
def titleLine : List Char := header ("Unused ".toList ++ added.words.toList) added.count

/-- The section below a report, with a blank line between them. -/
def below (report : String) : String :=
  String.ofList (report.toList ++ (blankLineBehind report.toList ++ (added.titleLine ++ '\n' :: added.rows.toList)))

/-- The title ends in no blank. -/
theorem isBlank_of_getLast_title : ∀ c ∈ ("Unused ".toList ++ added.words.toList).getLast?, isBlank c = false := by
  obtain ⟨c, hlast, hblank⟩ := added.isWords
  intro d hd
  rw [List.getLast?_append, hlast] at hd
  cases hd
  exact hblank

/-- No end of a line stands in the title line. -/
theorem isLineBreak_of_mem_titleLine : ∀ c ∈ added.titleLine, isLineBreak c = false := by
  have hunused : ∀ c ∈ "Unused ".toList, isLineBreak c = false := forall_mem_of_all rfl
  have hdigits : ∀ c ∈ Nat.toDigits 10 added.count, isLineBreak c = false :=
    fun c hc => isLineBreak_of_isBlank ((isDigits_toDigits added.count).isBlank_of_mem c hc)
  rw [titleLine, header]
  simp only [List.forall_mem_append, List.forall_mem_cons]
  exact ⟨⟨hunused, added.isLine⟩, rfl, rfl, hdigits, rfl, fun c hc => absurd hc List.not_mem_nil⟩

/-- The title line opens no known section. -/
theorem not_isKnownHeader_titleLine : ¬IsKnownHeader added.titleLine := by
  have htrim : trim added.titleLine = added.titleLine :=
    trim_header ⟨List.cons_ne_nil _ _, stops_cons rfl _⟩ added.count
  rintro ⟨title, htitle, hlookup⟩
  rw [htrim] at htitle
  rw [eq_of_title?_header added.isBlank_of_getLast_title htitle, added.isUnknown] at hlookup
  cases hlookup

/-- The title line speaks of something unused. -/
theorem speaksOfUnused_titleLine : speaksOfUnused added.titleLine = true := by
  have hspells : Spells "Unused".toList "unused".toList := ⟨by decide, forall_mem_of_all rfl⟩
  refine occurs_iff.mpr (isInfix_lower_of_spells hspells ⟨[], ?_⟩)
  exact ⟨' ' :: (added.words.toList ++ ' ' :: '(' :: (Nat.toDigits 10 added.count ++ [')'])), by
    rw [titleLine, header, List.append_assoc]
    rfl⟩

/-! ## A report with a section below it -/

/-- Below the lines of a report stand blank lines, the title line and the rows. -/
theorem lines_below (report : String) : ∃ blanks, lines (added.below report).toList =
    lines report.toList ++ [] :: (List.replicate blanks [] ++ added.titleLine :: lines added.rows.toList) := by
  have hadded : lines (added.titleLine ++ '\n' :: added.rows.toList) = added.titleLine :: lines added.rows.toList :=
    lines_append_line added.isLineBreak_of_mem_titleLine _
  rw [below, String.toList_ofList, blankLineBehind]
  split
  · next hend =>
    have hreport : lines (report.toList ++ ['\n']) = lines report.toList ++ [[]] := by
      rcases hend with hnil | hlast
      · rw [hnil]
        exact lines_cons_feed []
      · obtain ⟨front, hfront⟩ := List.getLast?_eq_some_iff.mp hlast
        rw [hfront, List.append_assoc, List.singleton_append, lines_append, lines_cons_feed, lines]
    refine ⟨0, ?_⟩
    rw [List.singleton_append, lines_append, hreport, hadded, List.append_assoc]
    rfl
  · have hbelow : lines ('\n' :: (added.titleLine ++ '\n' :: added.rows.toList)) =
        [] :: added.titleLine :: lines added.rows.toList := by
      rw [lines_cons_feed, hadded]
    have hsplit : report.toList ++ (['\n', '\n'] ++ (added.titleLine ++ '\n' :: added.rows.toList)) =
        report.toList ++ '\n' :: '\n' :: (added.titleLine ++ '\n' :: added.rows.toList) := rfl
    rw [hsplit, lines_append, hbelow]
    rcases lines_feed report.toList with hreport | hreport
    · exact ⟨0, by rw [hreport]; rfl⟩
    · refine ⟨1, ?_⟩
      rw [hreport, List.append_assoc]
      rfl

/-- None of the lines below a report opens a known section. -/
theorem not_isKnownHeader_below (blanks : Nat) :
    ∀ line ∈ List.replicate blanks [] ++ added.titleLine :: lines added.rows.toList, ¬IsKnownHeader line := by
  have hblank : ∀ line ∈ List.replicate blanks ([] : List Char), ¬IsKnownHeader line := fun line hline => by
    rw [List.eq_of_mem_replicate hline]
    exact not_isKnownHeader_of_title? rfl
  have hrows : ∀ line ∈ lines added.rows.toList, ¬IsKnownHeader line :=
    fun line hline => not_isKnownHeader_of_title? (title?_eq_none (added.noHeader line hline))
  exact List.forall_mem_append.mpr ⟨hblank, List.forall_mem_cons.mpr ⟨added.not_isKnownHeader_titleLine, hrows⟩⟩

/-- The sections of a report give what they give without the section below. -/
theorem sectionIssues_below (report : String) :
    sectionIssues root none (lines (added.below report).toList) = sectionIssues root none (lines report.toList) := by
  obtain ⟨blanks, hlines⟩ := added.lines_below report
  rw [hlines]
  exact sectionIssues_append_unknown rfl (added.not_isKnownHeader_below blanks)

/-- The lines that speak of something unused are those of the report, the title line, and some of the rows. -/
theorem filter_speaksOfUnused_below (report : String) :
    (lines (added.below report).toList).filter speaksOfUnused = (lines report.toList).filter speaksOfUnused ++
      added.titleLine :: (lines added.rows.toList).filter speaksOfUnused := by
  obtain ⟨blanks, hlines⟩ := added.lines_below report
  have hblank : speaksOfUnused [] = false := rfl
  have hblanks : (List.replicate blanks ([] : List Char)).filter speaksOfUnused = [] := by
    refine List.filter_eq_nil_iff.mpr fun line hline => ?_
    rw [List.eq_of_mem_replicate hline, hblank]
    exact Bool.false_ne_true
  rw [hlines, List.filter_append, List.filter_cons_of_neg (by rw [hblank]; exact Bool.false_ne_true),
    List.filter_append, hblanks, List.nil_append, List.filter_cons_of_pos added.speaksOfUnused_titleLine]

/-- A report that is no document is none with the section below it: the title line starts with a letter
that no part of a document starts with. -/
theorem read?_below (report : String) : Json.read? (trim (added.below report).toList) = none := by
  obtain ⟨gap, hgap⟩ : ∃ gap, blankLineBehind report.toList = gap ++ ['\n'] := by
    unfold blankLineBehind
    split
    · exact ⟨[], rfl⟩
    · exact ⟨['\n'], rfl⟩
  obtain ⟨tail, htail⟩ : ∃ tail, added.titleLine ++ '\n' :: added.rows.toList = 'U' :: tail := ⟨_, rfl⟩
  have hsplit : (added.below report).toList = (report.toList ++ gap) ++ '\n' :: 'U' :: tail := by
    rw [below, String.toList_ofList, hgap, htail]
    simp only [List.append_assoc, List.cons_append, List.nil_append]
  rw [hsplit]
  exact Json.read?_trim_of_foreign_line (by decide) (by decide) _ tail

end UnknownSection

/-! ## How many issues there are -/

/-- The issues of the lines that speak of something unused. -/
def plainIssues (lines : List (List Char)) : List Issue :=
  (lines.filter speaksOfUnused).map fun line => { severity := .warning, message := .text (String.ofList (trim line)) }

/-- Lines of which none speaks of something unused give nothing. -/
theorem plainIssues_eq_nil_iff {lines : List (List Char)} :
    plainIssues lines = [] ↔ ∀ line ∈ lines, speaksOfUnused line = false := by
  refine List.map_eq_nil_iff.trans (List.filter_eq_nil_iff.trans ?_)
  simp only [Bool.not_eq_true]

/-- Where no known section has a row, a text gives the issues of its lines. -/
theorem ofText_of_not_showsKnownRow {text : String} (h : ¬ShowsKnownRow (lines text.toList)) :
    (dialect root).ofText text = .ok (plainIssues (lines text.toList)) := by
  change (sectionIssues root none (lines text.toList) >>= _) = _
  rw [sectionIssues_none_eq_nil_iff.mpr h]
  rfl

/-- Where a known section has a row, the issues are those of the sections. -/
theorem issues_of_showsKnownRow {stdout : String} (hj : Json.read? (trim stdout.toList) = none)
    (h : ShowsKnownRow (lines stdout.toList)) (stderr : String) :
    (dialect root).issues stdout stderr = sectionIssues root none (lines stdout.toList) := by
  have hblank : allBlank stdout.toList = false := by
    obtain ⟨front, opening, row, back, hlines, -, hrow⟩ := h
    refine @allBlank_of_mem_lines row _ ?_ hrow.1
    rw [hlines]
    exact List.mem_append_right _ (List.mem_cons_of_mem _ List.mem_cons_self)
  have hread : (dialect root).read stdout stderr = .ok (.text stdout) :=
    congrArg Except.ok (Dialect.readJson_of_not_blank hj hblank stderr)
  have hne : sectionIssues root none (lines stdout.toList) ≠ .ok [] := fun hn => sectionIssues_none_eq_nil_iff.mp hn h
  cases hfound : sectionIssues root none (lines stdout.toList) with
  | error fault =>
    refine Dialect.issues_of_ofText_error hread ?_
    change (sectionIssues root none (lines stdout.toList) >>= _) = _
    rw [hfound]
    rfl
  | ok found =>
    have hfull : found ≠ [] := fun hn => hne (by rw [hfound, hn])
    refine Dialect.issues_of_ofText hread ?_ hfull
    change (sectionIssues root none (lines stdout.toList) >>= _) = _
    rw [hfound, ok_bind, List.isEmpty_eq_false_iff.mpr hfull]
    rfl

/-- Where no known section has a row, the issues are those of the lines, if there are any. -/
theorem issues_of_plain {stdout : String} (hj : Json.read? (trim stdout.toList) = none)
    (h : ¬ShowsKnownRow (lines stdout.toList)) {line : List Char} (hline : line ∈ lines stdout.toList)
    (hspeaks : speaksOfUnused line = true) (stderr : String) :
    (dialect root).issues stdout stderr = .ok (plainIssues (lines stdout.toList)) := by
  have hfull : allBlank line = false := allBlank_eq_false_of_lower (by decide) (isPlainLetter_of_all rfl)
    (occurs_iff.mp hspeaks)
  have hread : (dialect root).read stdout stderr = .ok (.text stdout) :=
    congrArg Except.ok (Dialect.readJson_of_not_blank hj (allBlank_of_mem_lines hline hfull) stderr)
  refine Dialect.issues_of_ofText hread (ofText_of_not_showsKnownRow h) (mt List.map_eq_nil_iff.mp ?_)
  exact List.ne_nil_of_mem (List.mem_filter.mpr ⟨hline, hspeaks⟩)

/-- Where no known section has a row and no line speaks of something unused, announcements are counted. -/
theorem issues_of_quiet {stdout : String} (hj : Json.read? (trim stdout.toList) = none)
    (h : ¬ShowsKnownRow (lines stdout.toList)) (hquiet : ∀ line ∈ lines stdout.toList, speaksOfUnused line = false)
    (stderr : String) : (dialect root).issues stdout stderr = (dialect root).unread stdout := by
  suffices hnothing : (dialect root).FindsNothing stdout stderr from hnothing.issues_eq
  cases hblank : allBlank stdout.toList with
  | true =>
    refine .inl ?_
    change Except.ok (Dialect.readJson schemaOf Dialect.stdoutOnly stdout stderr) = _
    rw [Dialect.readJson_of_not_read hj, hblank]
    rfl
  | false =>
    refine .inr ⟨stdout, congrArg Except.ok (Dialect.readJson_of_not_blank hj hblank stderr), ?_⟩
    rw [ofText_of_not_showsKnownRow h, plainIssues_eq_nil_iff.mpr hquiet]

/-! ## What is dropped -/

namespace UnknownSection

variable (added : UnknownSection) {report : String}

/-- A section below a report adds no issue to it. -/
inductive IsDropped (report : String) : Prop where
  /-- A row of a known section stands in the report, so that other lines are not looked at. -/
  | known : ShowsKnownRow (lines report.toList) → IsDropped report
  /-- The report gives no more than one issue about what it announces, in letters that count as those of
  the word `unused` without being so in small letters, and no row below the title speaks of something unused. -/
  | announced : (∀ line ∈ lines report.toList, speaksOfUnused line = false) →
    (dialect none).announcements report ≠ [] →
    (∀ line ∈ lines added.rows.toList, speaksOfUnused line = false) → IsDropped report
  /-- The report announces more than a number can say, so there are no issues to compare with. -/
  | overflowing : (∀ line ∈ lines report.toList, speaksOfUnused line = false) →
    unwritable ≤ (dialect none).total report → IsDropped report

/-- Known sections of a report have rows exactly if they have with the section below. -/
theorem showsKnownRow_below (report : String) :
    ShowsKnownRow (lines (added.below report).toList) ↔ ShowsKnownRow (lines report.toList) := by
  refine not_iff_not.mp ?_
  rw [← @sectionIssues_none_eq_nil_iff none, ← @sectionIssues_none_eq_nil_iff none, added.sectionIssues_below]

/-- A row of a known section keeps everything else from being seen. -/
theorem issues_below_of_showsKnownRow (hj : Json.read? (trim report.toList) = none)
    (h : ShowsKnownRow (lines report.toList)) (stderr : String) :
    (dialect root).issues (added.below report) stderr = (dialect root).issues report stderr := by
  have hbelow := (added.showsKnownRow_below report).mpr h
  rw [issues_of_showsKnownRow (added.read?_below report) hbelow, issues_of_showsKnownRow hj h,
    added.sectionIssues_below]

/-- Otherwise the title line and what speaks of something unused below it come behind the lines of the report. -/
theorem issues_below_of_not_showsKnownRow (h : ¬ShowsKnownRow (lines report.toList)) (stderr : String) :
    (dialect root).issues (added.below report) stderr = .ok (plainIssues (lines report.toList) ++
      plainIssues (added.titleLine :: lines added.rows.toList)) := by
  have hfilter := added.filter_speaksOfUnused_below report
  have htitle : added.titleLine ∈ (lines (added.below report).toList).filter speaksOfUnused := by
    rw [hfilter]
    exact List.mem_append_right _ List.mem_cons_self
  have hbelow := mt (added.showsKnownRow_below report).mp h
  rw [issues_of_plain (added.read?_below report) hbelow (List.mem_filter.mp htitle).1 added.speaksOfUnused_titleLine]
  rw [plainIssues, hfilter, List.map_append]
  refine congrArg (fun more => Except.ok (_ ++ more)) ?_
  rw [plainIssues, List.filter_cons_of_pos added.speaksOfUnused_titleLine]

/-- The title line speaks of something unused, so it gives an issue itself. -/
theorem length_plainIssues_titleLine (rows : List (List Char)) :
    (plainIssues (added.titleLine :: rows)).length = (plainIssues rows).length + 1 := by
  rw [plainIssues, List.filter_cons_of_pos added.speaksOfUnused_titleLine, List.map_cons, List.length_cons, plainIssues]

/-- Below a report where some line speaks of something unused, the title line gives one issue more. -/
theorem exists_more_of_speaksOfUnused (hj : Json.read? (trim report.toList) = none)
    (h : ¬ShowsKnownRow (lines report.toList)) {line : List Char} (hline : line ∈ lines report.toList)
    (hspeaks : speaksOfUnused line = true) (stderr : String) :
    ∃ before after, (dialect root).issues report stderr = .ok before ∧
      (dialect root).issues (added.below report) stderr = .ok after ∧ before.length < after.length := by
  have hbelow := @issues_below_of_not_showsKnownRow root added report h stderr
  refine ⟨_, _, issues_of_plain hj h hline hspeaks stderr, hbelow, ?_⟩
  rw [List.length_append, added.length_plainIssues_titleLine]
  omega

/-- Below any other report it takes the place of what the report announces, if that is one issue at all. -/
theorem exists_more_iff_of_quiet (hj : Json.read? (trim report.toList) = none)
    (h : ¬ShowsKnownRow (lines report.toList)) (hquiet : ∀ line ∈ lines report.toList, speaksOfUnused line = false)
    (stderr : String) :
    (∃ before after, (dialect root).issues report stderr = .ok before ∧
        (dialect root).issues (added.below report) stderr = .ok after ∧ before.length < after.length) ↔
      (dialect none).total report < unwritable ∧ ((dialect none).announcements report = [] ∨
        ¬∀ line ∈ lines added.rows.toList, speaksOfUnused line = false) := by
  have hcounting : IsCounting (dialect root).announcement := isCounting_of_forall (wholeWordCaseless_ne_some _)
  have hunread := @issues_of_quiet root _ hj h hquiet stderr
  have hbelow := @issues_below_of_not_showsKnownRow root added report h stderr
  have hlength := added.length_plainIssues_titleLine (lines added.rows.toList)
  rw [plainIssues_eq_nil_iff.mpr hquiet, List.nil_append] at hbelow
  by_cases hlarge : unwritable ≤ (dialect none).total report
  · obtain ⟨fault, hfault, -⟩ := Dialect.unread_of_unwritable hcounting hlarge
    refine iff_of_false ?_ fun hsmall => Nat.not_lt.mpr hlarge hsmall.1
    rintro ⟨before, after, hbefore, -, -⟩
    rw [hunread, hfault] at hbefore
    cases hbefore
  rw [and_iff_right (Nat.not_le.mp hlarge)]
  by_cases hsilent : (dialect none).announcements report = []
  · refine iff_of_true ⟨_, _, hunread.trans (Dialect.unread_of_nil hsilent), hbelow, ?_⟩ (.inl hsilent)
    rw [hlength]
    exact Nat.succ_pos _
  -- What is announced gives one issue, and so does the title line.
  have hone := hunread.trans (Dialect.unread_of_ne_nil hcounting hsilent (Nat.not_le.mp hlarge))
  rw [or_iff_right hsilent, ← plainIssues_eq_nil_iff]
  constructor
  · rintro ⟨before, after, hbefore, hafter, hmore⟩ hrows
    rw [hone] at hbefore
    rw [hbelow] at hafter
    cases hbefore
    cases hafter
    rw [hlength, hrows] at hmore
    exact Nat.lt_irrefl _ hmore
  · intro hrows
    refine ⟨_, _, hone, hbelow, ?_⟩
    rw [hlength]
    exact Nat.succ_lt_succ (List.length_pos_iff.mpr hrows)

end UnknownSection

/-- With a section of unknown title below it a report has more issues, unless the section is dropped; and
it is dropped without a trace wherever a row of a known section stands in the report. -/
theorem issues_of_unknown_section (added : UnknownSection) {report : String}
    (hj : Json.read? (trim report.toList) = none) (stderr : String) :
    ((∃ before after, (dialect root).issues report stderr = .ok before ∧
        (dialect root).issues (added.below report) stderr = .ok after ∧ before.length < after.length) ↔
      ¬added.IsDropped report) ∧
    (ShowsKnownRow (lines report.toList) →
      (dialect root).issues (added.below report) stderr = (dialect root).issues report stderr) := by
  refine ⟨?_, fun hrow => added.issues_below_of_showsKnownRow hj hrow stderr⟩
  by_cases hrow : ShowsKnownRow (lines report.toList)
  · refine iff_of_false ?_ (not_not_intro (.known hrow))
    rintro ⟨before, after, hbefore, hafter, hmore⟩
    rw [added.issues_below_of_showsKnownRow hj hrow, hbefore] at hafter
    cases hafter
    exact Nat.lt_irrefl _ hmore
  by_cases hquiet : ∀ line ∈ lines report.toList, speaksOfUnused line = false
  · rw [added.exists_more_iff_of_quiet hj hrow hquiet]
    constructor
    · rintro ⟨hsmall, hseen⟩ (h | ⟨-, hloud, hrows⟩ | ⟨-, hlarge⟩)
      · exact hrow h
      · exact (hseen.resolve_left hloud) hrows
      · exact Nat.not_lt.mpr hlarge hsmall
    · intro hkept
      refine ⟨Nat.not_le.mp fun hlarge => hkept (.overflowing hquiet hlarge), ?_⟩
      by_cases hsilent : (dialect none).announcements report = []
      · exact .inl hsilent
      · exact .inr fun hrows => hkept (.announced hquiet hsilent hrows)
  · obtain ⟨line, hline, hspeaks⟩ : ∃ line ∈ lines report.toList, speaksOfUnused line = true := by
      simpa using hquiet
    refine iff_of_true (added.exists_more_of_speaksOfUnused hj hrow hline hspeaks stderr) ?_
    rintro (h | ⟨h, -, -⟩ | ⟨h, -⟩)
    · exact hrow h
    · exact hquiet h
    · exact hquiet h

/-- A section on members of enumerations, which are not among the known titles. -/
def enumSection : UnknownSection where
  words := "enum members"
  count := 1
  rows := "Foo\n"
  isWords := ⟨'s', by decide, by decide⟩
  isLine := forall_mem_of_all rfl
  isUnknown := by decide
  noHeader := by
    have hlines : lines "Foo\n".toList = ["Foo".toList] := by decide
    rw [hlines]
    exact List.forall_mem_singleton.mpr (mt isSome_title?_iff.mpr (by decide))
  hasRow := ⟨"Foo".toList, by decide, by decide⟩

/-- Below a text without rows of a known section the title line gives an issue. -/
theorem issues_of_unknown_section_note :
    let report := "Unused files (0)\n\nTwo unused things\n"
    Json.read? (trim report.toList) = none ∧ ∃ before after, (dialect none).issues report "" = .ok before ∧
      (dialect none).issues (enumSection.below report) "" = .ok after ∧ before.length < after.length := by
  intro report
  have hj : Json.read? (trim report.toList) = none := by decide +kernel
  refine ⟨hj, (issues_of_unknown_section enumSection hj "").1.mpr ?_⟩
  have hloud : ¬∀ line ∈ lines report.toList, speaksOfUnused line = false := by decide +kernel
  have hlines : lines report.toList = ["Unused files (0)".toList, [], "Two unused things".toList] := by decide +kernel
  have hnone : ¬ShowsKnownRow (lines report.toList) := by
    rw [hlines]
    exact (@sectionIssues_none_eq_nil_iff none _).mp rfl
  rintro (h | ⟨h, -, -⟩ | ⟨h, -⟩)
  · exact hnone h
  · exact hloud h
  · exact hloud h

/-- Below the row of a known section it leaves no trace: there is one issue with and without it. -/
theorem issues_of_dropped_section :
    let report := "UNUSED Files (1)\nsrc/old (copy).ts\n \n"
    let issue : Issue := { severity := .warning, message := .text "Unused file - not imported anywhere",
                           file := .text "src/old (copy).ts", rule := .text "knip/unused-file" }
    Json.read? (trim report.toList) = none ∧
      enumSection.below report = "UNUSED Files (1)\nsrc/old (copy).ts\n \n\nUnused enum members (1)\nFoo\n" ∧
      (dialect none).issues report "" = .ok [issue] ∧
      (dialect none).issues (enumSection.below report) "" = .ok [issue] := by
  intro report issue
  have hj : Json.read? (trim report.toList) = none := by decide +kernel
  have hlines : lines report.toList = reportLines [fileSection] := by decide +kernel
  have hfound : sectionIssues none none (lines report.toList) = .ok [issue] := by
    rw [hlines, sectionIssues_report]
    rfl
  have hrow : ShowsKnownRow (lines report.toList) := by
    refine not_not.mp (mt (@sectionIssues_none_eq_nil_iff none _).mpr ?_)
    rw [hfound]
    exact fun h => List.cons_ne_nil _ _ (Except.ok.inj h)
  have hreport := (@issues_of_showsKnownRow none _ hj hrow "").trans hfound
  exact ⟨hj, by decide +kernel, hreport, (enumSection.issues_below_of_showsKnownRow hj hrow "").trans hreport⟩

end Checkup.Knip
