import Checkup.Proofs.LabelledLines
import Checkup.Proofs.PrintedNumbers
import Checkup.Proofs.ReportAccounts

/-!
# Issues in a markdown report

The sections of a markdown report are read by their headings: one for each check with issues,
with a part for each severity that it has issues of, and an entry for each issue that is
listed. Errors and warnings are cut short, and what is cut is announced by its number; so
what is listed and what is announced are all issues together.
-/

namespace Checkup

open Text (Block IsOneLine Lacks StartsHeaded headed headed_append headed_blocks headed_blocks_nil inked
  inked_append inked_cons inked_eq_self isOneLine_natCast mem_of_mem_inked sourceLines startsHeaded_blocks)

/-- An issue whose texts are on one line each. -/
structure Issue.FitsLine (issue : Issue) : Prop where
  message : IsOneLine issue.message.display
  file : IsOneLine issue.file.display
  line : IsOneLine issue.line.display
  rule : IsOneLine issue.rule.display
  fix : IsOneLine issue.fix.display

namespace Markdown

/-! ## Entries, parts and sections -/

/-- What is listed: a line, and the lines below it. -/
abbrev Entry := Block (List Char)

/-- A part of a section: a heading, and the entries below it. -/
abbrev Part := Block Entry

/-- A section of a check: a heading, and the parts below it. -/
abbrev Section := Block Part

/-- The lines of an entry. -/
def entryLines : Entry → List (List Char) := Block.lines fun line => [line]

/-- The lines of a part. -/
def partLines : Part → List (List Char) := Block.lines entryLines

/-- The lines of a section. -/
def sectionLines : Section → List (List Char) := Block.lines partLines

/-- The parts of the lines below a heading. -/
def readParts (lines : List (List Char)) : List Part := (headed "### " lines).map (Block.under (headed "- "))

/-- An entry starts as one, and what is below it is indented. -/
structure IsEntry (entry : Entry) : Prop where
  heading : "- ".toList <+: entry.heading
  below : ∀ line ∈ entry.below, "  - ".toList <+: line

/-- A part starts as one, and has entries. -/
structure IsPart (part : Part) : Prop where
  heading : "### ".toList <+: part.heading
  below : ∀ entry ∈ part.below, IsEntry entry

/-- A section starts as one, and has parts. -/
structure IsSection (block : Section) : Prop where
  heading : "## ".toList <+: block.heading
  below : ∀ part ∈ block.below, IsPart part

/-- The lines of an entry start as entries do, or are indented. -/
theorem IsEntry.starts {entry : Entry} (h : IsEntry entry) {line : List Char} (hl : line ∈ entryLines entry) :
    "- ".toList <+: line ∨ "  - ".toList <+: line := by
  rcases List.mem_cons.mp hl with rfl | hl
  · exact .inl h.heading
  · obtain ⟨below, hb, hline⟩ := List.mem_flatMap.mp hl
    rw [List.mem_singleton.mp hline]
    exact .inr (h.below below hb)

/-- The lines of a part start as parts or entries do, or are indented. -/
theorem IsPart.starts {part : Part} (h : IsPart part) {line : List Char} (hl : line ∈ partLines part) :
    "### ".toList <+: line ∨ "- ".toList <+: line ∨ "  - ".toList <+: line := by
  rcases List.mem_cons.mp hl with rfl | hl
  · exact .inl h.heading
  · obtain ⟨entry, he, hline⟩ := List.mem_flatMap.mp hl
    exact .inr ((h.below entry he).starts hline)

/-- Entries are read as they were written. -/
theorem headed_entries {entries : List Entry} (h : ∀ entry ∈ entries, IsEntry entry) :
    headed "- " (entries.flatMap entryLines) = entries := by
  have hheaded : ∀ entry ∈ entries, entry.IsHeaded "- " fun line => [line] := by
    intro entry he
    refine ⟨Text.not_lacks_iff.mpr (h entry he).heading, fun line hl => ?_⟩
    obtain ⟨below, hb, hline⟩ := List.mem_flatMap.mp hl
    rw [List.mem_singleton.mp hline]
    exact .of_isPrefix (by decide) (by decide) ((h entry he).below below hb)
  refine (headed_blocks_nil hheaded).trans ((List.map_congr_left fun entry _ => ?_).trans (List.map_id entries))
  exact congrArg (Block.mk entry.heading) (List.flatMap_singleton' entry.below)

/-- Parts are read as they were written. -/
theorem readParts_parts {parts : List Part} (h : ∀ part ∈ parts, IsPart part) :
    readParts (parts.flatMap partLines) = parts := by
  have hheaded : ∀ part ∈ parts, part.IsHeaded "### " entryLines := by
    intro part hp
    refine ⟨Text.not_lacks_iff.mpr (h part hp).heading, fun line hl => ?_⟩
    obtain ⟨entry, he, hline⟩ := List.mem_flatMap.mp hl
    rcases ((h part hp).below entry he).starts hline with hs | hs
    · exact .of_isPrefix (by decide) (by decide) hs
    · exact .of_isPrefix (by decide) (by decide) hs
  unfold readParts
  rw [partLines, headed_blocks_nil hheaded, List.map_map]
  refine (List.map_congr_left fun part hp => ?_).trans (List.map_id parts)
  exact congrArg (Block.mk part.heading) (headed_entries (h part hp).below)

/-- Sections have headings of their own, and nothing below them looks like one. -/
theorem isHeaded_sections {blocks : List Section} (h : ∀ block ∈ blocks, IsSection block) :
    ∀ block ∈ blocks, block.IsHeaded "## " partLines := by
  intro block hb
  refine ⟨Text.not_lacks_iff.mpr (h block hb).heading, fun line hl => ?_⟩
  obtain ⟨part, hp, hline⟩ := List.mem_flatMap.mp hl
  rcases ((h block hb).below part hp).starts hline with hs | hs | hs
  · exact .of_isPrefix (by decide) (by decide) hs
  · exact .of_isPrefix (by decide) (by decide) hs
  · exact .of_isPrefix (by decide) (by decide) hs

/-! ## What is written about issues -/

/-- An issue as it is listed, with its fix below it if it has one. -/
def entryOf (line : Issue → String) (label : String) (issue : Issue) : Entry :=
  ⟨(line issue).toList, (fixLine label issue).map String.toList⟩

/-- What is announced behind a list that is cut short. -/
def announcement (noun : String) (n : Nat) : Entry :=
  ⟨("- ... and " ++ toString (n - listed) ++ " more " ++ noun).toList, []⟩

/-- The part about errors or warnings. -/
def cappedParts (title noun : String) (issues : List Issue) : List Part :=
  if issues.isEmpty then []
  else [⟨("### " ++ title).toList, (issues.take listed).map (entryOf issueLine "**Fix:** ") ++
    if listed < issues.length then [announcement noun issues.length] else []⟩]

/-- The part about notes. -/
def infoParts (issues : List Issue) : List Part :=
  if issues.isEmpty then []
  else if issues.length ≤ infosListed then [⟨"### ℹ️ Info".toList, issues.map (entryOf infoLine "")⟩]
  else [⟨("### ℹ️ Info (" ++ toString issues.length ++ " items - see JSON for full list)").toList, []⟩]

/-- The section of a check. -/
def sectionOf (check : Check) : Section :=
  ⟨("## " ++ check.status.glyph ++ " " ++ check.name).toList,
    cappedParts "❌ Errors" "errors" (ofSeverity .error check.issues) ++
      cappedParts "⚠️ Warnings" "warnings" (ofSeverity .warning check.issues) ++
        infoParts (ofSeverity .info check.issues)⟩

/-- The checks that have a section. -/
def reported (checks : List Check) : List Check := checks.filter fun check => !check.issues.isEmpty

/-- What starts with a text goes on behind it. -/
theorem isPrefix_append (start rest : String) : start.toList <+: (start ++ rest).toList := by
  rw [String.toList_append]
  exact List.prefix_append _ _

/-- An issue is listed as an entry. -/
theorem isEntry_entryOf {line : Issue → String} (hline : ∀ issue, "- ".toList <+: (line issue).toList)
    (label : String) (issue : Issue) : IsEntry (entryOf line label issue) where
  heading := hline issue
  below := by
    intro below hb
    obtain ⟨text, ht, rfl⟩ := List.mem_map.mp hb
    unfold fixLine at ht
    split at ht
    · rw [List.mem_singleton.mp ht, String.append_assoc]
      exact List.IsPrefix.trans (by decide) (isPrefix_append "  - 💡 " _)
    · cases ht

/-- The line of an issue starts as an entry does. -/
theorem isPrefix_issueLine (issue : Issue) : "- ".toList <+: (issueLine issue).toList := by
  unfold issueLine
  rw [String.append_assoc, String.append_assoc]
  exact isPrefix_append "- " _

/-- The line of a note does, too. -/
theorem isPrefix_infoLine (issue : Issue) : "- ".toList <+: (infoLine issue).toList := by
  unfold infoLine
  rw [String.append_assoc]
  exact isPrefix_append "- " _

/-- The parts about errors or warnings are parts. -/
theorem isPart_cappedParts (title noun : String) (issues : List Issue) :
    ∀ part ∈ cappedParts title noun issues, IsPart part := by
  unfold cappedParts
  split
  · exact nofun
  · intro part hp
    rw [List.mem_singleton.mp hp]
    refine ⟨isPrefix_append "### " title, fun entry he => ?_⟩
    rcases List.mem_append.mp he with he | he
    · obtain ⟨issue, -, rfl⟩ := List.mem_map.mp he
      exact isEntry_entryOf isPrefix_issueLine _ issue
    · split at he
      · rw [List.mem_singleton.mp he]
        refine ⟨?_, nofun⟩
        unfold announcement
        rw [String.append_assoc, String.append_assoc]
        exact List.IsPrefix.trans (by decide) (isPrefix_append "- ... and " _)
      · cases he

/-- The parts about notes are parts. -/
theorem isPart_infoParts (issues : List Issue) : ∀ part ∈ infoParts issues, IsPart part := by
  unfold infoParts
  split
  · exact nofun
  · split
    · intro part hp
      rw [List.mem_singleton.mp hp]
      have hheading : "### ".toList <+: "### ℹ️ Info".toList := by decide
      refine ⟨hheading, fun entry he => ?_⟩
      obtain ⟨issue, -, rfl⟩ := List.mem_map.mp he
      exact isEntry_entryOf isPrefix_infoLine _ issue
    · intro part hp
      rw [List.mem_singleton.mp hp]
      refine ⟨?_, nofun⟩
      rw [String.append_assoc]
      exact List.IsPrefix.trans (by decide) (isPrefix_append "### ℹ️ Info (" _)

/-- The section of a check is a section. -/
theorem isSection_sectionOf (check : Check) : IsSection (sectionOf check) where
  heading := by
    unfold sectionOf
    rw [String.append_assoc, String.append_assoc]
    exact isPrefix_append "## " _
  below := by
    intro part hp
    rcases List.mem_append.mp hp with hp | hp
    · rcases List.mem_append.mp hp with hp | hp
      · exact isPart_cappedParts _ _ _ part hp
      · exact isPart_cappedParts _ _ _ part hp
    · exact isPart_infoParts _ part hp

/-! ## Lines that are written -/

/-- The lines of issues are those of their entries. -/
theorem toList_entries (line : Issue → String) (label : String) (issues : List Issue) :
    (issues.flatMap fun issue => line issue :: fixLine label issue).map String.toList =
      (issues.map (entryOf line label)).flatMap entryLines := by
  rw [List.map_flatMap, List.flatMap_map]
  congr 1
  funext issue
  exact congrArg (List.cons (line issue).toList) (List.flatMap_singleton' _).symm

/-- Lines that start as those of a part are not empty. -/
theorem inked_parts {parts : List Part} (h : ∀ part ∈ parts, IsPart part) :
    inked (parts.flatMap partLines) = parts.flatMap partLines := by
  refine inked_eq_self fun line hl => ?_
  obtain ⟨part, hp, hline⟩ := List.mem_flatMap.mp hl
  rintro rfl
  rcases (h part hp).starts hline with hs | hs | hs <;> exact absurd hs (by decide)

/-- Empty lines below a heading and behind what it heads are left out. -/
theorem inked_spaced (heading : List Char) (lines : List (List Char)) :
    inked (heading :: [] :: (lines ++ [[]])) = inked (heading :: lines) := by
  simp [inked, List.filter_cons]

/-- The lines about errors or warnings are those of their part, and empty ones. -/
theorem inked_cappedSection (title noun : String) (issues : List Issue) :
    inked ((cappedSection title noun issues).map String.toList) =
      (cappedParts title noun issues).flatMap partLines := by
  rw [← inked_parts (isPart_cappedParts title noun issues)]
  unfold cappedSection cappedParts
  split
  · rfl
  · have hmore : (if listed < issues.length then
        ["- ... and " ++ toString (issues.length - listed) ++ " more " ++ noun] else []).map String.toList =
          (if listed < issues.length then [announcement noun issues.length] else []).flatMap entryLines := by
      split <;> rfl
    have hentries := toList_entries issueLine "**Fix:** " (issues.take listed)
    rw [List.map_append, List.map_append, List.map_append, hmore]
    change inked (_ :: [] :: (((issues.take listed).flatMap _).map String.toList ++ _ ++ [[]])) = _
    rw [inked_spaced, List.flatMap_singleton]
    unfold partLines Block.lines
    rw [List.flatMap_append, ← hentries]
    rfl

/-- The lines about notes are those of their part, and empty ones. -/
theorem inked_infoSection (issues : List Issue) :
    inked ((infoSection issues).map String.toList) = (infoParts issues).flatMap partLines := by
  rw [← inked_parts (isPart_infoParts issues)]
  unfold infoSection infoParts
  split
  · rfl
  · split
    · have hentries := toList_entries infoLine "" issues
      rw [List.map_append, List.map_append]
      change inked (_ :: [] :: ((issues.flatMap _).map String.toList ++ [[]])) = _
      rw [inked_spaced, List.flatMap_singleton]
      unfold partLines Block.lines
      rw [← hentries]
      rfl
    · rfl

/-- The lines about a check are those of its section, and empty ones; a check without issues has none. -/
theorem inked_checkSection (check : Check) : inked ((checkSection check).map String.toList) =
    if check.issues.isEmpty then [] else sectionLines (sectionOf check) := by
  unfold checkSection
  split
  · rfl
  · have hstart : "## ".toList <+: ("## " ++ check.status.glyph ++ " " ++ check.name).toList :=
      (isSection_sectionOf check).heading
    have hne : ("## " ++ check.status.glyph ++ " " ++ check.name).toList ≠ [] := by
      intro hnil
      rw [hnil] at hstart
      exact absurd hstart (by decide)
    rw [List.map_append, List.map_append, List.map_append, inked_append, inked_append, inked_append,
      inked_cappedSection, inked_cappedSection, inked_infoSection, List.map_cons, inked_cons hne]
    change _ = ("## " ++ check.status.glyph ++ " " ++ check.name).toList ::
      (cappedParts _ _ _ ++ cappedParts _ _ _ ++ infoParts _).flatMap partLines
    rw [List.flatMap_append, List.flatMap_append]
    rfl

/-- The lines about some checks are those of the sections of the checks with issues, and empty ones. -/
theorem inked_checkSections (checks : List Check) :
    inked ((checks.flatMap checkSection).map String.toList) =
      ((reported checks).map sectionOf).flatMap sectionLines := by
  induction checks with
  | nil => rfl
  | cons check checks ih =>
    unfold reported at ih ⊢
    rw [List.flatMap_cons, List.map_append, inked_append, ih, inked_checkSection, List.filter_cons]
    split
    · next hempty => rw [if_neg (by simp [hempty]), List.nil_append]
    · next hsome => rw [if_pos (by simpa using hsome), List.map_cons, List.flatMap_cons]

/-! ## Lines that stay lines -/

/-- The location of an issue is on one line. -/
theorem isOneLine_locationText {issue : Issue} (h : issue.FitsLine) : IsOneLine (locationText issue) := by
  have hfile : IsOneLine issue.fileText := by
    unfold Issue.fileText
    split
    · exact h.file
    · decide
  have hlocation : IsOneLine issue.location.display := by
    unfold Issue.location
    split
    · decide
    · split
      · exact (hfile.append (by decide)).append h.line
      · exact h.file
  have htick : IsOneLine "` " := by decide
  unfold locationText
  split
  · exact (IsOneLine.append (by decide) hlocation).append htick
  · decide

/-- The line of an issue is one line. -/
theorem isOneLine_issueLine {issue : Issue} (h : issue.FitsLine) : IsOneLine (issueLine issue) := by
  have hrule : IsOneLine (ruleText issue) := by
    unfold ruleText
    split
    · exact (IsOneLine.append (by decide) h.rule).append (by decide)
    · decide
  exact ((IsOneLine.append (by decide) (isOneLine_locationText h)).append h.message).append hrule

/-- The line of a note is one line. -/
theorem isOneLine_infoLine {issue : Issue} (h : issue.FitsLine) : IsOneLine (infoLine issue) :=
  (IsOneLine.append (by decide) (isOneLine_locationText h)).append h.message

/-- The fix of an issue is on one line. -/
theorem isOneLine_fixLine {issue : Issue} (h : issue.FitsLine) {label : String} (hl : IsOneLine label) :
    ∀ line ∈ fixLine label issue, IsOneLine line := by
  unfold fixLine
  split
  · intro line hline
    rw [List.mem_singleton.mp hline]
    exact (IsOneLine.append (by decide) hl).append h.fix
  · exact nofun

/-- The lines about errors or warnings are lines. -/
theorem isOneLine_cappedSection {title noun : String} (ht : IsOneLine title) (hn : IsOneLine noun)
    {issues : List Issue} (h : ∀ issue ∈ issues, issue.FitsLine) :
    ∀ line ∈ cappedSection title noun issues, IsOneLine line := by
  unfold cappedSection
  split
  · exact nofun
  · have hheading : IsOneLine ("### " ++ title) := IsOneLine.append (by decide) ht
    have hlisted : ∀ line ∈ (issues.take listed).flatMap issueLines, IsOneLine line := by
      intro line hl
      obtain ⟨issue, hi, hline⟩ := List.mem_flatMap.mp hl
      have hfits := h issue (List.mem_of_mem_take hi)
      rcases List.mem_cons.mp hline with rfl | hline
      · exact isOneLine_issueLine hfits
      · exact isOneLine_fixLine hfits (by decide) line hline
    have hmore : ∀ line ∈ (if listed < issues.length then
        ["- ... and " ++ toString (issues.length - listed) ++ " more " ++ noun] else []), IsOneLine line := by
      split
      · intro line hl
        rw [List.mem_singleton.mp hl]
        exact ((IsOneLine.append (by decide) (isOneLine_natCast _)).append (by decide)).append hn
      · exact nofun
    simp only [List.forall_mem_append, List.forall_mem_cons, List.not_mem_nil, false_implies, implies_true,
      and_true]
    exact ⟨⟨⟨⟨hheading, by decide⟩, hlisted⟩, hmore⟩, by decide⟩

/-- The lines about notes are lines. -/
theorem isOneLine_infoSection {issues : List Issue} (h : ∀ issue ∈ issues, issue.FitsLine) :
    ∀ line ∈ infoSection issues, IsOneLine line := by
  unfold infoSection
  split
  · exact nofun
  · split
    · have hlisted : ∀ line ∈ issues.flatMap infoLines, IsOneLine line := by
        intro line hl
        obtain ⟨issue, hi, hline⟩ := List.mem_flatMap.mp hl
        rcases List.mem_cons.mp hline with rfl | hline
        · exact isOneLine_infoLine (h issue hi)
        · exact isOneLine_fixLine (h issue hi) (by decide) line hline
      simp only [List.forall_mem_append, List.forall_mem_cons, List.not_mem_nil, false_implies, implies_true,
        and_true]
      exact ⟨⟨⟨by decide, by decide⟩, hlisted⟩, by decide⟩
    · simp only [List.forall_mem_cons, List.not_mem_nil, false_implies, implies_true, and_true]
      exact ⟨(IsOneLine.append (by decide) (isOneLine_natCast _)).append (by decide), by decide⟩

/-- The lines about a check are lines. -/
theorem isOneLine_checkSection {check : Check} (hc : check.FitsLine)
    (h : ∀ issue ∈ check.issues, issue.FitsLine) : ∀ line ∈ checkSection check, IsOneLine line := by
  have hof : ∀ severity, ∀ issue ∈ ofSeverity severity check.issues, issue.FitsLine :=
    fun severity issue hi => h issue (List.mem_filter.mp hi).1
  unfold checkSection
  split
  · exact nofun
  · have hheading : IsOneLine ("## " ++ check.status.glyph ++ " " ++ check.name) :=
      ((IsOneLine.append (by decide) (isOneLine_status check.status).1).append (by decide)).append hc.name
    simp only [List.forall_mem_append, List.forall_mem_cons, List.not_mem_nil, false_implies, implies_true,
      and_true]
    exact ⟨⟨⟨⟨hheading, by decide⟩, isOneLine_cappedSection (by decide) (by decide) (hof .error)⟩,
      isOneLine_cappedSection (by decide) (by decide) (hof .warning)⟩, isOneLine_infoSection (hof .info)⟩

/-! ## Reading a report -/

/-- The heading above the table. -/
def tableHeading : String := "## 📊 Summary"

/-- The heading above the action items. -/
def actionsHeading : String := "## 🎯 Priority Action Items"

/-- What stands under the headings of a report: the table, the totals, the checks and the action items. -/
def topics (text : String) : List (Block (List Char)) := headed "## " (inked (sourceLines text.toList))

/-- The rows of the table, without that of its headings. -/
def tableRows (text : String) : List (List Char) :=
  ((((topics text).take 1).flatMap Block.below).filter fun line => decide (¬Lacks "| " line)).drop 1

/-- The sections of the checks: what stands between the totals and the action items. -/
def sections (text : String) : List Section :=
  (((topics text).drop 2).takeWhile fun block => decide (block.heading ≠ actionsHeading.toList)).map
    (Block.under readParts)

/-- The lines of a table with some rows. -/
def tableLines (rows : List String) : List String :=
  ["", "| Check | Status | Duration | Summary |", "|-------|--------|----------|---------|"] ++ rows ++ [""]

/-- The lines above the sections: no heading, the table, and the totals. -/
theorem exists_headLines_table {report : Report} {lines : List String} (h : headLines report = .ok lines) :
    ∃ intro rows, report.checks.mapM summaryRow = .ok rows ∧
      lines = intro ++ (tableHeading :: tableLines rows ++ totalsHeading :: totalsLines report.totals) ∧
        ∀ line ∈ intro, Lacks "## " line.toList := by
  unfold headLines at h
  obtain ⟨duration, -, h⟩ := bind_eq_ok_iff.mp h
  obtain ⟨rows, hrows, h⟩ := bind_eq_ok_iff.mp h
  cases h
  refine ⟨["# 🏥 Code Health Report", "", "**Generated:** " ++ report.timestamp, "**Duration:** " ++ duration,
    "**Grade:** " ++ report.grade.name, ""], rows, hrows, ?_, ?_⟩
  · simp only [tableLines, totalsLines, tableHeading, totalsHeading, List.append_assoc, List.cons_append,
      List.nil_append]
  · simp only [List.forall_mem_cons, List.not_mem_nil, false_implies, implies_true, and_true]
    exact ⟨by decide, by decide, .of_differ (by decide) (by decide) _, .of_differ (by decide) (by decide) _,
      .of_differ (by decide) (by decide) _, by decide⟩

/-- No line of the totals is a heading. -/
theorem lacks_totalsLines (totals : Totals) : ∀ line ∈ totalsLines totals, Lacks "## " line.toList := by
  simp only [totalsLines, List.forall_mem_cons, List.not_mem_nil, false_implies, implies_true, and_true]
  exact ⟨by decide, .of_differ (by decide) (by decide) _, .of_differ (by decide) (by decide) _,
    .of_differ (by decide) (by decide) _, by decide⟩

/-- Rows that start with a bar are the rows of their table. -/
theorem filter_tableLines {rows : List String} (h : ∀ row ∈ rows, "| ".toList <+: row.toList) :
    ((inked ((tableLines rows).map String.toList)).filter fun line => decide (¬Lacks "| " line)).drop 1 =
      rows.map String.toList := by
  have hstart : ∀ line ∈ rows.map String.toList, "| ".toList <+: line := List.forall_mem_map.mpr h
  have hinked : inked (rows.map String.toList) = rows.map String.toList := by
    refine inked_eq_self fun line hl => ?_
    rintro rfl
    exact absurd (hstart _ hl) (by decide)
  have hkept : (rows.map String.toList).filter (fun line => decide (¬Lacks "| " line)) = rows.map String.toList :=
    List.filter_eq_self.mpr fun line hl => decide_eq_true (Text.not_lacks_iff.mpr (hstart line hl))
  have hfront : (inked (["", "| Check | Status | Duration | Summary |",
      "|-------|--------|----------|---------|"].map String.toList)).filter (fun line => decide (¬Lacks "| " line)) =
        ["| Check | Status | Duration | Summary |".toList] := by decide
  unfold tableLines
  rw [List.map_append, List.map_append, inked_append, inked_append, List.filter_append, List.filter_append, hfront,
    hinked, hkept]
  exact List.append_nil _

/-- The table as a topic. -/
def tableTopic (rows : List String) : Block (List Char) :=
  ⟨tableHeading.toList, inked ((tableLines rows).map String.toList)⟩

/-- The totals as a topic. -/
def totalsTopic (totals : Totals) : Block (List Char) :=
  ⟨totalsHeading.toList, inked ((totalsLines totals).map String.toList)⟩

/-- The lines of the table and of the totals are those of their topics, and empty ones. -/
theorem inked_topics (intro rows : List String) (totals : Totals) :
    inked ((intro ++ (tableHeading :: tableLines rows ++ totalsHeading :: totalsLines totals)).map String.toList) =
      inked (intro.map String.toList) ++
        [tableTopic rows, totalsTopic totals].flatMap (Block.lines fun line => [line]) := by
  have htable : tableHeading.toList ≠ [] := by decide
  have htotals : totalsHeading.toList ≠ [] := by decide
  rw [List.map_append, inked_append, List.map_append, inked_append, List.map_cons, List.map_cons,
    inked_cons htable, inked_cons htotals]
  simp [Block.lines, tableTopic, totalsTopic]

/-- The table and the totals have headings of their own, and nothing below them looks like one. -/
theorem isHeaded_topics {rows : List String} (h : ∀ row ∈ rows, "| ".toList <+: row.toList) (totals : Totals) :
    ∀ block ∈ [tableTopic rows, totalsTopic totals], block.IsHeaded "## " fun line => [line] := by
  have hbelow : ∀ lines : List String, (∀ line ∈ lines, Lacks "## " line.toList) →
      ∀ line ∈ (inked (lines.map String.toList)).flatMap (fun line => [line]), Lacks "## " line := by
    intro lines hlacks line hl
    rw [List.flatMap_singleton'] at hl
    exact List.forall_mem_map.mpr hlacks line (mem_of_mem_inked hl)
  have htable : ∀ line ∈ tableLines rows, Lacks "## " line.toList := by
    have hrows : ∀ row ∈ rows, Lacks "## " row.toList := fun row hm =>
      .of_isPrefix (by decide) (by decide) (h row hm)
    simp only [tableLines, List.forall_mem_append, List.forall_mem_cons, List.not_mem_nil, false_implies,
      implies_true, and_true]
    exact ⟨⟨⟨by decide, by decide, by decide⟩, hrows⟩, by decide⟩
  have hfirst : ¬Lacks "## " tableHeading.toList := by decide
  have hsecond : ¬Lacks "## " totalsHeading.toList := by decide
  simp only [List.forall_mem_cons, List.not_mem_nil, false_implies, implies_true, and_true]
  exact ⟨⟨hfirst, hbelow _ htable⟩, ⟨hsecond, hbelow _ (lacks_totalsLines totals)⟩⟩

/-- The table and the totals of a report are its first topics. -/
theorem headed_headLines {report : Report} {lines : List String} (hr : report.FitsLines)
    (h : headLines report = .ok lines) {rest : List (List Char)} (hrest : StartsHeaded "## " rest) :
    ∃ rows table totals, report.checks.mapM summaryRow = .ok rows ∧
      headed "## " (inked (lines.map String.toList) ++ rest) = table :: totals :: headed "## " rest ∧
        (table.below.filter fun line => decide (¬Lacks "| " line)).drop 1 = rows.map String.toList := by
  obtain ⟨intro, rows, hrows, rfl, hintro⟩ := exists_headLines_table h
  have hrow : ∀ row ∈ rows, "| ".toList <+: row.toList := by
    intro row hm
    obtain ⟨check, hc, hcheck⟩ := (members_of_mapM_eq_ok hrows).1 row hm
    obtain ⟨n, hn⟩ := hr.durations check hc
    exact (isOneLine_summaryRow (hr.checks check hc) hn hcheck).2
  have hfront : ∀ line ∈ inked (intro.map String.toList), Lacks "## " line := fun line hl =>
    List.forall_mem_map.mpr hintro line (mem_of_mem_inked hl)
  refine ⟨rows, tableTopic rows, totalsTopic report.totals, hrows, ?_, filter_tableLines hrow⟩
  rw [inked_topics, List.append_assoc, headed_append hfront, headed_blocks (isHeaded_topics hrow _) hrest]
  simp [Block.under]

/-- No section of a check is headed as the action items are. -/
theorem heading_sectionOf_ne (check : Check) : (sectionOf check).heading ≠ actionsHeading.toList := by
  intro he
  have hstart : ("## " ++ check.status.glyph).toList <+: actionsHeading.toList := by
    rw [← he]
    unfold sectionOf
    rw [String.append_assoc]
    exact isPrefix_append _ _
  revert hstart
  cases check.status <;> decide

/-- The sections of checks in front of the action items are the topics up to these. -/
theorem headed_checkSections (checks : List Check) (more : List (List Char)) :
    StartsHeaded "## " (inked ((checks.flatMap checkSection).map String.toList) ++ actionsHeading.toList :: more) ∧
      ((headed "## " (inked ((checks.flatMap checkSection).map String.toList) ++
          actionsHeading.toList :: more)).takeWhile fun block => decide (block.heading ≠ actionsHeading.toList)).map
            (Block.under readParts) = (reported checks).map sectionOf := by
  have hsections : ∀ block ∈ (reported checks).map sectionOf, IsSection block :=
    List.forall_mem_map.mpr fun check _ => isSection_sectionOf check
  have hactions : ¬Lacks "## " actionsHeading.toList := by decide
  have hrest : StartsHeaded "## " (actionsHeading.toList :: more) := by
    intro line hl
    cases hl
    exact hactions
  rw [inked_checkSections, sectionLines]
  refine ⟨startsHeaded_blocks (isHeaded_sections hsections) hrest, ?_⟩
  have hdiffer : ∀ block ∈ ((reported checks).map sectionOf).map (Block.under (·.flatMap partLines)),
      decide (block.heading ≠ actionsHeading.toList) = true := by
    refine List.forall_mem_map.mpr (List.forall_mem_map.mpr fun check _ => ?_)
    exact decide_eq_true (heading_sectionOf_ne check)
  rw [headed_blocks (isHeaded_sections hsections) hrest, List.takeWhile_append_of_pos hdiffer, headed,
    if_neg hactions, List.takeWhile_cons_of_neg (by simp), List.append_nil, List.map_map]
  refine (List.map_congr_left fun block hb => ?_).trans (List.map_id _)
  exact congrArg (Block.mk block.heading) (readParts_parts (hsections block hb).below)

/-- The topics of a report are those above the checks, those of the checks, and the action items. -/
theorem topics_of_render {report : Report} {jsonPath text : String} (hr : report.FitsLines)
    (hi : ∀ check ∈ report.checks, ∀ issue ∈ check.issues, issue.FitsLine)
    (h : render report jsonPath = .ok text) :
    ∃ head more, headLines report = .ok head ∧ topics text = headed "## " (inked (head.map String.toList) ++
      (inked ((report.checks.flatMap checkSection).map String.toList) ++ actionsHeading.toList :: more)) := by
  unfold render reportLines at h
  obtain ⟨lines, hlines, h⟩ := bind_eq_ok_iff.mp h
  obtain ⟨head, hhead, hlines⟩ := bind_eq_ok_iff.mp hlines
  obtain ⟨items, -, hlines⟩ := bind_eq_ok_iff.mp hlines
  cases hlines
  cases h
  obtain ⟨-, -, -, hone, -, -⟩ := exists_headLines_eq hr hhead
  have hsplit : head ++ report.checks.flatMap checkSection ++ actionSection items ++
      ["---", "*Full JSON report available at: " ++ jsonPath ++ "*"] =
        (head ++ report.checks.flatMap checkSection ++ [actionsHeading]) ++ ((actionSection items).tail ++
          ["---", "*Full JSON report available at: " ++ jsonPath ++ "*"]) := by
    have hsection : actionSection items = actionsHeading :: (actionSection items).tail := rfl
    rw [hsection]
    simp only [List.append_assoc, List.cons_append, List.nil_append, List.tail_cons]
  have hrest : (actionSection items).tail ++ ["---", "*Full JSON report available at: " ++ jsonPath ++ "*"] ≠ [] :=
    List.append_ne_nil_of_right_ne_nil _ (List.cons_ne_nil _ _)
  have hfits : ∀ line ∈ head ++ report.checks.flatMap checkSection ++ [actionsHeading], IsOneLine line := by
    have hsections : ∀ line ∈ report.checks.flatMap checkSection, IsOneLine line := by
      intro line hl
      obtain ⟨check, hc, hline⟩ := List.mem_flatMap.mp hl
      exact isOneLine_checkSection (hr.checks check hc) (hi check hc) line hline
    have hactions : IsOneLine actionsHeading := by decide
    intro line hl
    rcases List.mem_append.mp hl with hl | hl
    · exact (List.mem_append.mp hl).elim (hone line) (hsections line)
    · rwa [List.mem_singleton.mp hl]
  have hheading : actionsHeading.toList ≠ [] := by decide
  refine ⟨head, inked (sourceLines (String.intercalate "\n" ((actionSection items).tail ++
    ["---", "*Full JSON report available at: " ++ jsonPath ++ "*"])).toList), hhead, ?_⟩
  unfold topics
  rw [hsplit, Text.sourceLines_intercalate hfits hrest, inked_append, List.map_append, List.map_append, inked_append,
    inked_append, List.append_assoc, List.append_assoc]
  rfl

/-- The rows and the sections of a report are read as they were written. -/
theorem read_of_render {report : Report} {jsonPath text : String} (hr : report.FitsLines)
    (hi : ∀ check ∈ report.checks, ∀ issue ∈ check.issues, issue.FitsLine)
    (h : render report jsonPath = .ok text) :
    (∃ rows, report.checks.mapM summaryRow = .ok rows ∧ tableRows text = rows.map String.toList) ∧
      sections text = (reported report.checks).map sectionOf := by
  obtain ⟨head, more, hhead, htopics⟩ := topics_of_render hr hi h
  obtain ⟨hstarts, hsections⟩ := headed_checkSections report.checks more
  obtain ⟨rows, table, totals, hrows, hheaded, htable⟩ := headed_headLines hr hhead hstarts
  rw [hheaded] at htopics
  constructor
  · refine ⟨rows, hrows, ?_⟩
    unfold tableRows
    rw [htopics, ← htable]
    simp
  · unfold sections
    rw [htopics]
    exact hsections

end Markdown

end Checkup
