import Checkup.Dialect.Architecture
import Checkup.Proofs.DuplicateNumbers
import Checkup.Proofs.EvidentFindings
import Checkup.Proofs.LinterRules

/-!
# Faults of dialects

Output ends in a fault in two ways only. A document may bring a value that cannot be looked
up in a table or an infinite line; each dialect has its list of places for those. And text
may announce more findings than a number can say. All other output is read.
-/

namespace Checkup

open Text

/-! ## Faults of values -/

namespace Value

/-- A value that cannot be looked up in a table, with the fault that it leads to. -/
def IsUnhashable (value : Value) (fault : Fault) : Prop :=
  (value.isList = true ∧ fault = .unhashable "list") ∨ (value.isMapping = true ∧ fault = .unhashable "dict")

/-- A line that is no number, with the fault that it leads to. -/
def IsEndless (value : Value) (fault : Fault) : Prop := value.IsInfinite ∧ fault = .infiniteNumber

/-- A severity is refused exactly if it cannot be looked up. -/
theorem toSeverity_failsBy (table : List (Scalar × Severity)) (default : Severity) (value : Value) :
    FailsBy (value.toSeverity table default) value.IsUnhashable := by
  cases value with
  | list items =>
    constructor
    · intro fault hf
      cases hf
      exact .inl ⟨rfl, rfl⟩
    · exact fun _ _ => ⟨_, rfl⟩
  | mapping entries =>
    constructor
    · intro fault hf
      cases hf
      exact .inr ⟨rfl, rfl⟩
    · exact fun _ _ => ⟨_, rfl⟩
  | scalar label =>
    have hread : Succeeds ((Value.scalar label).toSeverity table default) := by
      cases label <;> exact .ok _
    refine (FailsBy.of_succeeds hread).congr fun fault => ⟨False.elim, ?_⟩
    rintro (⟨h, -⟩ | ⟨h, -⟩)
    · cases h
    · cases h

end Value

/-! ## Oxlint -/

namespace Oxlint

/-- The line of a diagnostic or, where it is none, that of the first label with a span is
infinite. -/
def HasEndlessLine (diagnostic : Entries) (fault : Fault) : Prop :=
  (Entries.get diagnostic "line").IsEndless fault ∨
    ((Entries.get diagnostic "line").toLine = .ok none ∧
      ∃ span, ((Entries.get diagnostic "labels").mappings.findSome? fun label =>
          (Entries.get label "span").entries?) = some span ∧
        (Entries.get span "line").IsEndless fault)

/-- A diagnostic that cannot be read. -/
def Refuses (schema : String) (payload : Value) (fault : Fault) : Prop :=
  ∃ diagnostic ∈ diagnostics schema payload,
    (Entries.get diagnostic "severity").IsUnhashable fault ∨ HasEndlessLine diagnostic fault

/-- The labels are refused exactly if the first one with a span has an infinite line. -/
theorem labelLine_failsBy (diagnostic : Entries) :
    FailsBy (labelLine diagnostic) fun fault =>
      ∃ span, ((Entries.get diagnostic "labels").mappings.findSome? fun label =>
          (Entries.get label "span").entries?) = some span ∧
        (Entries.get span "line").IsEndless fault := by
  unfold labelLine
  split
  · next span hspan =>
    refine (Value.toLine_failsBy _).congr fun fault => ⟨fun h => ⟨span, hspan, h⟩, ?_⟩
    rintro ⟨found, hfound, h⟩
    rw [hspan] at hfound
    cases hfound
    exact h
  · next hnone =>
    refine (FailsBy.of_succeeds (.ok none)).congr fun fault => ⟨False.elim, ?_⟩
    rintro ⟨found, hfound, -⟩
    rw [hnone] at hfound
    cases hfound

/-- The line of a diagnostic is refused exactly if it is infinite, wherever it stands. -/
theorem lineOf_failsBy (diagnostic : Entries) : FailsBy (lineOf diagnostic) (HasEndlessLine diagnostic) := by
  refine (Value.toLine_failsBy _).bind fun line hline => ?_
  cases line with
  | none =>
    refine (labelLine_failsBy diagnostic).congr fun fault => ⟨fun h => ⟨hline, h⟩, And.right⟩
  | some number =>
    refine (FailsBy.of_succeeds (.ok (some number))).congr fun fault => ⟨False.elim, ?_⟩
    rintro ⟨hnone, -⟩
    rw [hline] at hnone
    cases hnone

/-- A document is refused exactly if one of its diagnostics is. -/
theorem ofStructured_failsBy {root : Option String} (h : Value.isBadRoot root = false) (schema : String)
    (payload : Value) : FailsBy ((dialect root).ofStructured schema payload) (Refuses schema payload) := by
  refine .mapM fun diagnostic _ => ?_
  refine (Value.toSeverity_failsBy _ _ _).bind fun _ _ => ?_
  exact .succeeds_bind (Value.toPath_succeeds h _) fun _ =>
    (lineOf_failsBy diagnostic).bind_succeeds fun _ => .ok _

end Oxlint

/-! ## ESLint -/

namespace Eslint

/-- A message about a file that cannot be read. -/
def Refuses (schema : String) (payload : Value) (fault : Fault) : Prop :=
  ∃ result ∈ results schema payload, ∃ message ∈ (Entries.get result "messages").mappings,
    (Entries.get message "severity").IsUnhashable fault ∨ (Entries.get message "line").IsEndless fault

/-- A document is refused exactly if one of its messages is. -/
theorem ofStructured_failsBy {root : Option String} (h : Value.isBadRoot root = false) (schema : String)
    (payload : Value) : FailsBy ((dialect root).ofStructured schema payload) (Refuses schema payload) := by
  refine .bind_succeeds (.mapM fun result _ => ?_) fun _ => .ok _
  refine .succeeds_bind (Value.toPath_succeeds h _) fun file => .mapM fun message _ => ?_
  refine (Value.toSeverity_failsBy _ _ _).bind fun _ _ => ?_
  exact (Value.toLine_failsBy _).bind_succeeds fun _ => .ok _

end Eslint

/-! ## knip -/

namespace Knip

/-- An item of the newer schema, under one of the keys of an entry, whose line is infinite. -/
def Refuses (schema : String) (payload : Value) (fault : Fault) : Prop :=
  schema = "v5" ∧ ∃ entries, payload = .mapping entries ∧ ∃ entry ∈ (Entries.get entries "issues").mappings,
    ∃ keyed ∈ entryCategories, ∃ item ∈ (Entries.get entry keyed.1).mappings,
      (Entries.get item "line").IsEndless fault

/-- An entry is refused exactly if an item under one of its keys has an infinite line. -/
theorem entryIssues_failsBy {root : Option String} (h : Value.isBadRoot root = false) (entry : Entries) :
    FailsBy (entryIssues root entry) fun fault =>
      ∃ keyed ∈ entryCategories, ∃ item ∈ (Entries.get entry keyed.1).mappings,
        (Entries.get item "line").IsEndless fault := by
  refine .succeeds_bind (Value.toPath_succeeds h _) fun file => .bind_succeeds ?_ fun _ => .ok _
  refine .mapM fun keyed _ => .mapM fun item _ => ?_
  exact (Value.toLine_failsBy _).bind_succeeds fun _ => .ok _

/-- The older schema is always read. -/
theorem legacyIssues_succeeds {root : Option String} (h : Value.isBadRoot root = false) (payload : Entries) :
    Succeeds (legacyIssues root payload) :=
  .bind (.mapM fun _ _ => .bind (Value.toPath_succeeds h _) fun _ => .ok _) fun _ => .ok _

/-- A document is refused exactly if it has the newer schema and one of its items is. -/
theorem ofStructured_failsBy {root : Option String} (h : Value.isBadRoot root = false) (schema : String)
    (payload : Value) : FailsBy ((dialect root).ofStructured schema payload) (Refuses schema payload) := by
  change FailsBy (issuesOfDocument root schema payload) _
  cases payload with
  | mapping entries =>
    refine .succeeds_bind (.mapM fun file _ => .bind (Value.toPath_succeeds h _) fun _ => .ok _) fun found => ?_
    by_cases hv : schema = "v5"
    · have hentries := (FailsBy.mapM fun entry (_ : entry ∈ (Entries.get entries "issues").mappings) =>
        entryIssues_failsBy h entry).map List.flatten
      rw [if_pos hv]
      refine (hentries.bind_succeeds fun further => .ok (found ++ further)).congr fun fault => ?_
      refine ⟨fun hf => ⟨hv, entries, rfl, hf⟩, ?_⟩
      rintro ⟨-, same, hsame, hf⟩
      cases hsame
      exact hf
    · rw [if_neg hv]
      have hlegacy : Succeeds (legacyIssues root entries >>= fun further => .ok (found ++ further)) :=
        .bind (legacyIssues_succeeds h entries) fun _ => .ok _
      exact (FailsBy.of_succeeds hlegacy).congr fun fault => ⟨False.elim, fun hf => hv hf.1⟩
  | scalar value =>
    refine (FailsBy.of_succeeds (.ok [])).congr fun fault => ⟨False.elim, ?_⟩
    rintro ⟨-, entries, hentries, -⟩
    cases hentries
  | list items =>
    refine (FailsBy.of_succeeds (.ok [])).congr fun fault => ⟨False.elim, ?_⟩
    rintro ⟨-, entries, hentries, -⟩
    cases hentries

end Knip

/-! ## Boundaries -/

namespace Architecture

/-- A violation whose rule has a severity that is given and cannot be looked up. -/
def Refuses (schema : String) (payload : Value) (fault : Fault) : Prop :=
  ∃ violation ∈ violations schema payload, ∃ rule, Entries.get violation "rule" = .mapping rule ∧
    (Entries.get rule "severity").isGiven = true ∧ (Entries.get rule "severity").IsUnhashable fault

/-- The severity of a rule is refused exactly if it is given and cannot be looked up. -/
theorem isUnhashable_orElse {severity : Value} {default : String} {fault : Fault} :
    (severity.orElse (.text default)).IsUnhashable fault ↔
      severity.isGiven = true ∧ severity.IsUnhashable fault := by
  unfold Value.orElse
  by_cases hg : severity.isGiven = true
  · rw [if_pos hg]
    exact ⟨fun h => ⟨hg, h⟩, And.right⟩
  · rw [if_neg hg]
    refine ⟨?_, fun h => absurd h.1 hg⟩
    rintro (⟨h, -⟩ | ⟨h, -⟩)
    · cases h
    · cases h

/-- A violation is refused exactly if the severity of its rule is. -/
theorem issueOf_failsBy {root : Option String} (h : Value.isBadRoot root = false) (violation : Entries) :
    FailsBy (issueOf root violation) fun fault =>
      ∃ rule, Entries.get violation "rule" = .mapping rule ∧
        (Entries.get rule "severity").isGiven = true ∧ (Entries.get rule "severity").IsUnhashable fault := by
  have hsteps := (Value.toSeverity_failsBy severities .info
    ((Entries.get (((Entries.get violation "rule").entries?).getD []) "severity").orElse (.text "warn")))
  refine (hsteps.bind_succeeds fun severity => ?_).congr fun fault => ?_
  · exact .bind (Value.toPath_succeeds h _) fun _ => .bind (Value.toPath_succeeds h _) fun _ => .ok _
  · rw [isUnhashable_orElse]
    cases hrule : Entries.get violation "rule" with
    | mapping rule =>
      refine ⟨fun hf => ⟨rule, rfl, hf⟩, ?_⟩
      rintro ⟨same, hsame, hf⟩
      cases hsame
      exact hf
    | scalar value =>
      refine ⟨fun hf => absurd hf.1 Bool.false_ne_true, ?_⟩
      rintro ⟨rule, hsame, -⟩
      cases hsame
    | list items =>
      refine ⟨fun hf => absurd hf.1 Bool.false_ne_true, ?_⟩
      rintro ⟨rule, hsame, -⟩
      cases hsame

/-- A document is refused exactly if one of its violations is. -/
theorem ofStructured_failsBy {root : Option String} (h : Value.isBadRoot root = false) (schema : String)
    (payload : Value) : FailsBy ((dialect root).ofStructured schema payload) (Refuses schema payload) :=
  .mapM fun violation _ => issueOf_failsBy h violation

end Architecture

/-! ## Duplicates -/

namespace Jscpd

/-- A header names no number. -/
theorem announcement_ne_some (root : Option String) (before : Option Char) (text digits : List Char) :
    (dialect root).announcement before text ≠ some (some digits) := by
  intro h
  obtain ⟨rest, -, hnone⟩ := Option.map_eq_some_iff.mp h
  cases hnone

end Jscpd

/-! ## All eight dialects -/

/-- A dialect fails exactly on documents that it refuses, and on text that announces more
findings than a number can say. -/
def Dialect.FailsFor {Payload : Type} (dialect : Dialect Payload) (stdout stderr : String)
    (refuses : String → Payload → Fault → Prop) : Prop :=
  FailsBy (dialect.issues stdout stderr) fun fault =>
    (∃ schema payload, dialect.read stdout stderr = .ok (.structured schema payload) ∧
      refuses schema payload fault) ∨
    (dialect.Overflows stdout stderr ∧ fault.kind = "ValueError")

/-- The list of all faults that the dialects end in. -/
structure FailsAsListed (root : Option String) (stdout stderr : String) : Prop where
  /-- No document of the compiler is refused. -/
  typeScript : (TypeScript.dialect root).FailsFor stdout stderr fun _ _ _ => False
  /-- Orphans are always read. -/
  orphans : ∀ base, Succeeds ((Madge.orphans base root).issues stdout stderr)
  /-- No document about circles is refused. -/
  circular : Madge.circular.FailsFor stdout stderr fun _ _ _ => False
  /-- No blocks about duplicates are refused if their runs of digits are short. -/
  jscpd : RunsWithin maxDigits (Jscpd.scanned stdout stderr).toList →
    (Jscpd.dialect root).FailsFor stdout stderr fun _ _ _ => False
  /-- It takes a header for each duplicate to announce too many. -/
  jscpdLength : (Jscpd.dialect root).Overflows stdout stderr →
    unwritable ≤ (Jscpd.scanned stdout stderr).toList.length
  /-- Dead code is refused for infinite lines. -/
  knip : (Knip.dialect root).FailsFor stdout stderr Knip.Refuses
  /-- It takes a word for each piece of dead code to announce too many. -/
  knipLength : (Knip.dialect root).Overflows stdout stderr → unwritable ≤ stdout.toList.length
  /-- Messages are refused for their severities and for infinite lines. -/
  eslint : (Eslint.dialect root).FailsFor stdout stderr Eslint.Refuses
  /-- So are diagnostics, also for the lines of their labels. -/
  oxlint : (Oxlint.dialect root).FailsFor stdout stderr Oxlint.Refuses
  /-- Violations are refused for the severities of their rules. -/
  architecture : (Architecture.dialect root).FailsFor stdout stderr Architecture.Refuses

/-- A dialect that can scan every text fails for what it refuses in documents. -/
theorem Dialect.failsFor {Payload : Type} {dialect : Dialect Payload} {stdout stderr : String}
    {reading : Reading Payload} {refuses : String → Payload → Fault → Prop}
    (hc : IsCounting dialect.announcement) (hr : dialect.read stdout stderr = .ok reading)
    (hs : ∀ schema payload, FailsBy (dialect.ofStructured schema payload) (refuses schema payload))
    (ht : ∀ text, Succeeds (dialect.ofText text)) : dialect.FailsFor stdout stderr refuses :=
  issues_failsBy refuses hc hr (fun schema payload _ => hs schema payload) fun text _ => ht text

/-- Orphans are always read: nothing is ever announced. -/
theorem Madge.orphans_succeeds {root : Option String} (h : Value.isBadRoot root = false)
    (base stdout stderr : String) : Succeeds ((orphans base root).issues stdout stderr) := by
  have hsilent : ∀ before text found, (orphans base root).announcement before text ≠ some found :=
    fun _ _ _ hseen => by cases hseen
  have hfails : (orphans base root).FailsFor stdout stderr fun _ _ _ => False := by
    refine Dialect.failsFor ?_ rfl ?_ ?_
    · exact isCounting_of_forall fun before text digits => hsilent before text (some digits)
    · exact fun schema payload => .of_succeeds (.mapM fun item _ => orphanIssue_succeeds h _ _)
    · exact fun text => .mapM fun orphan _ => orphanIssue_succeeds h _ _
  have hnone : (orphans base root).announcements ((orphans base root).scanned stdout stderr) = [] := by
    refine List.eq_nil_iff_forall_not_mem.mpr fun found hfound => ?_
    obtain ⟨before, rest, -, hseen⟩ := exists_of_mem_sightings hfound
    exact hsilent before rest found hseen
  refine hfails.succeeds fun fault hf => ?_
  rcases hf with ⟨schema, payload, -, hfalse⟩ | ⟨⟨-, hover⟩, -⟩
  · exact hfalse
  · rw [Dialect.total, hnone] at hover
    exact Nat.not_lt.mpr hover unwritable_pos

/-- Blocks about duplicates with short runs of digits are refused only if there are too many. -/
theorem Jscpd.failsFor {root : Option String} (h : Value.isBadRoot root = false) {stdout stderr : String}
    (hr : RunsWithin maxDigits (scanned stdout stderr).toList) :
    (dialect root).FailsFor stdout stderr fun _ _ _ => False := by
  obtain ⟨reading, hread, htext⟩ := read_succeeds hr
  refine Dialect.issues_failsBy _ (isCounting_of_forall (announcement_ne_some root)) hread ?_ ?_
  · exact fun schema clones _ => .of_succeeds (.mapM fun duplicate _ => issueOf_succeeds h duplicate)
  · intro text ht
    rw [htext text ht]
    exact issuesOfText_succeeds h hr

/-- The dialects fail as listed, whatever stands on the two streams. -/
theorem failsAsListed {root : Option String} (h : Value.isBadRoot root = false) (stdout stderr : String) :
    FailsAsListed root stdout stderr where
  typeScript := Dialect.failsFor (isCounting_foundCount _) rfl
    (fun _ _ => .of_succeeds (.ok _)) (TypeScript.issuesOfText_succeeds h)
  orphans base := Madge.orphans_succeeds h base stdout stderr
  circular := Dialect.failsFor (isCounting_foundCountCaseless _) rfl
    (fun _ _ => .of_succeeds (.ok _)) fun _ => .ok _
  jscpd hr := Jscpd.failsFor h hr
  jscpdLength ho := Nat.le_trans ho.2 (Dialect.total_le_length (Jscpd.announcement_ne_some root) _)
  knip := Dialect.failsFor (isCounting_of_forall (wholeWordCaseless_ne_some _)) rfl
    (Knip.ofStructured_failsBy h) (Knip.issuesOfText_succeeds h)
  knipLength ho := Nat.le_trans ho.2 (Dialect.total_le_length (wholeWordCaseless_ne_some _) _)
  eslint := Dialect.failsFor (isCounting_countedWord _ _) rfl
    (Eslint.ofStructured_failsBy h) fun _ => Eslint.issuesOfLines_succeeds h _ _
  oxlint := Dialect.failsFor (isCounting_countedCaseless _) rfl
    (Oxlint.ofStructured_failsBy h) fun _ => .ok _
  architecture := Dialect.failsFor (isCounting_countedWord _ _) rfl
    (Architecture.ofStructured_failsBy h) fun _ => .ok _

/-- A diagnostic whose severity is a list cannot be read. -/
theorem failsAsListed_list_severity :
    Value.isBadRoot (some "/repo") = false ∧
      ∃ fault, (Oxlint.dialect (some "/repo")).issues "[\x7b\"severity\":[]\x7d]" "" = .error fault := by
  have hroot : Value.isBadRoot (some "/repo") = false := by
    simp [Value.isBadRoot]
  let diagnostic : Entries := [(.text "severity", .list [])]
  have htext : "[\x7b\"severity\":[]\x7d]" = String.ofList (Json.write (.list [.mapping diagnostic])) := by
    decide
  have hplain : Json.IsPlain (.list [.mapping diagnostic]) := by
    refine .list _ fun item hitem => ?_
    rw [List.mem_singleton.mp hitem]
    refine .mapping _ (fun entry he => ?_) (by decide) fun entry he => ?_
    · exact ⟨"severity", congrArg Prod.fst (List.mem_singleton.mp he)⟩
    · rw [List.mem_singleton.mp he]
      exact .list [] fun item hnone => by cases hnone
  have hread : (Oxlint.dialect (some "/repo")).read "[\x7b\"severity\":[]\x7d]" "" =
      .ok (.structured "list" (.list [.mapping diagnostic])) := by
    rw [htext]
    exact congrArg Except.ok (Dialect.readJson_write_list hplain rfl _ _)
  have hrefused : Oxlint.Refuses "list" (.list [.mapping diagnostic]) (.unhashable "list") :=
    ⟨diagnostic, List.mem_singleton_self _, .inl (.inl ⟨rfl, rfl⟩)⟩
  exact ⟨hroot, (failsAsListed hroot _ "").oxlint.fails _ (.inl ⟨_, _, hread, hrefused⟩)⟩

/-- Two numbers of errors that can each be written but not their sum end the reading of the
compiler's text. -/
theorem issues_two_reports :
    let stdout := String.ofList (TypeScript.twoReports maxDigits)
    RunsWithin maxDigits (stdout ++ "").toList ∧
      ∃ fault, (TypeScript.dialect none).issues stdout "" = .error fault ∧ fault.kind = "ValueError" := by
  dsimp only
  have hover : (TypeScript.dialect none).Overflows (String.ofList (TypeScript.twoReports maxDigits)) "" :=
    TypeScript.overflows_twoReports none
  refine ⟨?_, ?_⟩
  · rw [String.append_empty, String.toList_ofList]
    exact TypeScript.runsWithin_twoReports (by decide)
  · rw [hover.1.issues_eq]
    exact Dialect.unread_of_unwritable (isCounting_foundCount _) hover.2

end Checkup
