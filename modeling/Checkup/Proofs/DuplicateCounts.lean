import Checkup.Proofs.Colours
import Checkup.Proofs.DialectFaults
import Checkup.Proofs.SourceJudgement
import Mathlib.Data.List.Infix

/-!
# Numbers of duplicates

Every block about a duplicate starts with a header. So there are no more issues than headers,
and none exactly if there is no header: whole blocks are read if there are as many as headers,
otherwise each block is searched and gives one issue at most, and where none gives any, one
issue says how many headers there are.
-/

namespace Checkup.Jscpd

open Text

/-- Number of places in a text where a header stands. -/
def headersIn (text : List Char) : Nat := text.tails.countP fun rest => "Clone found".toList.isPrefixOf rest

/-- All that the issues of some output say about the headers in it, when they can be told. -/
structure BoundedBy (root : Option String) (stdout stderr : String) (headers : Nat) : Prop where
  /-- There are issues, unless nothing is read of so many headers that their number cannot be written. -/
  succeeds : headers < unwritable → Succeeds ((dialect root).issues stdout stderr)
  none : ∀ found, (dialect root).issues stdout stderr = .ok found → (found = [] ↔ headers = 0)
  most : ∀ found, (dialect root).issues stdout stderr = .ok found → found.length ≤ headers
  warnings : ∀ found, (dialect root).issues stdout stderr = .ok found → ∀ issue ∈ found, issue.severity = .warning
  status : ∀ duration check, (dialect root).check stdout stderr duration = .ok check →
    check.status = if 0 < headers then .warn else .pass
  /-- With a known structure there is one issue for each header. -/
  structured : ∀ schema clones, (dialect root).read stdout stderr = .ok (.structured schema clones) →
    ∃ found, (dialect root).issues stdout stderr = .ok found ∧ found.length = headers

variable {root : Option String} {stdout stderr : String} {text : List Char}

/-- The headers are counted place by place. -/
theorem headerCount_eq (text : List Char) : headerCount text = headersIn text := by
  have hall : ∀ text before, (sightings (following header) before text).length = headersIn text := by
    intro text
    induction text with
    | nil => exact fun _ => rfl
    | cons c rest ih =>
      intro before
      have hhere : (following header before (c :: rest)).toList.length =
          if "Clone found".toList.isPrefixOf (c :: rest) then 1 else 0 := by
        unfold following
        cases ha : after? header (c :: rest) with
        | none =>
          refine (if_neg fun hstarts => ?_).symm
          obtain ⟨behind, hbehind⟩ := List.isPrefixOf_iff_prefix.mp hstarts
          have hafter : after? header (c :: rest) = some behind := after?_eq_some.mpr hbehind.symm
          rw [hafter] at ha
          cases ha
        | some behind =>
          refine (if_pos (List.isPrefixOf_iff_prefix.mpr ?_)).symm
          exact ⟨behind, (after?_eq_some.mp ha).symm⟩
      rw [sightings, List.length_append, ih (some c), hhere, headersIn, headersIn, List.tails_cons,
        List.countP_cons, Nat.add_comm]
  exact hall text none

/-- A header announces one duplicate. -/
theorem total_eq (root : Option String) (text : String) : (dialect root).total text = headersIn text.toList := by
  have hall : ∀ text before, ((sightings (dialect root).announcement before text).map Dialect.worth).sum =
      (sightings (following header) before text).length := by
    intro text
    induction text with
    | nil => exact fun _ => rfl
    | cons c rest ih =>
      intro before
      rw [sightings, sightings, List.map_append, List.sum_append_nat, List.length_append, ih (some c)]
      refine congrArg (· + _) ?_
      change (((after? header (c :: rest)).map fun _ => none).toList.map Dialect.worth).sum = _
      unfold following
      cases after? header (c :: rest) <;> rfl
  rw [← headerCount_eq]
  exact hall text.toList none

/-- An issue of a duplicate is a warning. -/
theorem severity_issueOf {duplicate : Duplicate} {issue : Issue} (h : issueOf root duplicate = .ok issue) :
    issue.severity = .warning := by
  unfold issueOf at h
  obtain ⟨first, -, h⟩ := bind_eq_ok_iff.mp h
  obtain ⟨second, -, h⟩ := bind_eq_ok_iff.mp h
  cases h
  rfl

/-- So are all issues of some duplicates. -/
theorem severity_of_mapM {duplicates : List Duplicate} {found : List Issue}
    (h : duplicates.mapM (issueOf root) = .ok found) : ∀ issue ∈ found, issue.severity = .warning := by
  intro issue hissue
  obtain ⟨duplicate, -, hduplicate⟩ := (members_of_mapM_eq_ok h).1 issue hissue
  exact severity_issueOf hduplicate

/-- The blocks of a text that are searched give no more issues than there are headers, all warnings. -/
theorem issuesOfText_bounded {text : String} {found : List Issue} (h : issuesOfText root text = .ok found) :
    found.length ≤ headersIn text.toList ∧ ∀ issue ∈ found, issue.severity = .warning := by
  unfold issuesOfText at h
  obtain ⟨duplicates, hduplicates, h⟩ := bind_eq_ok_iff.mp h
  refine ⟨?_, severity_of_mapM h⟩
  have hparts : (partsAfter header text.toList).length = headersIn text.toList := by
    rw [partsAfter, List.length_map, ← headerCount_eq]
    rfl
  rw [length_of_mapM_eq_ok h, length_of_mapM_eq_ok hduplicates, ← hparts]
  exact List.length_filterMap_le _ _

/-- Output with short runs is recognised by its headers: there are none, or each has its whole block,
or the text is searched. -/
theorem read_cases (hr : RunsWithin maxDigits (scanned stdout stderr).toList) :
    (headersIn (scanned stdout stderr).toList = 0 ∧ read stdout stderr = .ok .empty) ∨
      0 < headersIn (scanned stdout stderr).toList ∧
        ((∃ clones, read stdout stderr = .ok (.structured "console" clones) ∧
            clones.length = headersIn (scanned stdout stderr).toList) ∨
          read stdout stderr = .ok (.text (scanned stdout stderr))) := by
  unfold read
  dsimp only
  rw [headerCount_eq]
  by_cases hzero : headersIn (scanned stdout stderr).toList = 0
  · exact .inl ⟨hzero, if_pos hzero⟩
  · refine .inr ⟨Nat.pos_of_ne_zero hzero, ?_⟩
    obtain ⟨clones, hclones⟩ : Succeeds ((blocks (scanned stdout stderr).toList).mapM Clone.read) :=
      .mapM fun clone hclone => (isReadable_of_mem_blocks hr hclone).read_succeeds
    rw [if_neg hzero, hclones, ok_bind]
    by_cases hall : clones.length = headersIn (scanned stdout stderr).toList
    · exact .inl ⟨clones, by rw [if_pos hall], hall⟩
    · exact .inr (by rw [if_neg hall])

/-- Whole blocks give one issue each. -/
theorem issues_of_structured {schema : String} {clones : List Duplicate}
    (hr : (dialect root).read stdout stderr = .ok (.structured schema clones)) :
    (dialect root).issues stdout stderr = clones.mapM (issueOf root) := by
  unfold Dialect.issues
  rw [hr]
  rfl

/-- Below a root that a file system may admit there are as many issues as whole blocks. -/
theorem exists_issues_of_structured (h : Value.isBadRoot root = false) {schema : String}
    {clones : List Duplicate} (hr : (dialect root).read stdout stderr = .ok (.structured schema clones)) :
    ∃ found, (dialect root).issues stdout stderr = .ok found ∧ found.length = clones.length ∧
      ∀ issue ∈ found, issue.severity = .warning := by
  obtain ⟨found, hfound⟩ : Succeeds (clones.mapM (issueOf root)) :=
    .mapM fun duplicate _ => issueOf_succeeds h duplicate
  exact ⟨found, (issues_of_structured hr).trans hfound, length_of_mapM_eq_ok hfound, severity_of_mapM hfound⟩

/-- What the issues of some output are, by its headers. -/
theorem issues_cases (h : Value.isBadRoot root = false) (hr : RunsWithin maxDigits (scanned stdout stderr).toList) :
    (headersIn (scanned stdout stderr).toList = 0 ∧ (dialect root).issues stdout stderr = .ok []) ∨
      0 < headersIn (scanned stdout stderr).toList ∧
        ((∃ found, (dialect root).issues stdout stderr = .ok found ∧ found ≠ [] ∧
            found.length ≤ headersIn (scanned stdout stderr).toList ∧ ∀ issue ∈ found, issue.severity = .warning) ∨
          unwritable ≤ headersIn (scanned stdout stderr).toList ∧
            ∃ fault, (dialect root).issues stdout stderr = .error fault) := by
  have hcounting : IsCounting (dialect root).announcement := isCounting_of_forall (announcement_ne_some root)
  have htotal : (dialect root).total (scanned stdout stderr) = headersIn (scanned stdout stderr).toList :=
    total_eq root _
  rcases read_cases hr with ⟨hzero, hread⟩ | ⟨hpos, ⟨clones, hread, hlength⟩ | hread⟩
  · refine .inl ⟨hzero, ?_⟩
    have hnone : (dialect root).announcements (scanned stdout stderr) = [] := by
      rw [← Dialect.total_eq_zero_iff hcounting, htotal, hzero]
    rw [Dialect.FindsNothing.issues_eq (.inl hread)]
    exact Dialect.unread_of_nil hnone
  · obtain ⟨found, hissues, hcount, hwarnings⟩ := exists_issues_of_structured h hread
    rw [hlength] at hcount
    exact .inr ⟨hpos, .inl ⟨found, hissues, List.ne_nil_of_length_pos (hcount ▸ hpos), hcount.le, hwarnings⟩⟩
  · refine .inr ⟨hpos, ?_⟩
    obtain ⟨found, hfound⟩ := issuesOfText_succeeds h hr
    by_cases hnil : found = []
    · -- Nothing was read of any block, so the headers are counted.
      have hnothing : (dialect root).FindsNothing stdout stderr := .inr ⟨_, hread, hnil ▸ hfound⟩
      have hsome : (dialect root).announcements (scanned stdout stderr) ≠ [] := by
        rw [ne_eq, ← Dialect.total_eq_zero_iff hcounting, htotal]
        exact Nat.ne_of_gt hpos
      rw [hnothing.issues_eq]
      change (∃ found, (dialect root).unread (scanned stdout stderr) = _ ∧ _) ∨
        _ ∧ ∃ fault, (dialect root).unread (scanned stdout stderr) = .error fault
      by_cases hw : headersIn (scanned stdout stderr).toList < unwritable
      · refine .inl ⟨_, Dialect.unread_of_ne_nil hcounting hsome (htotal ▸ hw), List.cons_ne_nil _ _, hpos, ?_⟩
        exact List.forall_mem_singleton.mpr rfl
      · have hlarge := Nat.not_lt.mp hw
        obtain ⟨fault, hfault, -⟩ := Dialect.unread_of_unwritable hcounting (htotal ▸ hlarge)
        exact .inr ⟨hlarge, fault, hfault⟩
    · obtain ⟨hmost, hwarnings⟩ := issuesOfText_bounded hfound
      exact .inl ⟨found, Dialect.issues_of_ofText hread hfound hnil, hnil, hmost, hwarnings⟩

/-- Output gives its issues, unless nothing is read of more headers than can be written. -/
theorem issues_succeeds (h : Value.isBadRoot root = false)
    (hr : RunsWithin maxDigits (scanned stdout stderr).toList)
    (hw : headersIn (scanned stdout stderr).toList < unwritable) :
    Succeeds ((dialect root).issues stdout stderr) := by
  rcases issues_cases h hr with ⟨-, hnone⟩ | ⟨-, ⟨found, hfound, -⟩ | ⟨hlarge, -⟩⟩
  · exact ⟨[], hnone⟩
  · exact ⟨found, hfound⟩
  · exact absurd hw (Nat.not_lt.mpr hlarge)

/-- The status of a check of warnings alone says whether there are any. -/
theorem status_of_warnings {found : List Issue} (h : ∀ issue ∈ found, issue.severity = .warning) :
    Status.ofIssues found = if found = [] then .pass else .warn := by
  have herror : ¬ ∃ issue ∈ found, issue.severity = .error := by
    rintro ⟨issue, hissue, hseverity⟩
    rw [h issue hissue] at hseverity
    cases hseverity
  cases found with
  | nil => rfl
  | cons issue found =>
    rw [if_neg (List.cons_ne_nil _ _), Status.ofIssues_eq_warn_iff]
    exact ⟨herror, issue, List.mem_cons_self, h issue List.mem_cons_self⟩

/-- There are no more issues than headers, at least one if there is a header, and all are warnings;
where every header has its whole block there is one for each. -/
theorem boundedBy_headers (h : Value.isBadRoot root = false)
    (hr : RunsWithin maxDigits (scanned stdout stderr).toList) :
    BoundedBy root stdout stderr (headersIn (scanned stdout stderr).toList) := by
  have hfound : ∀ found, (dialect root).issues stdout stderr = .ok found →
      (found = [] ↔ headersIn (scanned stdout stderr).toList = 0) ∧
        found.length ≤ headersIn (scanned stdout stderr).toList ∧ ∀ issue ∈ found, issue.severity = .warning := by
    intro found hissues
    rcases issues_cases h hr with ⟨hzero, hnone⟩ | ⟨hpos, ⟨given, hgiven, hne, hrest⟩ | ⟨-, fault, hfault⟩⟩
    · rw [hnone] at hissues
      cases hissues
      exact ⟨iff_of_true rfl hzero, Nat.zero_le _, fun issue hissue => absurd hissue List.not_mem_nil⟩
    · rw [hgiven] at hissues
      cases hissues
      exact ⟨iff_of_false hne (Nat.ne_of_gt hpos), hrest⟩
    · rw [hfault] at hissues
      cases hissues
  constructor
  case succeeds => exact issues_succeeds h hr
  case none => exact fun found hissues => (hfound found hissues).1
  case most => exact fun found hissues => (hfound found hissues).2.1
  case warnings => exact fun found hissues => (hfound found hissues).2.2
  case status =>
    intro duration check hcheck
    obtain ⟨found, hissues, hcheck⟩ := bind_eq_ok_iff.mp hcheck
    cases hcheck
    obtain ⟨hnone, -, hwarnings⟩ := hfound found hissues
    change Status.ofIssues found = _
    rw [status_of_warnings hwarnings]
    by_cases hnil : found = []
    · rw [if_pos hnil, if_neg (by rw [hnone.mp hnil]; exact Nat.lt_irrefl 0)]
    · rw [if_neg hnil, if_pos (Nat.pos_of_ne_zero (mt hnone.mpr hnil))]
  case structured =>
    intro schema clones hread
    rcases read_cases hr with ⟨-, hempty⟩ | ⟨-, ⟨given, hgiven, hlength⟩ | htext⟩
    · cases hempty.symm.trans hread
    · cases hgiven.symm.trans hread
      obtain ⟨found, hissues, hcount, -⟩ := exists_issues_of_structured h hread
      exact ⟨found, hissues, hcount.trans hlength⟩
    · cases htext.symm.trans hread

/-- A header whose block is lost gives one warning. -/
theorem boundedBy_headers_lost :
    let stdout := "Clone found (typescript):\n - the places are lost\n"
    Value.isBadRoot (some "/repo") = false ∧ RunsWithin maxDigits (scanned stdout "").toList ∧
      headersIn (scanned stdout "").toList = 1 ∧ BoundedBy (some "/repo") stdout "" 1 := by
  intro stdout
  have hroot : Value.isBadRoot (some "/repo") = false := by
    simp [Value.isBadRoot]
  have hscanned : (scanned stdout "").toList = stdout.toList := by
    have hplain : escape ∉ stdout.toList := by decide
    rw [scanned, String.append_empty, String.toList_ofList, uncoloured_of_not_mem hplain]
  have hruns : RunsWithin maxDigits (scanned stdout "").toList := by
    rw [hscanned]
    exact .of_length_le (by decide)
  have hone : headersIn (scanned stdout "").toList = 1 := by
    rw [hscanned]
    decide
  exact ⟨hroot, hruns, hone, hone ▸ boundedBy_headers hroot hruns⟩

end Checkup.Jscpd
