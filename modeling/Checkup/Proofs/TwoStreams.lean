import Checkup.Proofs.EvidentFindings
import Checkup.Proofs.RunIssues
import Checkup.Proofs.TextPassages
import Checkup.Proofs.TextStretches

/-!
# Two streams

A check reads the streams of its tool and not how the tool ended. So a tool that could not
run, and says so on the second stream alone, does not show in the checks that read the
first stream. The checks of the compiler and of boundaries read the second stream as well,
and show what they recognise there.

A dialect that scans both streams puts the second one right behind the first. Where the first
stream ends within a line, the line at the seam is one line of the text and part of two lines of
the streams, and this is the one place where issues are lost or won. On which stream a text is
printed makes no difference to the dialects that recognise output by both of them, and it does to
one that recognises it by the first.
-/

namespace Checkup

open Text

/-- Output that should be a JSON document and is none at all gives what is announced. -/
theorem Dialect.issues_of_silent {dialect : Dialect Value} {schemaOf : Value → Option String}
    {scanned : String → String → String} {stderr : String}
    (hr : dialect.read "" stderr = .ok (readJson schemaOf scanned "" stderr)) :
    dialect.issues "" stderr = dialect.unread (dialect.scanned "" stderr) :=
  FindsNothing.issues_eq (.inl hr)

namespace Workplace

variable {place : Workplace} {settings : Settings} {flags : RunFlags} {kind : CheckKind}
  {output : ToolOutput}

/-! ## Asking a tool -/

section Ask

variable {Payload : Type} {dialect : Dialect Payload} {announcement tool : String}
  {arguments : List String}

/-- A check that asks a tool holds the issues of the answer. -/
theorem check_of_issues {found : List Issue}
    (h : place.attempt settings flags kind = place.ask announcement tool arguments dialect)
    (ho : place.tools ⟨tool, arguments⟩ = .ok output)
    (hf : dialect.issues output.stdout output.stderr = .ok found) :
    (place.examine settings flags kind).check =
      .ofIssues dialect.checkName found place.elapsed (dialect.summary found)
        (some (output.stdout ++ output.stderr)) := by
  refine examine_of_ok ?_
  rw [h, result_ask]
  exact bind_eq_ok_iff.mpr ⟨output, ho, bind_eq_ok_iff.mpr ⟨found, hf, rfl⟩⟩

/-- A check whose answer cannot be read has failed. -/
theorem status_of_issues_error {fault : Fault}
    (h : place.attempt settings flags kind = place.ask announcement tool arguments dialect)
    (ho : place.tools ⟨tool, arguments⟩ = .ok output)
    (hf : dialect.issues output.stdout output.stderr = .error fault) :
    (place.examine settings flags kind).check.status = .fail := by
  have hresult : (place.attempt settings flags kind).result = .error fault := by
    rw [h, result_ask, ho]
    change (dialect.issues output.stdout output.stderr >>= fun found => _) = _
    rw [hf]
    rfl
  rw [examine_of_error hresult]
  rfl

end Ask

/-- No run leaves out the search for dead code. -/
theorem attempt_knip :
    place.attempt settings flags .knip =
      place.ask "Running knip (dead code detection)..." "knip" ["--reporter", "json"]
        (Knip.dialect (place.rootText settings)) := by
  unfold attempt
  rw [if_neg (by simp [CheckKind.isSlow])]

/-- No run leaves out the compiler. -/
theorem attempt_typeScript :
    place.attempt settings flags .typeScript =
      place.ask "Running TypeScript type check..." "turbo" ["check-types", "--output-logs=errors-only"]
        (TypeScript.dialect (place.rootText settings)) := by
  unfold attempt
  rw [if_neg (by simp [CheckKind.isSlow])]

/-- A run that is not quick checks the boundaries that are defined. -/
theorem attempt_architecture (hq : flags.quick = false)
    (hd : place.tree.hasFile (settings.below settings.architectureConfig) = true) :
    place.attempt settings flags .architecture =
      place.ask "Running architecture boundary check..." "dependency-cruiser"
        (architectureArguments settings) (Architecture.dialect (place.rootText settings)) := by
  unfold attempt checkBoundaries
  rw [hq, if_neg (by simp), if_pos hd]

/-! ## Answers without standard output -/

/-- What the checks make of an answer whose standard output is empty, whatever it says
otherwise and however the tool ended. -/
structure ReadsStreamsOnly (place : Workplace) (settings : Settings) (flags : RunFlags) (output : ToolOutput) :
    Prop where
  /-- The fast linter has passed. -/
  oxlint : place.tools ⟨"oxlint", oxlintArguments flags.fix⟩ = .ok output →
    (place.examine settings flags .oxlint).check.status = .pass
  /-- The linter of modules has passed. -/
  eslint : place.tools ⟨"eslint", eslintArguments⟩ = .ok output →
    (place.examine settings flags .eslint).check.status = .pass
  /-- The search for dead code has passed. -/
  knip : place.tools ⟨"knip", ["--reporter", "json"]⟩ = .ok output →
    (place.examine settings flags .knip).check.status = .pass
  /-- The compiler has failed if the second stream shows an error, and passed otherwise. -/
  typeScript : place.tools ⟨"turbo", ["check-types", "--output-logs=errors-only"]⟩ = .ok output →
    (TypeScript.IsEvident output.stderr.toList →
        (place.examine settings flags .typeScript).check.status = .fail) ∧
      (¬TypeScript.IsEvident output.stderr.toList →
        (place.examine settings flags .typeScript).check.status = .pass)
  /-- The boundaries are kept exactly if the second stream announces no violations. -/
  architecture : flags.quick = false →
    place.tree.hasFile (settings.below settings.architectureConfig) = true →
    place.tools ⟨"dependency-cruiser", architectureArguments settings⟩ = .ok output →
    ((place.examine settings flags .architecture).check.status = .pass ↔
      (Architecture.dialect none).announcements output.stderr = [])

/-- A tool whose standard output is empty and not read any further has passed. -/
theorem status_of_silent {dialect : Dialect Value} {schemaOf : Value → Option String}
    {announcement tool : String} {arguments : List String}
    (hr : ∀ stdout stderr, dialect.read stdout stderr =
      .ok (Dialect.readJson schemaOf Dialect.stdoutOnly stdout stderr))
    (hs : dialect.scanned = Dialect.stdoutOnly)
    (h : place.attempt settings flags kind = place.ask announcement tool arguments dialect)
    (hout : output.stdout = "") (ho : place.tools ⟨tool, arguments⟩ = .ok output) :
    (place.examine settings flags kind).check.status = .pass := by
  have hissues : dialect.issues output.stdout output.stderr = .ok [] := by
    rw [hout, Dialect.issues_of_silent (hr "" output.stderr), hs]
    exact Dialect.unread_of_nil rfl
  rw [check_of_issues h ho hissues]
  rfl

/-- The compiler's check tells an answer on the second stream alone by what it shows. -/
theorem status_typeScript (hout : output.stdout = "")
    (ho : place.tools ⟨"turbo", ["check-types", "--output-logs=errors-only"]⟩ = .ok output) :
    (TypeScript.IsEvident output.stderr.toList →
        (place.examine settings flags .typeScript).check.status = .fail) ∧
      (¬TypeScript.IsEvident output.stderr.toList →
        (place.examine settings flags .typeScript).check.status = .pass) := by
  have htext : (output.stdout ++ output.stderr).toList = output.stderr.toList := by
    rw [hout, String.empty_append]
  rw [← htext]
  constructor
  · intro he
    cases hissues : (TypeScript.dialect (place.rootText settings)).issues output.stdout output.stderr with
    | ok found =>
      rw [check_of_issues attempt_typeScript ho hissues]
      exact (Status.ofIssues_eq_fail_iff found).mpr (TypeScript.issues_of_evident he found hissues)
    | error fault => exact status_of_issues_error attempt_typeScript ho hissues
  · intro he
    rw [check_of_issues attempt_typeScript ho (TypeScript.issues_of_not_evident he)]
    rfl

/-- The check of boundaries tells an answer on the second stream alone by what it announces. -/
theorem status_architecture (hq : flags.quick = false)
    (hd : place.tree.hasFile (settings.below settings.architectureConfig) = true)
    (hout : output.stdout = "")
    (ho : place.tools ⟨"dependency-cruiser", architectureArguments settings⟩ = .ok output) :
    (place.examine settings flags .architecture).check.status = .pass ↔
      (Architecture.dialect none).announcements output.stderr = [] := by
  have hask := attempt_architecture hq hd
  let dialect := Architecture.dialect (place.rootText settings)
  have hcounting : IsCounting dialect.announcement := isCounting_countedWord _ _
  have hunread : dialect.issues output.stdout output.stderr = dialect.unread output.stderr := by
    rw [hout, Dialect.issues_of_silent rfl]
    change dialect.unread ("" ++ output.stderr) = _
    rw [String.empty_append]
  constructor
  · intro hpass
    refine Classical.byContradiction fun hne => ?_
    by_cases hw : dialect.total output.stderr < unwritable
    · rw [check_of_issues hask ho (hunread.trans (Dialect.unread_of_ne_nil hcounting hne hw))] at hpass
      cases hpass
    · obtain ⟨fault, hfault, -⟩ := Dialect.unread_of_unwritable hcounting (Nat.not_lt.mp hw)
      rw [status_of_issues_error hask ho (hunread.trans hfault)] at hpass
      cases hpass
  · intro hnone
    rw [check_of_issues hask ho (hunread.trans (Dialect.unread_of_nil hnone))]
    rfl

end Workplace

/-! ## The compiler's errors -/

namespace TypeScript

variable {root : Option String} {stdout stderr : String}

/-- A line that two parts make up tells what the parts tell on lines of their own. -/
inductive IsSeamless (root : Option String) (last first : List Char) : Prop
  /-- Nothing of it speaks of an error. -/
  | silent (quiet : speaksOfError (last ++ first) = false)
  /-- The first part alone speaks of an error, and the second one changes nothing about it. -/
  | ofLast (speaks : speaksOfError last = true) (quiet : speaksOfError first = false)
    (same : issueOf root (last ++ first) = issueOf root last)
  /-- The second part alone speaks of an error, and the first one changes nothing about it. -/
  | ofFirst (quiet : speaksOfError last = false) (speaks : speaksOfError first = true)
    (same : issueOf root (last ++ first) = issueOf root first)

/-- What becomes of the issues of two streams in the text that both make up. -/
structure JoinsStreams (root : Option String) (stdout stderr : String) (first second both : List Issue) : Prop where
  /-- The first stream on its own. -/
  ofStdout : (dialect root).ofText stdout = .ok first
  /-- The second stream on its own. -/
  ofStderr : (dialect root).ofText stderr = .ok second
  /-- The text of both. -/
  ofBoth : (dialect root).ofText ((dialect root).scanned stdout stderr) = .ok both
  /-- Nothing is lost and nothing is won exactly if the line at the seam tells what its parts tell. -/
  exact : both = first ++ second ↔ IsSeamless root (lastPiece stdout.toList) (firstPiece stderr.toList)
  /-- The numbers of issues add up, but for one that is lost where both parts of the line at the
  seam speak of an error, and one that is won where only the line does. -/
  count : both.length +
      (speaksOfError (lastPiece stdout.toList) && speaksOfError (firstPiece stderr.toList)).toNat =
    first.length + second.length +
      (!speaksOfError (lastPiece stdout.toList) && !speaksOfError (firstPiece stderr.toList) &&
        speaksOfError (lastPiece stdout.toList ++ firstPiece stderr.toList)).toNat
  /-- A line end at the seam keeps the streams apart. -/
  apart : (∀ c ∈ stdout.toList.getLast?, isLineBreak c = true) ∨ (∀ c ∈ stderr.toList.head?, isLineBreak c = true) →
    both = first ++ second

/-- A line speaks of an error if a part of it does. -/
theorem speaksOfError_of_isInfix {part line : List Char} (h : speaksOfError part = true) (hp : part <:+: line) :
    speaksOfError line = true := by
  rw [speaksOfError, Bool.or_eq_true, occurs_iff, occurs_iff] at h ⊢
  exact h.imp (·.trans hp) (·.trans hp)

/-- A part of a line is as quiet as the line. -/
theorem speaksOfError_append_eq_false {last first : List Char} (h : speaksOfError (last ++ first) = false) :
    speaksOfError last = false ∧ speaksOfError first = false := by
  constructor
  · refine Bool.eq_false_iff.mpr fun hl => ?_
    rw [speaksOfError_of_isInfix hl (List.prefix_append last first).isInfix] at h
    cases h
  · refine Bool.eq_false_iff.mpr fun hf => ?_
    rw [speaksOfError_of_isInfix hf (List.suffix_append last first).isInfix] at h
    cases h

/-- Where nothing stands on one side of the seam, the line there is the part on the other side. -/
theorem IsSeamless.of_nil {last first : List Char} (h : last = [] ∨ first = []) : IsSeamless root last first := by
  rcases h with rfl | rfl
  · cases hspeaks : speaksOfError first with
    | false => exact .silent hspeaks
    | true => exact .ofFirst rfl hspeaks rfl
  · cases hspeaks : speaksOfError last with
    | false => exact .silent (by rw [List.append_nil, hspeaks])
    | true => exact .ofLast hspeaks rfl (by rw [List.append_nil])

section Seam

variable {issue : List Char → Issue} {last first : List Char}

/-- The line at the seam gives the issues of its parts exactly if it tells what they tell. -/
theorem isSeamless_iff (hi : ∀ line, issueOf root line = .ok (issue line)) :
    ([last ++ first].filter speaksOfError).map issue =
        ([last].filter speaksOfError).map issue ++ ([first].filter speaksOfError).map issue ↔
      IsSeamless root last first := by
  have hsame : ∀ part, issue (last ++ first) = issue part ↔ issueOf root (last ++ first) = issueOf root part := by
    intro part
    rw [hi, hi]
    exact ⟨congrArg Except.ok, Except.ok.inj⟩
  constructor
  · intro hseam
    cases hboth : speaksOfError (last ++ first) with
    | false => exact .silent hboth
    | true =>
      -- One issue is that of one part exactly if one part speaks.
      cases hlast : speaksOfError last <;> cases hfirst : speaksOfError first <;>
        simp [hboth, hlast, hfirst] at hseam
      case true.false => exact .ofLast hlast hfirst ((hsame last).mp hseam)
      case false.true => exact .ofFirst hlast hfirst ((hsame first).mp hseam)
  · intro hseamless
    cases hseamless with
    | silent quiet =>
      obtain ⟨hlast, hfirst⟩ := speaksOfError_append_eq_false quiet
      simp [quiet, hlast, hfirst]
    | ofLast speaks quiet same =>
      have hboth := speaksOfError_of_isInfix speaks (List.prefix_append last first).isInfix
      simp [hboth, speaks, quiet, (hsame last).mpr same]
    | ofFirst quiet speaks same =>
      have hboth := speaksOfError_of_isInfix speaks (List.suffix_append last first).isInfix
      simp [hboth, speaks, quiet, (hsame first).mpr same]

/-- The line at the seam gives as many issues as its parts, but for one that is lost and one that is won. -/
theorem length_seam (last first : List Char) :
    ([last ++ first].filter speaksOfError).length + (speaksOfError last && speaksOfError first).toNat =
      ([last].filter speaksOfError).length + ([first].filter speaksOfError).length +
        (!speaksOfError last && !speaksOfError first && speaksOfError (last ++ first)).toNat := by
  cases hboth : speaksOfError (last ++ first) with
  | false =>
    obtain ⟨hlast, hfirst⟩ := speaksOfError_append_eq_false hboth
    simp [hboth, hlast, hfirst]
  | true =>
    cases hlast : speaksOfError last <;> cases hfirst : speaksOfError first <;> simp [hboth, hlast, hfirst]

end Seam

/-- The issues of a text are those of its lines that speak of an error. -/
theorem ofText_eq {issue : List Char → Issue} (hi : ∀ line, issueOf root line = .ok (issue line)) (text : String) :
    (dialect root).ofText text = .ok (((lines text.toList).filter speaksOfError).map issue) := by
  have hstep : issueOf root = fun line => pure (issue line) := funext hi
  change ((lines text.toList).filter speaksOfError).mapM (issueOf root) = _
  rw [hstep, List.mapM_pure]
  rfl

/-- The issues of two streams are those of the text that both make up, but for the line at the seam. -/
theorem joinsStreams (h : Value.isBadRoot root = false) (stdout stderr : String) :
    ∃ first second both, JoinsStreams root stdout stderr first second both := by
  obtain ⟨issue, hissue⟩ := Classical.skolem.mp (issueOf_succeeds h)
  obtain ⟨before, after, hfirst, hsecond, hboth⟩ :=
    @filter_lines_append speaksOfError rfl stdout.toList stderr.toList
  rw [← String.toList_append] at hboth
  have hexact : ((lines (stdout ++ stderr).toList).filter speaksOfError).map issue =
      ((lines stdout.toList).filter speaksOfError).map issue ++
        ((lines stderr.toList).filter speaksOfError).map issue ↔
      IsSeamless root (lastPiece stdout.toList) (firstPiece stderr.toList) := by
    rw [← isSeamless_iff hissue, hfirst, hsecond, hboth]
    simp only [List.map_append, List.append_assoc, List.append_cancel_left_eq]
    rw [← List.append_assoc, List.append_cancel_right_eq]
  refine ⟨_, _, _, ofText_eq hissue stdout, ofText_eq hissue stderr, ofText_eq hissue (stdout ++ stderr), hexact,
    ?_, ?_⟩
  · have hlength := length_seam (lastPiece stdout.toList) (firstPiece stderr.toList)
    rw [hfirst, hsecond, hboth]
    simp only [List.length_map, List.length_append]
    omega
  · exact fun hends => hexact.mpr (.of_nil (hends.imp lastPiece_eq_nil_iff.mpr firstPiece_eq_nil_iff.mpr))

/-- A line feed behind the first error keeps it apart from the second one. -/
theorem joinsStreams_line_feed :
    Value.isBadRoot none = false ∧ ∃ first second,
      (dialect none).ofText "a.ts(1,1): error TS1: x\n" = .ok first ∧
      (dialect none).ofText "b.ts(2,2): error TS2: y" = .ok second ∧
      (dialect none).ofText ((dialect none).scanned "a.ts(1,1): error TS1: x\n" "b.ts(2,2): error TS2: y") =
        .ok (first ++ second) := by
  obtain ⟨first, second, both, hjoins⟩ :=
    @joinsStreams none rfl "a.ts(1,1): error TS1: x\n" "b.ts(2,2): error TS2: y"
  have hends : ∀ c ∈ "a.ts(1,1): error TS1: x\n".toList.getLast?, isLineBreak c = true := by
    intro c hc
    cases hc
    rfl
  have happart : both = first ++ second := hjoins.apart (.inl hends)
  exact ⟨rfl, first, second, hjoins.ofStdout, hjoins.ofStderr, happart ▸ hjoins.ofBoth⟩

/-- Without the line feed two errors become one, which tells of the second one in its message. -/
theorem ofText_unfinished_line :
    ∃ first second both, (dialect none).ofText "a.ts(1,1): error TS1: x" = .ok [first] ∧
      (dialect none).ofText "b.ts(2,2): error TS2: y" = .ok [second] ∧
      (dialect none).ofText ((dialect none).scanned "a.ts(1,1): error TS1: x" "b.ts(2,2): error TS2: y") = .ok [both] ∧
      both.message = .text "xb.ts(2,2): error TS2: y" :=
  ⟨_, _, _, rfl, rfl, rfl, rfl⟩

end TypeScript

/-! ## One stream or the other -/

variable {root : Option String} {text : String}

/-- Output that is recognised as the same and scanned as the same gives the same issues. -/
theorem Dialect.issues_congr {Payload : Type} {dialect : Dialect Payload} {first second third fourth : String}
    (hr : dialect.read first second = dialect.read third fourth)
    (hs : dialect.scanned first second = dialect.scanned third fourth) :
    dialect.issues first second = dialect.issues third fourth := by
  rw [issues, issues, hr, hs]

/-- The compiler's errors do not depend on where the text is cut into two streams. -/
theorem TypeScript.issues_of_append {stdout stderr : String} (h : stdout ++ stderr = text) :
    (dialect root).issues stdout stderr = (dialect root).issues text "" := by
  have htext : Dialect.bothStreams stdout stderr = Dialect.bothStreams text "" := h.trans String.append_empty.symm
  refine Dialect.issues_congr ?_ htext
  change Except.ok (read stdout stderr) = Except.ok (read text "")
  rw [read, read, htext]

/-- Neither do the clones. -/
theorem Jscpd.issues_of_append {stdout stderr : String} (h : stdout ++ stderr = text) :
    (dialect root).issues stdout stderr = (dialect root).issues text "" := by
  have hscanned : scanned stdout stderr = scanned text "" := by
    rw [scanned, scanned, h, String.append_empty]
  refine Dialect.issues_congr ?_ hscanned
  change read stdout stderr = read text ""
  rw [read, read, hscanned]

/-- What is said about findings that are announced is no finding of a line. -/
theorem Dialect.unread_gives {Payload : Type} (dialect : Dialect Payload) (text : String) :
    Gives (dialect.unread text) fun found =>
      ∀ issue ∈ found, issue.rule = .text (dialect.ruleStem ++ "/unparsed") := by
  refine dialect.unread_gives_of (List.forall_mem_nil _) (fun count issue hissue => ?_) text
  rw [List.mem_singleton.mp hissue]
  rfl

namespace Architecture

/-- A blank line speaks of no violation. -/
theorem allBlank_of_speaksOfViolation {line : List Char} (h : speaksOfViolation line = true) :
    allBlank line = false := by
  obtain ⟨hspeaks, -⟩ := Bool.and_eq_true_iff.mp h
  rcases Bool.or_eq_true_iff.mp hspeaks with hword | hword
  · exact not_allBlank_of_isInfix rfl (occurs_iff.mp hword)
  · exact not_allBlank_of_isInfix rfl (occurs_iff.mp hword)

/-- On the second stream alone nothing but announcements is looked for. -/
theorem issues_stderr (root : Option String) (text : String) :
    (dialect root).issues "" text = (dialect root).unread text := by
  rw [@Dialect.issues_of_silent (dialect root) schemaOf Dialect.bothStreams text rfl]
  exact congrArg (dialect root).unread String.empty_append

/-- Nothing is found in a text exactly if none of its lines speaks of a violation. -/
theorem issuesOfText_eq_nil_iff :
    issuesOfText text = [] ↔ ∀ line ∈ lines text.toList, speaksOfViolation line = false := by
  rw [issuesOfText, List.map_eq_nil_iff, List.filter_eq_nil_iff]
  exact forall₂_congr fun line _ => Bool.not_eq_true _ ▸ Iff.rfl

/-- On the first stream the lines of a text that is no document are looked through as well. -/
theorem issues_stdout (hj : Json.read? (trim text.toList) = none) :
    (dialect root).issues text "" =
      if issuesOfText text = [] then (dialect root).unread text else .ok (issuesOfText text) := by
  have hread : (dialect root).read text "" = .ok (if allBlank text.toList then .empty else .text (text ++ "")) :=
    congrArg Except.ok (Dialect.readJson_of_not_read hj "")
  rw [String.append_empty] at hread
  have hscanned : (dialect root).scanned text "" = text := String.append_empty
  by_cases hfound : issuesOfText text = []
  · have hnothing : (dialect root).FindsNothing text "" := by
      by_cases hb : allBlank text.toList = true
      · exact .inl (by rw [hread, if_pos hb])
      · exact .inr ⟨text, by rw [hread, if_neg hb], congrArg Except.ok hfound⟩
    rw [if_pos hfound, hnothing.issues_eq, hscanned]
  · have hb : ¬allBlank text.toList = true := by
      intro hb
      refine hfound (issuesOfText_eq_nil_iff.mpr fun line hline => Bool.eq_false_iff.mpr fun hspeaks => ?_)
      have hline : allBlank line = true := allBlank_of_isInfix hb (isInfix_of_mem_lines hline)
      rw [allBlank_of_speaksOfViolation hspeaks] at hline
      cases hline
    rw [if_neg hb] at hread
    rw [if_neg hfound, Dialect.issues_of_ofText hread rfl hfound]

/-- A text that is no document gives the same on both streams exactly if none of its lines
speaks of a violation. -/
theorem issues_stderr_eq_iff (hj : Json.read? (trim text.toList) = none) :
    (dialect root).issues "" text = (dialect root).issues text "" ↔
      ∀ line ∈ lines text.toList, speaksOfViolation line = false := by
  rw [issues_stderr, issues_stdout hj, ← issuesOfText_eq_nil_iff]
  constructor
  · intro hsame
    refine Classical.byContradiction fun hfound => ?_
    rw [if_neg hfound] at hsame
    obtain ⟨issue, hissue⟩ := List.exists_mem_of_ne_nil _ hfound
    have hannounced := (dialect root).unread_gives text _ hsame issue hissue
    obtain ⟨line, -, rfl⟩ := List.mem_map.mp hissue
    have hrules : Value.text "architecture/unknown" ≠ .text "architecture/unparsed" := by simp
    exact hrules hannounced
  · intro hfound
    rw [if_pos hfound]

end Architecture

/-- What becomes of a text that is printed on the second stream and not on the first. -/
structure ReadsEitherStream (root : Option String) (text : String) : Prop where
  /-- The search for clones finds the same. -/
  jscpd : (Jscpd.dialect root).issues "" text = (Jscpd.dialect root).issues text ""
  /-- The compiler's errors are the same. -/
  typeScript : (TypeScript.dialect root).issues "" text = (TypeScript.dialect root).issues text ""
  /-- The boundaries are the same for a text that is no document exactly if none of its lines
  speaks of a violation: on the second stream alone nothing but announcements is looked for. -/
  architecture : Json.read? (trim text.toList) = none →
    ((Architecture.dialect root).issues "" text = (Architecture.dialect root).issues text "" ↔
      ∀ line ∈ lines text.toList, Architecture.speaksOfViolation line = false)

/-- The dialects that recognise output by both streams read a text from either, and the other one
does so where the lines have nothing to tell. -/
theorem readsEitherStream (root : Option String) (text : String) : ReadsEitherStream root text where
  jscpd := Jscpd.issues_of_append String.empty_append
  typeScript := TypeScript.issues_of_append String.empty_append
  architecture := Architecture.issues_stderr_eq_iff

/-- A tool that fails with a message on the second stream leaves nothing, and on the first a warning. -/
theorem issues_crash_message :
    (Architecture.dialect none).issues "" "error: cannot find config" = .ok [] ∧
      ∃ warning, (Architecture.dialect none).issues "error: cannot find config" "" = .ok [warning] ∧
        warning.message = .text "error: cannot find config" :=
  ⟨rfl, _, rfl, rfl⟩

end Checkup
