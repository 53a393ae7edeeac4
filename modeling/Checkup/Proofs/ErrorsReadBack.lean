import Checkup.Proofs.EvidentFindings
import Checkup.Proofs.PrintedErrors

/-!
# Errors are read back

Lines of errors, with any other lines between them, give the issues of the errors in their order.
The other lines are those that speak of no error. They tell something of their own only where no
error is printed at all, by the number of errors that they announce.
-/

namespace Checkup.TypeScript

open Text

/-- A line that speaks of no error. -/
structure IsOther (line : String) : Prop where
  noCode : ¬"error TS".toList <:+: line.toList
  noError : ¬": error".toList <:+: line.toList

/-- Such lines are those that are passed over. -/
theorem isOther_iff {line : String} : IsOther line ↔ speaksOfError line.toList = false := by
  rw [← Bool.not_eq_true, speaksOfError, Bool.or_eq_true, occurs_iff, occurs_iff, not_or]
  exact ⟨fun h => ⟨h.noCode, h.noError⟩, fun h => ⟨h.1, h.2⟩⟩

/-- A line of output. -/
inductive OutputLine where
  | error (printed : PrintedError)
  | other (text : String) (isOther : IsOther text)

namespace OutputLine

/-- The characters of a line. -/
def chars : OutputLine → List Char
  | error printed => printed.text.toList
  | other text _ => text.toList

/-- The error of a line that is one. -/
def error? : OutputLine → Option PrintedError
  | error printed => some printed
  | other _ _ => none

end OutputLine

namespace PrintedError

variable {root : Option String}

/-- The issue of an error: the file below the root folder, and the line unless its number is too long. -/
def issue (root : Option String) (error : PrintedError) : Outcome Issue := do
  let file ← (Value.text error.file).toPath root
  .ok {
    severity := .error
    message := .text error.message
    file
    line := .lineNumber error.line
    rule := .text ("TS" ++ error.code) }

/-- The line of an error gives its issue. -/
theorem issueOf_text (error : PrintedError) : issueOf root error.text.toList = error.issue root := by
  have hfile : String.ofList (trim error.file.toList) = error.file := by
    rw [trim_eq_self error.isFile.2, String.ofList_toList]
  have hmessage : String.ofList (trim (trimStart error.message.toList)) = error.message := by
    have htwice : trimStart (trimStart error.message.toList) = trimStart error.message.toList :=
      trimStart_eq_self (stops_dropWhile isBlank error.message.toList)
    rw [trim, htwice, ← trim, error.isMessage, String.ofList_toList]
  have hcode : String.ofList ('T' :: 'S' :: error.code.toList) = "TS" ++ error.code := by
    rw [← String.toList_inj, String.toList_ofList, String.toList_append]
    rfl
  unfold issueOf issue
  rw [error.diagnostic?_text]
  dsimp only [found]
  rw [hfile, hmessage, hcode, Value.toLine_toDigits error.isLine]
  simp only [ok_bind, Value.ofLine?_eq_lineNumber]

/-- The word of an error stands in its line. -/
theorem isInfix_text (error : PrintedError) : "error TS".toList <:+: error.text.toList := by
  unfold text
  simp only [String.toList_append, List.append_assoc]
  rw [← List.append_assoc, ← List.append_assoc]
  exact List.infix_append' _ _ _

/-- The line of an error speaks of one. -/
theorem speaksOfError_text (error : PrintedError) : speaksOfError error.text.toList = true := by
  rw [speaksOfError, occurs_iff.mpr error.isInfix_text, Bool.true_or]

end PrintedError

variable {root : Option String} {stdout stderr : String} {output : List OutputLine}

/-- The lines that speak of an error are those of the errors. -/
theorem filter_chars (output : List OutputLine) :
    (output.map OutputLine.chars).filter speaksOfError =
      (output.filterMap OutputLine.error?).map fun error => error.text.toList := by
  induction output with
  | nil => rfl
  | cons line output ih =>
    rw [List.map_cons]
    cases line with
    | error printed =>
      have hspeaks : speaksOfError (OutputLine.error printed).chars = true := printed.speaksOfError_text
      rw [List.filter_cons_of_pos hspeaks, ih]
      rfl
    | other text isOther =>
      have hquiet : speaksOfError (OutputLine.other text isOther).chars = false := isOther_iff.mp isOther
      rw [List.filter_cons_of_neg (ne_true_of_eq_false hquiet), ih]
      rfl

/-- The lines of errors give the issues of the errors, and other lines give none. -/
theorem ofText_output {text : String} (h : lines text.toList = output.map OutputLine.chars) :
    (dialect root).ofText text = (output.filterMap OutputLine.error?).mapM (PrintedError.issue root) := by
  have hstep : (fun error : PrintedError => issueOf root error.text.toList) = PrintedError.issue root :=
    funext PrintedError.issueOf_text
  change ((lines text.toList).filter speaksOfError).mapM (issueOf root) = _
  rw [h, filter_chars, List.mapM_map, ← hstep]
  rfl

/-- Where an error is printed, the text is not blank. -/
theorem allBlank_of_output {text : String} (h : lines text.toList = output.map OutputLine.chars)
    (hne : output.filterMap OutputLine.error? ≠ []) : allBlank text.toList = false := by
  obtain ⟨error, herror⟩ := List.exists_mem_of_ne_nil _ hne
  have hspeaks : error.text.toList ∈ (lines text.toList).filter speaksOfError := by
    rw [h, filter_chars]
    exact List.mem_map_of_mem herror
  exact allBlank_of_mem_lines (List.mem_filter.mp hspeaks |>.1) (not_allBlank_of_isInfix rfl error.isInfix_text)

/-- Where an error is printed, the issues are those of the errors. -/
theorem issues_of_output (hlines : lines (stdout ++ stderr).toList = output.map OutputLine.chars)
    (hne : output.filterMap OutputLine.error? ≠ []) :
    (dialect root).issues stdout stderr = (output.filterMap OutputLine.error?).mapM (PrintedError.issue root) := by
  have htext : (dialect root).ofText (stdout ++ stderr) = _ := ofText_output hlines
  have hread : (dialect root).read stdout stderr = .ok (.text (stdout ++ stderr)) :=
    congrArg Except.ok (if_neg (ne_true_of_eq_false (allBlank_of_output hlines hne)))
  cases hfound : (output.filterMap OutputLine.error?).mapM (PrintedError.issue root) with
  | error fault => exact Dialect.issues_of_ofText_error hread (htext.trans hfound)
  | ok found =>
    have hlength := length_of_mapM_eq_ok hfound
    refine Dialect.issues_of_ofText hread (htext.trans hfound) fun hnil => hne ?_
    rw [hnil] at hlength
    exact List.eq_nil_of_length_eq_zero hlength.symm

/-- Printed errors are read back one by one and in their order, whatever stands between them,
wherever the text is cut into two streams and however its lines end. Where no error is printed,
none may be announced either. -/
theorem issues_of_printed_errors (hlines : lines (stdout ++ stderr).toList = output.map OutputLine.chars)
    (hsome : output.filterMap OutputLine.error? ≠ [] ∨ (dialect root).announcements (stdout ++ stderr) = []) :
    (dialect root).issues stdout stderr = (output.filterMap OutputLine.error?).mapM (PrintedError.issue root) := by
  by_cases hne : output.filterMap OutputLine.error? = []
  · have htext : (dialect root).ofText (stdout ++ stderr) = _ := ofText_output hlines
    rw [hne] at htext
    have hnothing : (dialect root).FindsNothing stdout stderr := by
      by_cases hblank : allBlank (stdout ++ stderr).toList = true
      · exact .inl (congrArg Except.ok (if_pos hblank))
      · exact .inr ⟨_, congrArg Except.ok (if_neg hblank), htext⟩
    rw [hnothing.issues_eq, hne]
    exact Dialect.unread_of_nil (hsome.resolve_left fun h => h hne)
  · exact issues_of_output hlines hne

/-- An error in the line of a task, with a file that has a digit at its end. -/
def tasksError : PrintedError where
  task := some ⟨"web", "check-types", ⟨by decide, forall_mem_of_all rfl⟩, ⟨by decide, forall_mem_of_all rfl⟩⟩
  style := .brackets
  file := "src/b2"
  line := 3
  column := 1
  code := "2304"
  message := "Cannot find name 'foo'."
  isFile := ⟨by decide, forall_mem_of_all rfl⟩
  fileWithoutPlace := fun h => absurd h.mem.1 (by decide)
  isLine := by decide
  isCode := ⟨by decide, forall_mem_of_all rfl⟩
  isMessage := by decide
  messageWithoutPlace := fun h => absurd h.mem.1 (by decide)

/-- An error whose file ends like a place in brackets. -/
def bracketsError : PrintedError where
  task := none
  style := .colons
  file := "c(1,2)"
  line := 4
  column := 2
  code := "1005"
  message := "';' expected."
  isFile := ⟨by decide, forall_mem_of_all rfl⟩
  fileWithoutPlace := fun h => absurd h.mem.2 (by decide)
  isLine := by decide
  isCode := ⟨by decide, forall_mem_of_all rfl⟩
  isMessage := by decide
  messageWithoutPlace := fun h => absurd h.mem.1 (by decide)

/-- The lines of both errors, with others behind them. -/
def twoErrors : List OutputLine :=
  [.error tasksError, .other "" (isOther_iff.mpr rfl), .error bracketsError,
    .other "Found 2 errors." (isOther_iff.mpr rfl)]

/-- Both errors are read back, one from each stream. -/
theorem issues_of_printed_errors_two :
    let stdout := "web:check-types: src/b2(3,1): error TS2304: Cannot find name 'foo'.\n\n"
    let stderr := "c(1,2):4:2 - error TS1005: ';' expected.\r\nFound 2 errors.\r\n"
    lines (stdout ++ stderr).toList = twoErrors.map OutputLine.chars ∧ twoErrors.filterMap OutputLine.error? ≠ [] ∧
      (dialect none).issues stdout stderr = .ok [
        { severity := .error, message := .text "Cannot find name 'foo'.", file := .text "src/b2",
          line := .lineNumber 3, rule := .text "TS2304" },
        { severity := .error, message := .text "';' expected.", file := .text "c(1,2)",
          line := .lineNumber 4, rule := .text "TS1005" }] := by
  intro stdout stderr
  have hlines : lines (stdout ++ stderr).toList = twoErrors.map OutputLine.chars := by decide +kernel
  have hsome : twoErrors.filterMap OutputLine.error? ≠ [] := List.cons_ne_nil _ _
  exact ⟨hlines, hsome, issues_of_printed_errors hlines (.inl hsome)⟩

/-- An error in a line with more digits than are read. -/
def lostLine : PrintedError where
  task := none
  style := .brackets
  file := "a.ts"
  line := unwritable
  column := 1
  code := "1"
  message := "x"
  isFile := ⟨by decide, forall_mem_of_all rfl⟩
  fileWithoutPlace := fun h => absurd h.mem.1 (by decide)
  isLine := unwritable_pos
  isCode := ⟨by decide, forall_mem_of_all rfl⟩
  isMessage := by decide
  messageWithoutPlace := fun h => absurd h.mem.1 (by decide)

/-- The line of that error is one line. -/
theorem lines_lostLine :
    lines (lostLine.text ++ "\n" ++ "").toList = [OutputLine.error lostLine].map OutputLine.chars := by
  have hplace := isBlank_of_mem_bracketed (isDigits_toDigits lostLine.line) (isDigits_toDigits lostLine.column)
  have hfile : ∀ c ∈ lostLine.file.toList, isLineBreak c = false := forall_mem_of_all rfl
  have hsaid : ∀ c ∈ said lostLine.code.toList lostLine.message.toList, isLineBreak c = false := forall_mem_of_all rfl
  have hline : ∀ c ∈ lostLine.text.toList, isLineBreak c = false := by
    rw [lostLine.toList_text, PrintedError.behindFile_brackets rfl]
    simp only [List.forall_mem_append, List.forall_mem_cons]
    exact ⟨fun c hc => absurd hc List.not_mem_nil, hfile, fun c hc => isLineBreak_of_isBlank (hplace c hc), rfl, hsaid⟩
  have hends : (lostLine.text ++ "\n" ++ "").toList = lostLine.text.toList ++ '\n' :: [] := by
    rw [String.append_empty, String.toList_append]
    rfl
  rw [hends, lines_append_line hline []]
  rfl

/-- Its issue tells no line. -/
theorem issue_lostLine : lostLine.issue none =
    .ok { severity := .error, message := .text "x", file := .text "a.ts", line := .null, rule := .text "TS1" } := by
  have hpath : (Value.text lostLine.file).toPath none = .ok (.text "a.ts") := rfl
  have hline : Value.lineNumber unwritable = .null := if_neg (Nat.lt_irrefl unwritable)
  rw [PrintedError.issue, hpath, ok_bind]
  simp only [lostLine, hline]
  rfl

/-- An error in such a line is read back without it, and where no error is printed an announcement
is an issue. -/
theorem issues_of_lost_line :
    (dialect none).issues (lostLine.text ++ "\n") "" =
        .ok [{ severity := .error, message := .text "x", file := .text "a.ts", line := .null, rule := .text "TS1" }] ∧
      IsOther "Found 2 errors" ∧ ∃ found, (dialect none).issues "Found 2 errors" "" = .ok [found] := by
  refine ⟨?_, isOther_iff.mpr rfl, (dialect none).unreadIssue 2, ?_⟩
  · have hread : (dialect none).issues (lostLine.text ++ "\n") "" = [lostLine].mapM (PrintedError.issue none) :=
      issues_of_output lines_lostLine (List.cons_ne_nil _ _)
    rw [hread, List.mapM_cons, issue_lostLine]
    rfl
  · have hnothing : (dialect none).FindsNothing "Found 2 errors" "" := .inr ⟨_, rfl, rfl⟩
    have hannounced : (dialect none).announcements "Found 2 errors" = [some ['2']] := rfl
    have htotal : (dialect none).total "Found 2 errors" = 2 := rfl
    have hread := @Dialect.unread_of_ne_nil _ (dialect none) "Found 2 errors" (isCounting_foundCount _)
    rw [hannounced, htotal] at hread
    exact hnothing.issues_eq.trans (hread (List.cons_ne_nil _ _) (lt_unwritable (by decide)))

end Checkup.TypeScript
