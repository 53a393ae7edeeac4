import Checkup.Dialect.Eslint
import Checkup.Dialect.Knip
import Checkup.Dialect.Madge
import Checkup.Dialect.TypeScript
import Checkup.Proofs.Outcomes

/-!
# Scanning text

Text can always be scanned: whatever its lines hold, the scan of a tool's text gives a
list of issues. A path is refused only for the root folder it is related to, and a line
that was read from a text is a number or none at all; only numbers that a document
brings may be infinite.
-/

namespace Checkup

open Text

/-! ## Reported values -/

namespace Value

variable {root : Option String}

/-- A floating-point number without bounds. -/
def IsInfinite (value : Value) : Prop := ∃ negative, value = .float (.infinite negative)

/-- Below a root folder that a file system may admit every value gives a path. -/
theorem toPath_succeeds (h : isBadRoot root = false) (value : Value) : Succeeds (value.toPath root) := by
  unfold toPath
  split
  · exact .ok _
  · exact .ok _
  · rw [h]
    exact .ok _

/-- A text with slashes alone is left as it is. -/
theorem slashed_eq_self {text : List Char} (h : '\\' ∉ text) : slashed text = text :=
  (List.map_congr_left fun _ hc => if_neg (ne_of_mem_of_not_mem hc h)).trans (List.map_id _)

/-- A path is left as it is, or the root is taken away from its start. -/
theorem exists_withoutRoot (root : String) (path : List Char) :
    withoutRoot (some root) path = path ∨ path = rootStart root ++ withoutRoot (some root) path := by
  unfold withoutRoot
  dsimp only
  unfold afterOptional
  cases h : after? (rootStart root) path with
  | none => exact .inl rfl
  | some rest => exact .inr (after?_eq_some.mp h)

/-- Of an empty path nothing is left. -/
theorem withoutRoot_nil (root : Option String) : withoutRoot root [] = [] := by
  cases root with
  | none => rfl
  | some root =>
    rcases exists_withoutRoot root [] with h | h
    · exact h
    · exact (List.append_eq_nil_iff.mp h.symm).2

/-- A path as it is shown, or none if nothing is left of it. -/
def shownPath (path : List Char) : Value := if path.isEmpty then .null else .text (String.ofList path)

/-- A path that is not empty is shown for itself alone. -/
theorem shownPath_eq_text_iff {path file : List Char} (hne : file ≠ []) :
    shownPath path = .text (String.ofList file) ↔ path = file := by
  unfold shownPath
  constructor
  · intro h
    split at h
    · cases h
    · exact String.ofList_injective (Scalar.text.inj (Value.scalar.inj h))
  · rintro rfl
    rw [if_neg (mt List.isEmpty_iff.mp hne)]

/-- A text is shown as what is left of it: with slashes, without blanks at its ends, and without the root. -/
theorem toPath_text (h : isBadRoot root = false) (path : String) :
    (Value.text path).toPath root = .ok (shownPath (withoutRoot root (trim (slashed path.toList)))) := by
  by_cases hempty : path = ""
  · subst hempty
    have hnone : withoutRoot root (trim (slashed [])) = [] := withoutRoot_nil root
    exact (congrArg (fun left => Except.ok (shownPath left)) hnone).symm
  · unfold toPath
    split
    · next heq => cases heq
    · next heq => exact absurd (Scalar.text.inj (Value.scalar.inj heq)) hempty
    · rw [h, if_neg Bool.false_ne_true]
      rfl

/-- Without a root folder a path with slashes alone and no blanks at its ends is shown as it is. -/
theorem toPath_none_text {path : String} (hne : path.toList ≠ []) (ht : trim path.toList = path.toList)
    (hs : '\\' ∉ path.toList) : (Value.text path).toPath none = .ok (.text path) := by
  have hshown : withoutRoot none (trim (slashed path.toList)) = path.toList := by
    change trim (slashed path.toList) = path.toList
    rw [slashed_eq_self hs, ht]
  rw [toPath_text rfl, (shownPath_eq_text_iff hne).mpr hshown, String.ofList_toList]

/-- A line that is not infinite is a number or none. -/
theorem toLine_succeeds {value : Value} (h : ¬value.IsInfinite) : Succeeds value.toLine := by
  cases value with
  | list items => exact .ok _
  | mapping entries => exact .ok _
  | scalar value =>
    cases value with
    | float number =>
      cases number with
      | infinite negative => exact absurd ⟨negative, rfl⟩ h
      | nan => exact .ok _
      | finite _ _ _ => exact .ok _
    | text written =>
      unfold toLine toWhole
      dsimp only
      cases toInt? written.toList <;> exact .ok _
    | _ => exact .ok _

/-- A line is refused exactly if it is infinite. -/
theorem toLine_failsBy (value : Value) :
    FailsBy value.toLine fun fault => value.IsInfinite ∧ fault = .infiniteNumber := by
  by_cases h : value.IsInfinite
  · obtain ⟨negative, rfl⟩ := h
    constructor
    · intro fault hf
      cases hf
      exact ⟨⟨negative, rfl⟩, rfl⟩
    · exact fun _ _ => ⟨_, rfl⟩
  · exact (FailsBy.of_succeeds (toLine_succeeds h)).congr fun fault =>
      ⟨False.elim, fun hf => h hf.1⟩

/-- No text is infinite as it stands. -/
theorem not_isInfinite_text (written : String) : ¬(Value.text written).IsInfinite := by
  rintro ⟨negative, h⟩
  cases h

end Value

/-! ## Recognising documents -/

/-- Nothing is left of a text without the blanks at its end only if it is blank. -/
theorem Text.allBlank_of_trimEnd {text : List Char} (h : trimEnd text = []) : allBlank text = true := by
  induction text with
  | nil => rfl
  | cons c rest ih =>
    rw [trimEnd] at h
    split at h
    · next hrest =>
      split at h
      · next hc =>
        change (isBlank c && allBlank rest) = true
        rw [hc, ih hrest, Bool.and_self]
      · cases h
    · cases h

/-- Nothing is left of a text without the blanks at both ends only if it is blank. -/
theorem Text.allBlank_of_trim {text : List Char} (h : trim text = []) : allBlank text = true := by
  have hkept : allBlank (trimStart text) = true := allBlank_of_trimEnd h
  have hsplit := List.takeWhile_append_dropWhile (p := isBlank) (l := text)
  unfold allBlank
  rw [← hsplit, List.all_append, List.all_takeWhile, Bool.true_and]
  exact hkept

/-- Output that should be a JSON document is blank, or it is scanned, or it is one. -/
theorem Dialect.readJson_cases (schemaOf : Value → Option String) (scanned : String → String → String)
    (stdout stderr : String) :
    (readJson schemaOf scanned stdout stderr = .empty ∧ allBlank stdout.toList = true) ∨
      readJson schemaOf scanned stdout stderr = .text (scanned stdout stderr) ∨
      ∃ schema payload, readJson schemaOf scanned stdout stderr = .structured schema payload ∧
        schemaOf payload = some schema := by
  unfold readJson
  dsimp only
  split
  · next h => exact .inl ⟨rfl, allBlank_of_trim (List.isEmpty_iff.mp h)⟩
  · split
    · exact .inr (.inl rfl)
    · exact .inr (.inl rfl)
    · next payload _ _ =>
      split
      · exact .inr (.inl rfl)
      · next schema hschema => exact .inr (.inr ⟨schema, payload, rfl, hschema⟩)

/-- A passage of a blank text is blank. -/
theorem Text.allBlank_of_isInfix {part text : List Char} (h : allBlank text = true) (hp : part <:+: text) :
    allBlank part = true :=
  List.all_eq_true.mpr fun c hc => List.all_eq_true.mp h c (hp.subset hc)

/-- Nothing is left of a blank text from its first character that is not a blank. -/
theorem Text.trimStart_of_allBlank {text : List Char} (h : allBlank text = true) : trimStart text = [] := by
  induction text with
  | nil => rfl
  | cons c rest ih =>
    obtain ⟨hc, hrest⟩ := Bool.and_eq_true_iff.mp h
    unfold trimStart
    rw [List.dropWhile_cons_of_pos hc]
    exact ih hrest

/-- Output that holds a document of a known schema is read as that document. -/
theorem Dialect.readJson_of_read {schemaOf : Value → Option String} {scanned : String → String → String}
    {stdout schema : String} {payload : Value} (h : Json.read? (trim stdout.toList) = some payload)
    (hn : payload ≠ .null) (hs : schemaOf payload = some schema) (stderr : String) :
    readJson schemaOf scanned stdout stderr = .structured schema payload := by
  have hfull : ¬(trim stdout.toList).isEmpty = true := by
    intro hempty
    rw [List.isEmpty_iff.mp hempty] at h
    cases h
  unfold readJson
  dsimp only
  rw [if_neg hfull, h]
  split
  · next hnone => cases hnone
  · next hnull => exact absurd (Option.some.inj hnull) hn
  · next found _ hfound =>
    cases hfound
    rw [hs]

/-- Output that should be a JSON document and is none is scanned, unless it is blank. -/
theorem Dialect.readJson_of_not_read {schemaOf : Value → Option String} {scanned : String → String → String}
    {stdout : String} (h : Json.read? (trim stdout.toList) = none) (stderr : String) :
    readJson schemaOf scanned stdout stderr =
      if allBlank stdout.toList then .empty else .text (scanned stdout stderr) := by
  unfold readJson
  dsimp only
  rw [h]
  by_cases hb : allBlank stdout.toList = true
  · have htrim : trim stdout.toList = [] := by
      rw [trim, trimStart_of_allBlank hb]
      rfl
    rw [htrim, if_pos hb]
    rfl
  · have htrim : ¬(trim stdout.toList).isEmpty = true := fun he => hb (allBlank_of_trim (List.isEmpty_iff.mp he))
    rw [if_neg htrim, if_neg hb]

/-- So output is scanned that is neither a document nor blank. -/
theorem Dialect.readJson_of_not_blank {schemaOf : Value → Option String} {scanned : String → String → String}
    {stdout : String} (h : Json.read? (trim stdout.toList) = none) (hb : allBlank stdout.toList = false)
    (stderr : String) : readJson schemaOf scanned stdout stderr = .text (scanned stdout stderr) := by
  rw [readJson_of_not_read h, hb]
  rfl

/-- Output that should be a JSON document counts as empty only if it is blank. -/
theorem Dialect.allBlank_of_readJson {schemaOf : Value → Option String}
    {scanned : String → String → String} {stdout stderr : String}
    (h : readJson schemaOf scanned stdout stderr = .empty) : allBlank stdout.toList = true := by
  rcases readJson_cases schemaOf scanned stdout stderr with ⟨-, hb⟩ | ht | ⟨schema, payload, ht, -⟩
  · exact hb
  · rw [ht] at h
    cases h
  · rw [ht] at h
    cases h

/-- Output that should be a JSON document and counts as text is scanned as it should be. -/
theorem Dialect.eq_scanned_of_readJson {schemaOf : Value → Option String}
    {scanned : String → String → String} {stdout stderr text : String}
    (h : readJson schemaOf scanned stdout stderr = .text text) : text = scanned stdout stderr := by
  rcases readJson_cases schemaOf scanned stdout stderr with ⟨ht, -⟩ | ht | ⟨schema, payload, ht, -⟩
  · rw [ht] at h
    cases h
  · rw [ht] at h
    cases h
    rfl
  · rw [ht] at h
    cases h

/-! ## Scans -/

variable {root : Option String}

namespace TypeScript

/-- Every line gives its issue. -/
theorem issueOf_succeeds (h : Value.isBadRoot root = false) (line : List Char) :
    Succeeds (issueOf root line) := by
  unfold issueOf
  split
  · exact .bind (Value.toPath_succeeds h _) fun _ =>
      .bind (Value.toLine_succeeds (Value.not_isInfinite_text _)) fun _ => .ok _
  · exact .ok _

/-- Every text gives its issues. -/
theorem issuesOfText_succeeds (h : Value.isBadRoot root = false) (text : String) :
    Succeeds (issuesOfText root text) :=
  .mapM fun line _ => issueOf_succeeds h line

end TypeScript

namespace Madge

/-- Every orphan gives its issue. -/
theorem orphanIssue_succeeds (h : Value.isBadRoot root = false) (base orphan : List Char) :
    Succeeds (orphanIssue base root orphan) :=
  .bind (Value.toPath_succeeds h _) fun _ => .ok _

end Madge

namespace Eslint

/-- A line of path, line and message gives its issue, and so does any other. -/
theorem colonIssue_succeeds (h : Value.isBadRoot root = false) (line : List Char) :
    Succeeds (colonIssue root line) := by
  unfold colonIssue
  dsimp only
  split
  · exact .ok _
  · split
    · exact .ok _
    · refine .bind (Value.toLine_succeeds (Value.not_isInfinite_text _)) fun number => ?_
      split
      · exact .ok _
      · exact .bind (Value.toPath_succeeds h _) fun _ => .ok _

/-- Every list of lines gives its issues, whatever path was last seen. -/
theorem issuesOfLines_succeeds (h : Value.isBadRoot root = false) (file : Value)
    (lines : List (List Char)) : Succeeds (issuesOfLines root file lines) := by
  induction lines generalizing file with
  | nil => exact .ok _
  | cons line rest ih =>
    unfold issuesOfLines
    split
    · exact .bind (Value.toPath_succeeds h _) fun path => ih path
    · split
      · exact .bind (Value.toLine_succeeds (Value.not_isInfinite_text _)) fun _ =>
          .bind (ih _) fun _ => .ok _
      · split
        · exact ih _
        · split
          · exact .bind (colonIssue_succeeds h line) fun _ => .bind (ih _) fun _ => .ok _
          · exact ih _

end Eslint

namespace Knip

/-- Every row of a section gives its issue. -/
theorem rowIssue_succeeds (h : Value.isBadRoot root = false) (category : Category) (row : List Char) :
    Succeeds (rowIssue root category row) := by
  unfold rowIssue
  dsimp only
  split
  · exact .bind (Value.toPath_succeeds h _) fun _ => .ok _
  · split
    · split
      · next location _ =>
        have hline : ¬(Value.ofText? (location.line.map String.ofList)).IsInfinite := by
          cases location.line with
          | none => rintro ⟨negative, hn⟩; cases hn
          | some digits => exact Value.not_isInfinite_text _
        exact .bind (Value.toPath_succeeds h _) fun _ =>
          .bind (Value.toLine_succeeds hline) fun _ => .ok _
      · exact .ok _
    · exact .ok _

/-- Every list of lines gives the issues of its sections, whatever section was last opened. -/
theorem sectionIssues_succeeds (h : Value.isBadRoot root = false) (category : Option Category)
    (lines : List (List Char)) : Succeeds (sectionIssues root category lines) := by
  induction lines generalizing category with
  | nil => exact .ok _
  | cons line rest ih =>
    unfold sectionIssues
    dsimp only
    split
    · exact ih _
    · split
      · exact ih none
      · split
        · exact ih none
        · exact .bind (rowIssue_succeeds h _ _) fun _ => .bind (ih _) fun _ => .ok _

/-- Every text gives its issues. -/
theorem issuesOfText_succeeds (h : Value.isBadRoot root = false) (text : String) :
    Succeeds (issuesOfText root text) :=
  .bind (sectionIssues_succeeds h none _) fun _ => .ok _

end Knip

end Checkup
