import Checkup.Proofs.ClonesReadBack
import Checkup.Proofs.LinterRules

/-!
# Well-formed issues

An issue is well formed if its file is a path with slashes, its line a positive number, and its
rule and what to do about it are texts, as far as it has them. Some of that is taken over from a tool
as it stands: the rules of the two linters, the comments on violations, and the first lines of
duplicates. The issues of these four are well formed exactly if what is taken over is, and those of
the others always.
-/

namespace Checkup

open Text

namespace Value

/-- A path with slashes alone, or none. -/
def IsPath (value : Value) : Prop :=
  value = .null ∨ ∃ path : String, value = .text path ∧ path.toList ≠ [] ∧ '\\' ∉ path.toList

/-- A positive number, or none. -/
def IsLine (value : Value) : Prop := value = .null ∨ ∃ n : Int, value = .int n ∧ 0 < n

/-- A text, or none. -/
def IsOptionalText (value : Value) : Prop := value = .null ∨ ∃ text : String, value = .text text

/-- No separator of the other kind is left in a path with slashes. -/
theorem not_mem_slashed (path : List Char) : '\\' ∉ slashed path := by
  intro h
  obtain ⟨c, -, hc⟩ := List.mem_map.mp h
  split at hc
  · cases hc
  · next hne => exact hne hc

/-- What is left of a path below a root ends it. -/
theorem withoutRoot_isSuffix (root : Option String) (path : List Char) : withoutRoot root path <:+ path := by
  cases root with
  | none => exact List.suffix_refl path
  | some root =>
    rcases exists_withoutRoot root path with hsame | hstart
    · rw [hsame]
    · exact ⟨_, hstart.symm⟩

/-- A reported path is made a path with slashes. -/
theorem toPath_isPath (root : Option String) (value : Value) : Gives (value.toPath root) IsPath := by
  unfold toPath
  split
  · exact .ok (.inl rfl)
  · exact .ok (.inl rfl)
  · dsimp only
    split
    · exact .error _
    · refine .ok ?_
      split
      · exact .inl rfl
      · next hfull =>
        refine .inr ⟨_, rfl, ?_, ?_⟩
        · rw [String.toList_ofList]
          exact fun hnil => hfull (List.isEmpty_iff.mpr hnil)
        · rw [String.toList_ofList]
          intro hmem
          have htrim := (withoutRoot_isSuffix root _).mem hmem
          have hstart := (trimEnd_isPrefix _).mem htrim
          exact not_mem_slashed _ ((List.dropWhile_suffix isBlank).mem hstart)

/-- A reported line is made a positive number. -/
theorem toLine_isLine (value : Value) : Gives value.toLine fun line => (ofLine? line).IsLine := by
  unfold toLine
  split
  · next n _ =>
    refine .ok ?_
    by_cases hn : 0 < n
    · rw [if_pos hn]
      exact .inr ⟨n, rfl, hn⟩
    · rw [if_neg hn]
      exact .inl rfl
  · exact .error _
  · exact .ok (.inl rfl)

/-- A text that may be missing is a text or none. -/
theorem isOptionalText_ofText? (text : Option String) : (ofText? text).IsOptionalText := by
  cases text with
  | none => exact .inl rfl
  | some text => exact .inr ⟨text, rfl⟩

end Value

/-! ## Issues -/

/-- An issue whose fields are what they should be. -/
structure Issue.IsWellFormed (issue : Issue) : Prop where
  file : issue.file.IsPath
  line : issue.line.IsLine
  rule : issue.rule.IsOptionalText
  fix : issue.fix.IsOptionalText

namespace Issue.IsWellFormed

variable {issue : Issue} {text : String}

/-- An issue about a file with a text for its rule. -/
theorem of_file (hf : issue.file.IsPath) (hl : issue.line.IsLine) (hr : issue.rule = .text text)
    (hx : issue.fix = .null) : issue.IsWellFormed := ⟨hf, hl, .inr ⟨text, hr⟩, .inl hx⟩

/-- An issue about no file. -/
theorem of_rule (hf : issue.file = .null) (hl : issue.line = .null) (hr : issue.rule.IsOptionalText)
    (hx : issue.fix = .null) : issue.IsWellFormed := ⟨.inl hf, .inl hl, hr, .inl hx⟩

end Issue.IsWellFormed

/-- All of some issues are well formed. -/
def AllWellFormed (issues : List Issue) : Prop := ∀ issue ∈ issues, issue.IsWellFormed

namespace AllWellFormed

variable {issues further : List Issue}

/-- Where there are no issues all are well formed. -/
theorem nil : AllWellFormed [] := fun _ h => absurd h List.not_mem_nil

/-- Well-formed issues stand before others. -/
theorem append (h : AllWellFormed issues) (hf : AllWellFormed further) : AllWellFormed (issues ++ further) :=
  List.forall_mem_append.mpr ⟨h, hf⟩

/-- Each of some things has a well-formed issue. -/
theorem map {α : Type} {make : α → Issue} (h : ∀ item, (make item).IsWellFormed) (items : List α) :
    AllWellFormed (items.map make) := List.forall_mem_map.mpr fun item _ => h item

/-- Steps that give well-formed issues give a list of them. -/
theorem mapM {α : Type} {step : α → Outcome Issue} (h : ∀ item, Gives (step item) Issue.IsWellFormed)
    (items : List α) : Gives (items.mapM step) AllWellFormed := Gives.mapM h items

/-- Lists of well-formed issues make up one. -/
theorem flatten {lists : List (List Issue)} (h : ∀ issues ∈ lists, AllWellFormed issues) :
    AllWellFormed lists.flatten := List.forall_mem_flatten.mpr h

end AllWellFormed

/-! ## Dialects -/

namespace Dialect

variable {Payload : Type} {dialect : Dialect Payload}

/-- The issue about findings that a text announces is well formed. -/
theorem unread_wellFormed (text : String) : Gives (dialect.unread text) AllWellFormed :=
  dialect.unread_gives_of .nil (fun _ => List.forall_mem_singleton.mpr (.of_rule rfl rfl (.inr ⟨_, rfl⟩) rfl)) text

/-- What is read of some output has a property, be it a structure or a text. -/
def ReadingIs (dialect : Dialect Payload) (structured : String → Payload → Prop) (text : String → Prop)
    (stdout stderr : String) : Prop :=
  match dialect.read stdout stderr with
  | .ok (.structured schema payload) => structured schema payload
  | .ok (.text found) => text found
  | _ => True

/-- The issues of some output are well formed exactly if what is read of it has a property, where those
of a structure and those of a text are so. -/
theorem issues_wellFormed_iff {structured : String → Payload → Prop} {text : String → Prop}
    (hs : ∀ schema payload, Gives (dialect.ofStructured schema payload) fun found =>
      AllWellFormed found ↔ structured schema payload)
    (ht : ∀ shown, Gives (dialect.ofText shown) fun found => AllWellFormed found ↔ text shown)
    (stdout stderr : String) :
    Gives (dialect.issues stdout stderr) fun found =>
      AllWellFormed found ↔ dialect.ReadingIs structured text stdout stderr := by
  intro found hfound
  obtain ⟨reading, hread, hissues⟩ := bind_eq_ok_iff.mp hfound
  unfold ReadingIs
  rw [hread]
  cases reading with
  | structured schema payload => exact hs schema payload found hissues
  | text shown =>
    obtain ⟨scanned, hscanned, hrest⟩ := bind_eq_ok_iff.mp hissues
    have hiff := ht shown scanned hscanned
    split at hrest
    · next hempty =>
      -- Without an issue the text is as it should be, and so is the issue about announced findings.
      rw [List.isEmpty_iff.mp hempty] at hiff
      exact iff_of_true (unread_wellFormed _ found hrest) (hiff.mp .nil)
    · cases hrest
      exact hiff
  | empty => exact iff_of_true (unread_wellFormed _ found hissues) trivial

/-- The issues of some output are well formed if those of a structure and those of a text are. -/
theorem issues_wellFormed (hs : ∀ schema payload, Gives (dialect.ofStructured schema payload) AllWellFormed)
    (ht : ∀ text, Gives (dialect.ofText text) AllWellFormed) (stdout stderr : String) :
    Gives (dialect.issues stdout stderr) AllWellFormed := issues_gives hs ht unread_wellFormed stdout stderr

end Dialect

/-! ## Tools whose issues are always well formed -/

/-- The issues that the compiler gives are well formed. -/
theorem TypeScript.issues_wellFormed (root : Option String) (stdout stderr : String) :
    Gives ((TypeScript.dialect root).issues stdout stderr) AllWellFormed := by
  refine Dialect.issues_wellFormed (fun schema payload => .ok .nil) (fun text => .mapM (fun line => ?_) _) stdout stderr
  unfold TypeScript.issueOf
  split
  · refine .bind_of (Value.toPath_isPath root _) fun file hfile => ?_
    refine .bind_of (Value.toLine_isLine _) fun number hnumber => ?_
    exact .ok (.of_file hfile hnumber rfl rfl)
  · exact .ok (.of_rule rfl rfl (.inl rfl) rfl)

namespace Madge

/-- The issue of an orphan is well formed. -/
theorem orphanIssue_wellFormed (base : List Char) (root : Option String) (orphan : List Char) :
    Gives (orphanIssue base root orphan) Issue.IsWellFormed :=
  .bind_of (Value.toPath_isPath root _) fun _ hfile => .ok (.of_file hfile (.inl rfl) rfl rfl)

/-- The issues about orphans are well formed. -/
theorem orphans_wellFormed (base : String) (root : Option String) (stdout stderr : String) :
    Gives ((orphans base root).issues stdout stderr) AllWellFormed :=
  Dialect.issues_wellFormed (fun _ _ => .mapM (fun _ => orphanIssue_wellFormed _ root _) _)
    (fun _ => .mapM (fun _ => orphanIssue_wellFormed _ root _) _) stdout stderr

/-- The issues about circles are well formed. -/
theorem circular_wellFormed (stdout stderr : String) : Gives (circular.issues stdout stderr) AllWellFormed := by
  have hcircle : ∀ circle, (circleIssue circle).IsWellFormed := fun circle => .of_rule rfl rfl (.inr ⟨_, rfl⟩) rfl
  exact Dialect.issues_wellFormed (fun _ _ => .ok (.map hcircle _)) (fun _ => .ok (.map (fun _ => hcircle _) _))
    stdout stderr

end Madge

namespace Knip

variable {root : Option String} {file : Value}

/-- The issues of one category about a file are well formed. -/
theorem categoryIssues_wellFormed (hf : file.IsPath) (entry : Entries) (key : String) (category : Category) :
    Gives (categoryIssues file entry key category) AllWellFormed :=
  .mapM (fun _ => .bind_of (Value.toLine_isLine _) fun _ hline => .ok (.of_file hf hline rfl rfl)) _

/-- The issues about names that a file exports twice are well formed. -/
theorem duplicateIssues_wellFormed (hf : file.IsPath) (entry : Entries) :
    AllWellFormed (duplicateIssues file entry) := by
  intro issue hissue
  obtain ⟨group, -, hgroup⟩ := List.mem_filterMap.mp hissue
  dsimp only at hgroup
  split at hgroup
  · cases hgroup
    exact .of_file hf (.inl rfl) rfl rfl
  · cases hgroup

/-- The issues about one file are well formed. -/
theorem entryIssues_wellFormed (root : Option String) (entry : Entries) :
    Gives (entryIssues root entry) AllWellFormed := by
  refine .bind_of (Value.toPath_isPath root _) fun file hfile => ?_
  have hrow : ∀ row : String × Category, Gives (categoryIssues file entry row.1 row.2) AllWellFormed :=
    fun row => categoryIssues_wellFormed hfile entry row.1 row.2
  refine .bind_of (.mapM hrow _) fun found hfound => ?_
  exact .ok (.append (.flatten hfound) (duplicateIssues_wellFormed hfile entry))

/-- The issues of a document of either schema are well formed. -/
theorem issuesOfDocument_wellFormed (root : Option String) (schema : String) (payload : Value) :
    Gives (issuesOfDocument root schema payload) AllWellFormed := by
  unfold issuesOfDocument
  split
  · next entries =>
    have hfiles : Gives (fileIssues root entries) AllWellFormed :=
      .mapM (fun _ => .bind_of (Value.toPath_isPath root _) fun _ hfile => .ok (.of_file hfile (.inl rfl) rfl rfl)) _
    have hnewer : Gives (List.flatten <$> (Entries.get entries "issues").mappings.mapM (entryIssues root))
        AllWellFormed :=
      .bind_of (.mapM (entryIssues_wellFormed root) _) fun lists hlists => .ok (.flatten hlists)
    have holder : Gives (legacyIssues root entries) AllWellFormed := by
      have hdependencies : ∀ key category, AllWellFormed (dependencyIssues entries key category) :=
        fun key category => .map (fun _ => .of_rule rfl rfl (.inr ⟨_, rfl⟩) rfl) _
      refine .bind_of (AllWellFormed.mapM (fun item => ?_) _) fun exports hexports =>
        .ok (.append (.append hexports (hdependencies _ _)) (hdependencies _ _))
      exact .bind_of (Value.toPath_isPath root _) fun _ hfile => .ok (.of_file hfile (.inl rfl) rfl rfl)
    refine .bind_of hfiles fun found hfound => ?_
    dsimp only
    split
    · exact .bind_of hnewer fun further hfurther => .ok (.append hfound hfurther)
    · exact .bind_of holder fun further hfurther => .ok (.append hfound hfurther)
  · exact .ok .nil

/-- The issue of a row is well formed. -/
theorem rowIssue_wellFormed (root : Option String) (category : Category) (row : List Char) :
    Gives (rowIssue root category row) Issue.IsWellFormed := by
  unfold rowIssue
  dsimp only
  split
  · exact .bind_of (Value.toPath_isPath root _) fun _ hfile => .ok (.of_file hfile (.inl rfl) rfl rfl)
  · split
    · split
      · refine .bind_of (Value.toPath_isPath root _) fun _ hfile => ?_
        exact .bind_of (Value.toLine_isLine _) fun _ hline => .ok (.of_file hfile hline rfl rfl)
      · exact .ok (.of_rule rfl rfl (.inr ⟨_, rfl⟩) rfl)
    · exact .ok (.of_rule rfl rfl (.inr ⟨_, rfl⟩) rfl)

/-- The issues of the rows of a text are well formed, whichever section is open. -/
theorem sectionIssues_wellFormed (category : Option Category) (lines : List (List Char)) :
    Gives (sectionIssues root category lines) AllWellFormed := by
  induction lines generalizing category with
  | nil =>
    rw [sectionIssues]
    exact .ok .nil
  | cons line lines ih =>
    rw [sectionIssues.eq_def]
    dsimp only
    split
    · exact ih _
    · split
      · exact ih _
      · split
        · exact ih _
        · next known =>
          refine .bind_of (rowIssue_wellFormed root known _) fun issue hissue => ?_
          exact .bind_of (ih _) fun issues hissues => .ok (List.forall_mem_cons.mpr ⟨hissue, hissues⟩)

/-- The issues about dead code are well formed. -/
theorem issues_wellFormed (root : Option String) (stdout stderr : String) :
    Gives ((dialect root).issues stdout stderr) AllWellFormed := by
  refine Dialect.issues_wellFormed (issuesOfDocument_wellFormed root) (fun text => ?_) stdout stderr
  refine .bind_of (sectionIssues_wellFormed none _) fun found hfound => .ok ?_
  split
  · exact .map (fun _ => .of_rule rfl rfl (.inl rfl) rfl) _
  · exact hfound

end Knip

/-! ## Linters -/

/-- The line of a diagnostic is positive, be it its own or that of a label. -/
theorem Oxlint.lineOf_isLine (diagnostic : Entries) :
    Gives (lineOf diagnostic) fun line => (Value.ofLine? line).IsLine := by
  refine .bind_of (Value.toLine_isLine _) fun line hline => ?_
  cases line with
  | some line => exact .ok hline
  | none =>
    change Gives (labelLine diagnostic) _
    unfold labelLine
    split
    · exact Value.toLine_isLine _
    · exact .ok (.inl rfl)

/-- The issues of the fast linter are well formed exactly if every diagnostic of its document names a
text for its rule, or none. -/
theorem Oxlint.issues_wellFormed_iff (root : Option String) (stdout stderr : String) :
    Gives ((Oxlint.dialect root).issues stdout stderr) fun found =>
      AllWellFormed found ↔ (Oxlint.dialect root).ReadingIs
        (fun schema payload => ∀ diagnostic ∈ Oxlint.diagnostics schema payload,
          (reportedRule diagnostic).IsOptionalText)
        (fun _ => True) stdout stderr := by
  refine Dialect.issues_wellFormed_iff (fun schema payload => ?_) (fun text => ?_) stdout stderr
  · refine .mapM_iff (fun diagnostic => ?_) _
    refine .bind fun severity => .bind_of (Value.toPath_isPath root _) fun file hfile => ?_
    refine .bind_of (lineOf_isLine diagnostic) fun line hline => ?_
    exact .ok ⟨fun h => h.rule, fun hrule => ⟨hfile, hline, hrule, .inl rfl⟩⟩
  · exact .ok (iff_of_true (.map (fun _ => .of_rule rfl rfl (.inl rfl) rfl) _) trivial)

namespace Eslint

/-- The issues of a line with colons are well formed. -/
theorem colonIssue_wellFormed (root : Option String) (line : List Char) :
    Gives (colonIssue root line) Issue.IsWellFormed := by
  unfold colonIssue
  dsimp only
  split
  · exact .ok (.of_rule rfl rfl (.inl rfl) rfl)
  · split
    · exact .ok (.of_rule rfl rfl (.inl rfl) rfl)
    · refine .bind_of (Value.toLine_isLine _) fun number hnumber => ?_
      cases number with
      | none => exact .ok (.of_rule rfl rfl (.inl rfl) rfl)
      | some n =>
        refine .bind_of (Value.toPath_isPath root _) fun file hfile => ?_
        exact .ok ⟨hfile, hnumber, .inl rfl, .inl rfl⟩

/-- The issues of the lines of a text are well formed below a path. -/
theorem issuesOfLines_wellFormed (root : Option String) {file : Value} (hf : file.IsPath) (lines : List (List Char)) :
    Gives (issuesOfLines root file lines) AllWellFormed := by
  induction lines generalizing file with
  | nil =>
    rw [issuesOfLines]
    exact .ok .nil
  | cons line lines ih =>
    rw [issuesOfLines.eq_def]
    dsimp only
    split
    · exact .bind_of (Value.toPath_isPath root _) fun path hpath => ih hpath
    · split
      · refine .bind_of (Value.toLine_isLine _) fun number hnumber => ?_
        refine .bind_of (ih hf) fun issues hissues => .ok (List.forall_mem_cons.mpr ⟨?_, hissues⟩)
        exact ⟨hf, hnumber, Value.isOptionalText_ofText? _, .inl rfl⟩
      · split
        · exact ih hf
        · split
          · refine .bind_of (colonIssue_wellFormed root line) fun issue hissue => ?_
            exact .bind_of (ih hf) fun issues hissues => .ok (List.forall_mem_cons.mpr ⟨hissue, hissues⟩)
          · exact ih hf

/-- The issues of the linter of modules are well formed exactly if every message of its document names
a text for its rule, or none. -/
theorem issues_wellFormed_iff (root : Option String) (stdout stderr : String) :
    Gives ((dialect root).issues stdout stderr) fun found =>
      AllWellFormed found ↔ (dialect root).ReadingIs
        (fun schema payload => ∀ result ∈ results schema payload,
          ∀ message ∈ (Entries.get result "messages").mappings, (Entries.get message "ruleId").IsOptionalText)
        (fun _ => True) stdout stderr := by
  refine Dialect.issues_wellFormed_iff (fun schema payload => ?_) (fun text => ?_) stdout stderr
  · have hresult : ∀ result, Gives (issuesOfResult root result) fun issues => AllWellFormed issues ↔
        ∀ message ∈ (Entries.get result "messages").mappings, (Entries.get message "ruleId").IsOptionalText := by
      refine fun result => .bind_of (Value.toPath_isPath root _) fun file hfile => .mapM_iff (fun message => ?_) _
      refine .bind fun severity => .bind_of (Value.toLine_isLine _) fun line hline => ?_
      exact .ok ⟨fun h => h.rule, fun hrule => ⟨hfile, hline, hrule, .inl rfl⟩⟩
    refine .bind_of (.mapM_iff hresult _) fun lists hlists => .ok ?_
    exact List.forall_mem_flatten.trans hlists
  · exact (issuesOfLines_wellFormed root (.inl rfl) _).mono fun _ h => iff_of_true h trivial

end Eslint

/-! ## Boundaries and duplicates -/

/-- What to do about a violation. -/
def Architecture.shownFix (violation : Entries) : Value :=
  (Entries.get (((Entries.get violation "rule").entries?).getD []) "comment").orElse
    ((Entries.get violation "comment").orElse (.text defaultFix))

/-- The issues about boundaries are well formed exactly if every comment that is shown is a text. -/
theorem Architecture.issues_wellFormed_iff (root : Option String) (stdout stderr : String) :
    Gives ((Architecture.dialect root).issues stdout stderr) fun found =>
      AllWellFormed found ↔ (Architecture.dialect root).ReadingIs
        (fun schema payload => ∀ violation ∈ Architecture.violations schema payload,
          (shownFix violation).IsOptionalText)
        (fun _ => True) stdout stderr := by
  refine Dialect.issues_wellFormed_iff (fun schema payload => ?_) (fun text => ?_) stdout stderr
  · refine .mapM_iff (fun violation => ?_) _
    refine .bind fun severity => .bind_of (Value.toPath_isPath root _) fun file hfile => .bind fun imported => ?_
    exact .ok ⟨fun h => h.fix, fun hfix => ⟨hfile, .inl rfl, .inr ⟨_, rfl⟩, hfix⟩⟩
  · exact .ok (iff_of_true (.map (fun _ => .of_rule rfl rfl (.inr ⟨_, rfl⟩) rfl) _) trivial)

namespace Jscpd

/-- The clones that the blocks of a text are searched for. -/
def searched (text : String) : List Clone :=
  (partsAfter header text.toList).filterMap fun part => searchBlock none ((lines part).drop 1)

/-- The issues about duplicates are well formed exactly if none starts at a line zero. -/
theorem issues_wellFormed_iff (root : Option String) (stdout stderr : String) :
    Gives ((dialect root).issues stdout stderr) fun found =>
      AllWellFormed found ↔ (dialect root).ReadingIs
        (fun _ duplicates => ∀ duplicate ∈ duplicates, 0 < duplicate.firstRange.first)
        (fun text => ∀ duplicates, (searched text).mapM Clone.read = .ok duplicates →
          ∀ duplicate ∈ duplicates, 0 < duplicate.firstRange.first) stdout stderr := by
  have hduplicates : ∀ duplicates : List Duplicate, Gives (duplicates.mapM (issueOf root)) fun found =>
      AllWellFormed found ↔ ∀ duplicate ∈ duplicates, 0 < duplicate.firstRange.first := by
    refine fun duplicates => .mapM_iff (fun duplicate => ?_) duplicates
    refine .bind_of (Value.toPath_isPath root _) fun file hfile => .bind fun second => ?_
    refine .ok ⟨fun h => ?_, fun hfirst => ?_⟩
    · rcases h.line with hnull | ⟨n, hn, hpositive⟩
      · cases hnull
      · cases hn
        exact Int.natCast_pos.mp hpositive
    · exact .of_file hfile (.inr ⟨_, rfl, Int.natCast_pos.mpr hfirst⟩) rfl rfl
  refine Dialect.issues_wellFormed_iff (fun _ duplicates => hduplicates duplicates) (fun text => ?_) stdout stderr
  intro found hfound
  obtain ⟨duplicates, hread, hissues⟩ := bind_eq_ok_iff.mp hfound
  refine (hduplicates duplicates found hissues).trans ⟨fun hall others hothers => ?_, fun hall => hall _ hread⟩
  have hsame : duplicates = others := Except.ok.inj (hread.symm.trans hothers)
  rwa [← hsame]

/-- A clone whose first place starts at a line zero. -/
def zeroBlock : Block where
  clone := { (interrupted 5).clone with
    first := { (interrupted 5).clone.first with first := 0, last := 4 }
    second := { (interrupted 5).clone.second with last := 9 }
    tokens := 9 }
  afterHeader := []
  afterFirst := []
  afterSecond := []

end Jscpd

/-! ## All tools -/

/-- When the issues that are made of two streams are well formed, tool by tool. -/
structure WellFormedIssues (root : Option String) (base stdout stderr : String) : Prop where
  /-- Those of the fast linter are if every rule that its document names is a text. -/
  oxlint : Gives ((Oxlint.dialect root).issues stdout stderr) fun found =>
    AllWellFormed found ↔ (Oxlint.dialect root).ReadingIs
      (fun schema payload => ∀ diagnostic ∈ Oxlint.diagnostics schema payload,
        (Oxlint.reportedRule diagnostic).IsOptionalText)
      (fun _ => True) stdout stderr
  /-- So are those of the linter of modules. -/
  eslint : Gives ((Eslint.dialect root).issues stdout stderr) fun found =>
    AllWellFormed found ↔ (Eslint.dialect root).ReadingIs
      (fun schema payload => ∀ result ∈ Eslint.results schema payload,
        ∀ message ∈ (Entries.get result "messages").mappings, (Entries.get message "ruleId").IsOptionalText)
      (fun _ => True) stdout stderr
  /-- Those about boundaries are if every comment that is shown is a text. -/
  architecture : Gives ((Architecture.dialect root).issues stdout stderr) fun found =>
    AllWellFormed found ↔ (Architecture.dialect root).ReadingIs
      (fun schema payload => ∀ violation ∈ Architecture.violations schema payload,
        (Architecture.shownFix violation).IsOptionalText)
      (fun _ => True) stdout stderr
  /-- Those about duplicates are if none starts at a line zero. -/
  jscpd : Gives ((Jscpd.dialect root).issues stdout stderr) fun found =>
    AllWellFormed found ↔ (Jscpd.dialect root).ReadingIs
      (fun _ duplicates => ∀ duplicate ∈ duplicates, 0 < duplicate.firstRange.first)
      (fun text => ∀ duplicates, (Jscpd.searched text).mapM Jscpd.Clone.read = .ok duplicates →
        ∀ duplicate ∈ duplicates, 0 < duplicate.firstRange.first) stdout stderr
  /-- Those about dead code always are. -/
  knip : Gives ((Knip.dialect root).issues stdout stderr) AllWellFormed
  /-- So are those of the compiler. -/
  typeScript : Gives ((TypeScript.dialect root).issues stdout stderr) AllWellFormed
  /-- So are those about orphans. -/
  orphans : Gives ((Madge.orphans base root).issues stdout stderr) AllWellFormed
  /-- So are those about circles. -/
  circular : Gives (Madge.circular.issues stdout stderr) AllWellFormed
  /-- So are those of a tool that nothing is known of. -/
  blank : Gives (Dialect.blank.issues stdout stderr) AllWellFormed

/-- Whatever stands on the two streams of a tool and wherever the root is, the issues are well formed
exactly if what is taken over as it stands is. -/
theorem wellFormedIssues (root : Option String) (base stdout stderr : String) :
    WellFormedIssues root base stdout stderr where
  oxlint := Oxlint.issues_wellFormed_iff root stdout stderr
  eslint := Eslint.issues_wellFormed_iff root stdout stderr
  architecture := Architecture.issues_wellFormed_iff root stdout stderr
  jscpd := Jscpd.issues_wellFormed_iff root stdout stderr
  knip := Knip.issues_wellFormed root stdout stderr
  typeScript := TypeScript.issues_wellFormed root stdout stderr
  orphans := Madge.orphans_wellFormed base root stdout stderr
  circular := Madge.circular_wellFormed stdout stderr
  blank := Dialect.issues_wellFormed (fun _ _ => .ok .nil) (fun _ => .ok .nil) stdout stderr

/-- The issue of a duplicate that starts at a line zero has that line. -/
theorem issue_at_line_zero :
    let stdout := "Clone found (ts):\n - a.ts [0:1 - 4:1] (5 lines, 9 tokens)\n   b.ts [5:1 - 9:1]\n"
    ∃ issue, (Jscpd.dialect none).issues stdout "" = .ok [issue] ∧ issue.line = .int 0 ∧
      ¬issue.IsWellFormed := by
  intro stdout
  have htext : (stdout ++ "").toList = Jscpd.printed [] [Jscpd.zeroBlock] := by
    decide
  have hcoloured : Jscpd.Coloured (Jscpd.printed [] [Jscpd.zeroBlock]) (stdout ++ "").toList := htext ▸ .refl _
  have hnumbers : ∀ block ∈ [Jscpd.zeroBlock], ∀ n ∈ block.clone.numbers, n < unwritable := by
    have hsmall : ∀ n ∈ Jscpd.zeroBlock.clone.numbers, n < 10 := by decide
    exact List.forall_mem_singleton.mpr fun n hn => lt_unwritable (hsmall n hn)
  refine ⟨Jscpd.zeroBlock.clone.issue, Jscpd.issues_printed hcoloured (List.cons_ne_nil _ _) hnumbers, rfl, ?_⟩
  intro h
  rcases h.line with hnull | ⟨n, hn, hpositive⟩
  · cases hnull
  · cases hn
    exact Int.lt_irrefl 0 hpositive

end Checkup
