import Checkup.Proofs.Durations
import Checkup.Proofs.FileTreeWrites
import Checkup.Proofs.RunIssues
import Checkup.Report.Files

/-!
# Reports that are written

A report over checks that can be shown is rendered unless one of its rules is odd,
for then the action items cannot be told. What is rendered is written into any
folder that takes it, and both files are found there. They are found wherever
writing them succeeded.
-/

namespace Checkup

/-- A report that can be shown: its durations lie within the bound of
floating-point numbers, and the messages of its issues are texts. -/
structure Report.IsPresentable (report : Report) : Prop where
  duration : report.duration.natAbs < Binary64.bound
  durations : ∀ check ∈ report.checks, ∃ n, check.duration = .int n ∧ n.natAbs < Binary64.bound
  messages : AllSpoken (report.checks.flatMap Check.issues)

/-- A report has an issue with an odd rule. -/
def Report.HasOddRule (report : Report) : Prop :=
  ∃ issue ∈ report.checks.flatMap Check.issues, issue.rule.IsOdd

/-- The report of a run can be shown if the clock kept to its bound. -/
theorem Workplace.isPresentable_run {place : Workplace} (h : place.elapsed.natAbs < Binary64.bound)
    (settings : Settings) (flags : RunFlags) (timestamp : String) :
    (place.run settings flags timestamp).report.IsPresentable where
  duration := by
    have hmax : (max 0 place.elapsed).natAbs ≤ place.elapsed.natAbs := by omega
    exact Nat.lt_of_le_of_lt hmax h
  durations check hc := by
    rw [checks_run] at hc
    obtain ⟨kind, -, rfl⟩ := List.mem_map.mp hc
    have hcheck : (place.examine settings flags kind).check.IsPresentable place.elapsed :=
      examine_presentable kind
    obtain ⟨n, hn, hle⟩ := hcheck.duration
    exact ⟨n, hn, Nat.lt_of_le_of_lt hle h⟩
  messages issue hi := by
    rw [checks_run] at hi
    obtain ⟨check, hc, hissue⟩ := List.mem_flatMap.mp hi
    obtain ⟨kind, -, rfl⟩ := List.mem_map.mp hc
    exact (examine_presentable kind).messages issue hissue

namespace ActionItem

/-- No rule offends exactly if none is odd. -/
theorem offendingRule?_eq_none_iff (issues : List Issue) :
    offendingRule? issues = none ↔ ¬∃ issue ∈ issues, issue.rule.IsOdd := by
  unfold offendingRule?
  rw [List.find?_eq_none]
  constructor
  · rintro h ⟨issue, hi, hgiven, htext⟩
    refine h issue.rule (List.mem_map.mpr ⟨issue, hi, rfl⟩) ?_
    rw [hgiven, htext]
    rfl
  · intro h rule hr hodd
    obtain ⟨issue, hi, rfl⟩ := List.mem_map.mp hr
    rw [Bool.and_eq_true, Bool.not_eq_true'] at hodd
    exact h ⟨issue, hi, hodd.1, hodd.2⟩

/-- No message offends if those about circles are texts. -/
theorem offendingMessage?_eq_none {issues : List Issue} (h : ∀ issue ∈ issues,
    ActionGroup.circularDependencies.selects issue = true → issue.message.isText = true) :
    offendingMessage? issues = none := by
  unfold offendingMessage?
  rw [List.find?_eq_none]
  intro message hm
  obtain ⟨issue, hi, rfl⟩ := List.mem_map.mp hm
  obtain ⟨hissue, hcircle⟩ := List.mem_filter.mp (List.mem_of_mem_take hi)
  rw [h issue hissue hcircle]
  decide

/-- The action items of checks without odd rules. -/
theorem ofChecks_eq_ok {checks : List Check} (hm : AllSpoken (checks.flatMap Check.issues))
    (hr : ¬∃ issue ∈ checks.flatMap Check.issues, issue.rule.IsOdd) :
    ofChecks checks = .ok (ofIssues (checks.flatMap Check.issues)) := by
  unfold ofChecks
  dsimp only
  rw [(offendingRule?_eq_none_iff _).mpr hr, offendingMessage?_eq_none fun issue hi _ => hm issue hi]

/-- An odd rule is a fault of the action items. -/
theorem ofChecks_eq_error {checks : List Check}
    (hr : ∃ issue ∈ checks.flatMap Check.issues, issue.rule.IsOdd) :
    ∃ message, ofChecks checks = .error (.notText message) := by
  unfold ofChecks
  dsimp only
  cases ho : offendingRule? (checks.flatMap Check.issues) with
  | none => exact absurd hr ((offendingRule?_eq_none_iff _).mp ho)
  | some rule => exact ⟨_, rfl⟩

end ActionItem

namespace Report

variable {report : Report}

/-- The lines above the check sections are those of any report that can be shown. -/
theorem IsPresentable.exists_headLines (h : report.IsPresentable) :
    ∃ lines, Markdown.headLines report = .ok lines := by
  obtain ⟨duration, hduration⟩ := exists_showMilliseconds h.duration
  have hrow : ∀ check ∈ report.checks, ∃ row, Markdown.summaryRow check = .ok row := by
    intro check hc
    obtain ⟨n, hn, hbound⟩ := h.durations check hc
    obtain ⟨shown, hshown⟩ := exists_showMilliseconds hbound
    have hcheck : showDuration check.duration = .ok shown := by
      rw [hn]
      exact hshown
    unfold Markdown.summaryRow
    rw [hcheck]
    exact ⟨_, rfl⟩
  obtain ⟨rows, hrows⟩ := exists_mapM_eq_ok hrow
  unfold Markdown.headLines
  rw [hduration, hrows]
  exact ⟨_, rfl⟩

/-- A report that can be shown is rendered if none of its rules is odd. -/
theorem IsPresentable.exists_render (h : report.IsPresentable) (hr : ¬report.HasOddRule)
    (jsonPath : String) : ∃ text, Markdown.render report jsonPath = .ok text := by
  obtain ⟨lines, hlines⟩ := h.exists_headLines
  unfold Markdown.render Markdown.reportLines
  rw [hlines, ActionItem.ofChecks_eq_ok h.messages hr]
  exact ⟨_, rfl⟩

/-- A report with an odd rule is not rendered. -/
theorem IsPresentable.render_eq_error (h : report.IsPresentable) (hr : report.HasOddRule)
    (jsonPath : String) : ∃ message, Markdown.render report jsonPath = .error (.notText message) := by
  obtain ⟨lines, hlines⟩ := h.exists_headLines
  obtain ⟨message, hmessage⟩ := ActionItem.ofChecks_eq_error hr
  unfold Markdown.render Markdown.reportLines
  rw [hlines, hmessage]
  exact ⟨message, rfl⟩

/-- A tree has a folder, or can have one made, in which no folder stands where a
report is to be written. -/
def Takes (tree : FileTree) (folder : Path) : Prop :=
  ∃ made, tree.ensureFolders folder = (made, .ok ()) ∧ made.hasFolder folder = true ∧
    made.hasFolder (ReportPaths.within folder).markdown = false ∧
      made.hasFolder (ReportPaths.within folder).json = false

/-- A folder that can be made in an open one takes the files of a report. -/
theorem takes_of_opens {tree : FileTree} {path : Path} {place : List String}
    {entries : List (String × Node)} (h : tree.Opens path place entries) {name : String}
    (hd : name ≠ "..") (hn : entries.lookup name = none)
    (hnull : (path.child name).holdsNull = false) : Takes tree (path.child name) := by
  obtain ⟨made, hmade, hopens⟩ := h.ensureFolders_child hd hn hnull
  have hfree : ∀ file, file ≠ ".." → made.hasFolder ((path.child name).child file) = false := by
    intro file hf
    unfold FileTree.hasFolder
    rw [hopens.find_missing hf rfl]
  exact ⟨made, hmade, hopens.hasFolder, hfree _ (by decide), hfree _ (by decide)⟩

/-- Both files of a report stand in a folder. -/
structure StandsIn (report : Report) (tree : FileTree) (folder : Path) : Prop where
  markdown : ∃ text,
    Markdown.render report (ReportPaths.within folder).json.toString = .ok text ∧
      tree.readBytes (ReportPaths.within folder).markdown = .ok (Text.encode text)
  json : tree.readBytes (ReportPaths.within folder).json = .ok (Text.encode (Archive.ofReport report).write)

/-- A rendered report is written into a folder that takes it, and both files stand there. -/
theorem writeFiles_of_render {tree : FileTree} {folder : Path} {markdown : String}
    (ht : Takes tree folder)
    (hr : Markdown.render report (ReportPaths.within folder).json.toString = .ok markdown) :
    ∃ written, report.writeFiles tree folder = (written, .ok (ReportPaths.within folder)) ∧
      report.StandsIn written folder := by
  obtain ⟨made, hmade, hfolder, hm, hj⟩ := ht
  obtain ⟨place, entries, hopens⟩ := FileTree.exists_opens hfolder
  have hmd : "code-health-report.md" ≠ ".." := by decide
  have hjson : "code-health-report.json" ≠ ".." := by decide
  have hdiffer : "code-health-report.md" ≠ "code-health-report.json" := by decide
  obtain ⟨first, hfirst, hopens'⟩ :=
    hopens.writeBytes_child hmd (hopens.not_folder hmd hm) (Text.encode markdown)
  have hfree : ∀ held, (Node.insert "code-health-report.md" (.file (Text.encode markdown)) entries).lookup
      "code-health-report.json" ≠ some (.folder held) := by
    rw [Node.lookup_insert_of_ne hdiffer.symm]
    exact hopens.not_folder hjson hj
  obtain ⟨second, hsecond, hopens''⟩ :=
    hopens'.writeBytes_child hjson hfree (Text.encode (Archive.ofReport report).write)
  refine ⟨second, ?_, ⟨markdown, hr, ?_⟩, ?_⟩
  · unfold writeFiles
    rw [hmade]
    dsimp only
    rw [hr]
    dsimp only
    have hwrite : made.writeText (ReportPaths.within folder).markdown markdown = .ok first := hfirst
    rw [hwrite]
    dsimp only
    have hwrite' : first.writeText (ReportPaths.within folder).json (Archive.ofReport report).write =
        .ok second := hsecond
    rw [hwrite']
  · refine hopens''.readBytes_child hmd ?_
    rw [Node.lookup_insert_of_ne hdiffer, Node.lookup_insert_self]
  · exact hopens''.readBytes_child hjson (Node.lookup_insert_self _ _ _)

/-- A report that was written stands in its folder, whatever stood there before. -/
theorem standsIn_of_writeFiles {tree written : FileTree} {folder : Path} {paths : ReportPaths}
    (hw : report.writeFiles tree folder = (written, .ok paths)) :
    paths = .within folder ∧ report.StandsIn written folder := by
  unfold writeFiles at hw
  cases hmade : tree.ensureFolders folder with
  | mk made outcome =>
  cases outcome with
  | error fault =>
    rw [hmade] at hw
    cases hw
  | ok done =>
  rw [hmade] at hw
  dsimp only at hw
  cases hr : Markdown.render report (ReportPaths.within folder).json.toString with
  | error fault =>
    rw [hr] at hw
    cases hw
  | ok markdown =>
  rw [hr] at hw
  dsimp only at hw
  cases hfirst : made.writeText (ReportPaths.within folder).markdown markdown with
  | error fault =>
    rw [hfirst] at hw
    cases hw
  | ok first =>
  rw [hfirst] at hw
  dsimp only at hw
  cases hsecond : first.writeText (ReportPaths.within folder).json (Archive.ofReport report).write with
  | error fault =>
    rw [hsecond] at hw
    cases hw
  | ok second =>
  rw [hsecond] at hw
  cases hw
  have hmd : "code-health-report.md" ≠ ".." := by decide
  have hjson : "code-health-report.json" ≠ ".." := by decide
  have hdiffer : "code-health-report.md" ≠ "code-health-report.json" := by decide
  obtain ⟨place, entries, hopens⟩ :=
    FileTree.exists_opens_of_writeBytes (fun hn => FileTree.hasFolder_of_ensureFolders hn hmade) hfirst
  have hopens' := (hopens.of_writeBytes hmd hfirst).2
  have hopens'' := (hopens'.of_writeBytes hjson hsecond).2
  refine ⟨rfl, ⟨markdown, hr, ?_⟩, ?_⟩
  · refine hopens''.readBytes_child hmd ?_
    rw [Node.lookup_insert_of_ne hdiffer, Node.lookup_insert_self]
  · exact hopens''.readBytes_child hjson (Node.lookup_insert_self _ _ _)

/-- A report that is not rendered leaves the tree as the folder was made. -/
theorem writeFiles_of_render_error {tree made : FileTree} {folder : Path} {fault : Fault}
    (hmade : tree.ensureFolders folder = (made, .ok ()))
    (hr : Markdown.render report (ReportPaths.within folder).json.toString = .error fault) :
    report.writeFiles tree folder = (made, .error fault) := by
  unfold writeFiles
  rw [hmade]
  dsimp only
  rw [hr]

/-- Making a folder succeeds, or is refused, or is not tried because no file system
admits its path. -/
theorem ensureFolders_cases (tree : FileTree) (folder : Path) :
    (folder.holdsNull = true ∧ tree.ensureFolders folder = (tree, .error .nullCharacter)) ∨
      (folder.holdsNull = false ∧ ∃ made,
        tree.ensureFolders folder = (made, .ok ()) ∨
          ∃ refusal, tree.ensureFolders folder = (made, .error (.file refusal))) := by
  unfold FileTree.ensureFolders FileTree.accept
  by_cases hn : folder.holdsNull = true
  · rw [if_pos hn]
    exact .inl ⟨hn, rfl⟩
  · rw [if_neg hn]
    refine .inr ⟨Bool.eq_false_iff.mpr hn, ?_⟩
    dsimp only
    cases hm : tree.makeFolders folder with
    | mk made outcome =>
      cases outcome with
      | ok done => exact ⟨made, .inl rfl⟩
      | error refusal => exact ⟨made, .inr ⟨refusal, rfl⟩⟩

/-- A rendered report is written into a folder that was made, or the file system
refuses to. -/
theorem writeFiles_of_made {tree made : FileTree} {folder : Path} {markdown : String}
    (hmade : tree.ensureFolders folder = (made, .ok ()))
    (hr : Markdown.render report (ReportPaths.within folder).json.toString = .ok markdown) :
    (∃ paths, (report.writeFiles tree folder).2 = .ok paths) ∨
      ∃ refusal, (report.writeFiles tree folder).2 = .error (.file refusal) := by
  unfold writeFiles
  rw [hmade]
  dsimp only
  rw [hr]
  dsimp only
  cases made.writeText (ReportPaths.within folder).markdown markdown with
  | error refusal => exact .inr ⟨refusal, rfl⟩
  | ok first =>
    dsimp only
    cases first.writeText (ReportPaths.within folder).json (Archive.ofReport report).write with
    | error refusal => exact .inr ⟨refusal, rfl⟩
    | ok second => exact .inl ⟨_, rfl⟩

/-- A fault of writing that is no refusal of the file system. -/
def IsUnanswered (outcome : Outcome ReportPaths) : Prop :=
  ∃ fault, outcome = .error fault ∧ ∀ refusal, fault ≠ .file refusal

/-- What is written has no fault. -/
theorem not_isUnanswered_ok (paths : ReportPaths) : ¬IsUnanswered (.ok paths) := by
  rintro ⟨fault, hfault, -⟩
  cases hfault

/-- A refusal of the file system is answered for. -/
theorem not_isUnanswered_file (refusal : FileFault) : ¬IsUnanswered (.error (.file refusal)) := by
  rintro ⟨fault, hfault, hnot⟩
  cases hfault
  exact hnot refusal rfl

/-- In a folder that was made only an odd rule is not answered for. -/
theorem IsPresentable.isUnanswered_iff_of_made (h : report.IsPresentable) {tree made : FileTree}
    {folder : Path} (hmade : tree.ensureFolders folder = (made, .ok ())) :
    IsUnanswered (report.writeFiles tree folder).2 ↔ report.HasOddRule := by
  by_cases ho : report.HasOddRule
  · obtain ⟨message, hr⟩ := h.render_eq_error ho (ReportPaths.within folder).json.toString
    rw [writeFiles_of_render_error hmade hr]
    exact ⟨fun _ => ho, fun _ => ⟨_, rfl, fun refusal hf => by cases hf⟩⟩
  · obtain ⟨markdown, hr⟩ := h.exists_render ho (ReportPaths.within folder).json.toString
    have hnot : ¬IsUnanswered (report.writeFiles tree folder).2 := by
      rcases writeFiles_of_made hmade hr with ⟨paths, hok⟩ | ⟨refusal, hrefused⟩
      · rw [hok]
        exact not_isUnanswered_ok paths
      · rw [hrefused]
        exact not_isUnanswered_file refusal
    exact ⟨fun hu => absurd hu hnot, fun hodd => absurd hodd ho⟩

/-- Writing a report that can be shown fails by more than a refusal of the file
system exactly if no file system admits the path, or the folder is made and a rule
is odd. -/
theorem IsPresentable.isUnanswered_iff (h : report.IsPresentable) (tree : FileTree) (folder : Path) :
    IsUnanswered (report.writeFiles tree folder).2 ↔
      folder.holdsNull = true ∨
        ((∃ made, tree.ensureFolders folder = (made, .ok ())) ∧ report.HasOddRule) := by
  rcases ensureFolders_cases tree folder with ⟨hn, he⟩ | ⟨hn, made, he | ⟨refusal, he⟩⟩
  · have hw : report.writeFiles tree folder = (tree, .error .nullCharacter) := by
      unfold writeFiles
      rw [he]
    rw [hw]
    exact ⟨fun _ => .inl hn, fun _ => ⟨_, rfl, fun refusal hf => by cases hf⟩⟩
  · rw [h.isUnanswered_iff_of_made he, hn]
    constructor
    · exact fun hodd => .inr ⟨⟨made, he⟩, hodd⟩
    · rintro (hnull | ⟨-, hodd⟩)
      · cases hnull
      · exact hodd
  · have hw : report.writeFiles tree folder = (made, .error (.file refusal)) := by
      unfold writeFiles
      rw [he]
    rw [hw, hn]
    constructor
    · exact fun hu => absurd hu (not_isUnanswered_file refusal)
    · rintro (hnull | ⟨⟨other, hother⟩, -⟩)
      · cases hnull
      · rw [he] at hother
        cases hother

end Report

end Checkup
