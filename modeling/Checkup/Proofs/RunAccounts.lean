import Checkup.CommandLine
import Checkup.Proofs.ReportAccounts
import Checkup.Proofs.ReportFiles

/-!
# How runs end and what they account for

A run with settings writes its report and ends with the exit code of the report,
whatever its tools answer, with one exception. A linter may name a rule that is
given and no text; then the action items cannot be told, nothing is written, and
the fault is not answered for. Apart from that only the file system keeps a report
from being written, which has an exit code of its own.

A run that shows its summary has told the same four times: as lines and totals in
the archive, as totals in the markdown, as totals on the console, and by its exit
code. All of them follow from the issues of its checks, and so does the grade.

Texts are made of whole characters: half of a surrogate pair in a document is
replaced when the document is read, so no text here is without an encoding.
-/

namespace Checkup

/-! ## Endings -/

/-- A report has one of two exit codes. -/
theorem Report.exitCode_eq_zero_or_one (report : Report) : report.exitCode = 0 ∨ report.exitCode = 1 := by
  unfold exitCode
  split
  · exact .inr rfl
  · exact .inl rfl

namespace Command

variable {around : Surroundings} {settings : Settings} {flags : RunFlags} {run : Run} {log : List String}
  {folder : Path} {tree : FileTree}

/-- A written report gives its exit code. -/
theorem finish_of_written {paths : ReportPaths}
    (hw : run.report.writeFiles around.tree folder = (tree, .ok paths))
    (hp : run.report.IsPresentable) :
    (finish around settings run log folder).fault = none ∧
      (finish around settings run log folder).exitCode = run.report.exitCode ∧
        (finish around settings run log folder).tree = tree := by
  obtain ⟨shown, hshown⟩ := exists_showMilliseconds hp.duration
  unfold finish
  rw [hw, hshown]
  exact ⟨rfl, rfl, rfl⟩

/-- A refusal of the file system gives an exit code of its own. -/
theorem finish_of_refused {refusal : FileFault}
    (hw : (run.report.writeFiles around.tree folder).2 = .error (.file refusal)) :
    (finish around settings run log folder).fault = none ∧
      (finish around settings run log folder).exitCode = 2 := by
  unfold finish
  dsimp only
  rw [hw]
  exact ⟨rfl, rfl⟩

/-- Any other fault is not answered for. -/
theorem finish_of_fault {fault : Fault}
    (hw : run.report.writeFiles around.tree folder = (tree, .error fault))
    (hf : ∀ refusal, fault ≠ .file refusal) :
    (finish around settings run log folder).fault = some fault ∧
      (finish around settings run log folder).tree = tree := by
  unfold finish
  rw [hw]
  cases fault with
  | file refusal => exact absurd rfl (hf refusal)
  | _ => exact ⟨rfl, rfl⟩

/-- A run has a fault exactly if writing its report has one that is no refusal. -/
theorem finish_fault_iff (hp : run.report.IsPresentable) :
    (finish around settings run log folder).fault ≠ none ↔
      Report.IsUnanswered (run.report.writeFiles around.tree folder).2 := by
  cases hw : run.report.writeFiles around.tree folder with
  | mk tree outcome =>
    cases outcome with
    | ok paths =>
      rw [(finish_of_written hw hp).1]
      exact ⟨fun h => absurd rfl h, fun h => absurd h (Report.not_isUnanswered_ok paths)⟩
    | error fault =>
      by_cases hr : ∃ refusal, fault = .file refusal
      · obtain ⟨refusal, rfl⟩ := hr
        rw [(finish_of_refused (congrArg Prod.snd hw)).1]
        exact ⟨fun h => absurd rfl h, fun h => absurd h (Report.not_isUnanswered_file refusal)⟩
      · have hnot : ∀ refusal, fault ≠ .file refusal := fun refusal he => hr ⟨refusal, he⟩
        rw [(finish_of_fault hw hnot).1]
        exact ⟨fun _ => ⟨fault, rfl, hnot⟩, fun _ h => by cases h⟩

/-- A report without odd rules is written into a folder that takes it. -/
theorem finish_of_not_odd (hp : run.report.IsPresentable) (ht : Report.Takes around.tree folder)
    (ho : ¬run.report.HasOddRule) :
    (finish around settings run log folder).fault = none ∧
      (finish around settings run log folder).exitCode = run.report.exitCode ∧
        run.report.StandsIn (finish around settings run log folder).tree folder := by
  obtain ⟨markdown, hmarkdown⟩ := hp.exists_render ho (ReportPaths.within folder).json.toString
  obtain ⟨written, hw, hstands⟩ := Report.writeFiles_of_render ht hmarkdown
  have htree : (finish around settings run log folder).tree = written := (finish_of_written hw hp).2.2
  rw [htree]
  exact ⟨(finish_of_written hw hp).1, (finish_of_written hw hp).2.1, hstands⟩

/-- A report with an odd rule ends the run, and the folder stays as it was made. -/
theorem finish_of_odd (hp : run.report.IsPresentable) (ht : Report.Takes around.tree folder)
    (ho : run.report.HasOddRule) :
    (finish around settings run log folder).fault.map Fault.kind = some "AttributeError" ∧
      (finish around settings run log folder).tree = (around.tree.ensureFolders folder).1 := by
  obtain ⟨made, hmade, -⟩ := ht
  obtain ⟨message, hmessage⟩ := hp.render_eq_error ho (ReportPaths.within folder).json.toString
  have hw := Report.writeFiles_of_render_error hmade hmessage
  have hnot : ∀ refusal, Fault.notText message ≠ .file refusal := fun refusal he => by cases he
  rw [(finish_of_fault hw hnot).1, (finish_of_fault hw hnot).2, hmade]
  exact ⟨rfl, rfl⟩

/-- Without a fault a run has the exit code of its report, or the file system refused. -/
theorem exitCode_finish (hp : run.report.IsPresentable)
    (hf : (finish around settings run log folder).fault = none) :
    (finish around settings run log folder).exitCode = run.report.exitCode ∨
      ((finish around settings run log folder).exitCode = 2 ∧
        ∃ refusal, (run.report.writeFiles around.tree folder).2 = .error (.file refusal)) := by
  cases hw : run.report.writeFiles around.tree folder with
  | mk tree outcome =>
    cases outcome with
    | ok paths => exact .inl (finish_of_written hw hp).2.1
    | error fault =>
      by_cases hr : ∃ refusal, fault = .file refusal
      · obtain ⟨refusal, rfl⟩ := hr
        exact .inr ⟨(finish_of_refused (congrArg Prod.snd hw)).2, refusal, rfl⟩
      · rw [(finish_of_fault hw fun refusal he => hr ⟨refusal, he⟩).1] at hf
        cases hf

/-- What a run finds around it once its settings are known. -/
def placeOf (around : Surroundings) (settings : Settings) : Workplace where
  tree := around.tree
  tools := around.tools settings.launch
  elapsed := around.elapsed

/-- How a run ends that writes to a folder. -/
structure EndsAsReported (around : Surroundings) (settings : Settings) (flags : RunFlags) (folder : Path)
    (ending : Ending) : Prop where
  /-- A report has one of two exit codes. -/
  exitCode : let report := ((placeOf around settings).run settings flags around.timestamp).report
    report.exitCode = 0 ∨ report.exitCode = 1
  /-- In a folder that takes them both files are written, and the run ends with the exit
  code of its report, exactly unless a linter names an odd rule. -/
  written : Report.Takes around.tree folder →
    let report := ((placeOf around settings).run settings flags around.timestamp).report
    (ending.fault = none ∧ ending.exitCode = report.exitCode ∧ report.StandsIn ending.tree folder ↔
      ¬(placeOf around settings).HearsOddRule settings flags)
  /-- If a linter names an odd rule, nothing is written into the folder. -/
  unwritten : Report.Takes around.tree folder → (placeOf around settings).HearsOddRule settings flags →
    ending.fault.map Fault.kind = some "AttributeError" ∧
      ending.tree = (around.tree.ensureFolders folder).1
  /-- A fault is only an odd rule after the folder was made, or a path that no file
  system admits. -/
  fault : ending.fault ≠ none ↔ folder.holdsNull = true ∨
    ((∃ made, around.tree.ensureFolders folder = (made, .ok ())) ∧
      (placeOf around settings).HearsOddRule settings flags)
  /-- Without a fault it is only a refusal of the file system that gives a run another
  exit code than that of its report. -/
  refused : ending.fault = none →
    let report := ((placeOf around settings).run settings flags around.timestamp).report
    ending.exitCode = report.exitCode ∨
      (ending.exitCode = 2 ∧ ∃ refusal, (report.writeFiles around.tree folder).2 = .error (.file refusal))

/-- A run that finishes ends as its report and the file system have it. -/
theorem finish_ends (ht : around.elapsed.natAbs < Binary64.bound) (flags : RunFlags) (log : List String)
    (folder : Path) :
    EndsAsReported around settings flags folder
      (finish around settings ((placeOf around settings).run settings flags around.timestamp) log folder) := by
  have hp : ((placeOf around settings).run settings flags around.timestamp).report.IsPresentable :=
    Workplace.isPresentable_run ht settings flags around.timestamp
  have hodd : ((placeOf around settings).run settings flags around.timestamp).report.HasOddRule ↔
      (placeOf around settings).HearsOddRule settings flags :=
    Workplace.exists_isOdd_run_iff around.timestamp
  refine ⟨Report.exitCode_eq_zero_or_one _, fun htakes => ?_, fun htakes ho => ?_, ?_, exitCode_finish hp⟩
  · constructor
    · rintro ⟨hfault, -⟩ ho
      have hkind : (finish around settings _ log folder).fault.map Fault.kind = some "AttributeError" :=
        (finish_of_odd hp htakes (hodd.mpr ho)).1
      rw [hfault] at hkind
      cases hkind
    · exact fun ho => finish_of_not_odd hp htakes fun h => ho (hodd.mp h)
  · exact finish_of_odd hp htakes (hodd.mpr ho)
  · rw [finish_fault_iff hp, hp.isUnanswered_iff, hodd]

/-- In a folder that has to be made nothing stands after a linter named an odd rule. -/
theorem EndsAsReported.opens_empty {path : Path} {place : List String} {entries : List (String × Node)}
    {name : String} {ending : Ending} (h : EndsAsReported around settings flags (path.child name) ending)
    (ho : (placeOf around settings).HearsOddRule settings flags)
    (hopens : around.tree.Opens path place entries) (hd : name ≠ "..") (hn : entries.lookup name = none)
    (hnull : (path.child name).holdsNull = false) :
    ending.tree.Opens (path.child name) (place ++ [name]) [] := by
  obtain ⟨made, hmade, hempty⟩ := hopens.ensureFolders_child hd hn hnull
  have htree := (h.unwritten (Report.takes_of_opens hopens hd hn hnull) ho).2
  rw [hmade] at htree
  rw [htree]
  exact hempty

/-- A run with its settings found is a run that finishes. -/
theorem executeRun_eq_finish {config : Option String}
    (hs : Settings.load around.tree (settingsFile around.tree config) around.environment = .ok settings)
    (verbose : Bool) (flags : RunFlags) (asked : Option String) :
    ∃ log, executeRun around config verbose flags asked =
      finish around settings ((placeOf around settings).run settings flags around.timestamp) log
        (reportFolder settings asked) := by
  unfold executeRun
  dsimp only
  rw [hs]
  exact ⟨_, rfl⟩

/-- An empty folder opens. -/
theorem opens_nothing : (FileTree.mk (.folder []) []).Opens ⟨"", []⟩ [] [] :=
  ⟨rfl, by rw [Node.at?]⟩

/-- In an empty folder there are no settings but the standard ones. -/
theorem load_nothing :
    Settings.load ⟨.folder [], []⟩ (settingsFile ⟨.folder [], []⟩ none) {} = .ok {} := by
  have hfile : settingsFile ⟨.folder [], []⟩ none = none := by
    have hholds : (FileTree.mk (.folder []) []).holds (.ofString Settings.defaultFile) = false :=
      opens_nothing.holds_eq_false (by decide) rfl
    unfold settingsFile
    dsimp only
    rw [hholds]
    rfl
  rw [hfile]
  rfl

/-- Every file system admits the usual folder of the reports. -/
theorem holdsNull_reportFolder : (reportFolder {} none).holdsNull = false := by
  have hfolder : reportFolder {} none = ⟨"", ["logs"]⟩ := by decide
  rw [hfolder]
  simp [Path.holdsNull]

/-- An empty folder takes a report in the usual folder. -/
theorem takes_nothing : Report.Takes ⟨.folder [], []⟩ (reportFolder {} none) := by
  have hfolder : reportFolder {} none = Path.child ⟨"", []⟩ "logs" := by decide
  have hnull : (Path.child ⟨"", []⟩ "logs").holdsNull = false := by
    rw [← hfolder]
    exact holdsNull_reportFolder
  rw [hfolder]
  exact Report.takes_of_opens opens_nothing (by decide) rfl hnull

end Command

open Text (IsOneLine Lacks labelled? labelled?_append labelled?_cons labelled?_cons_of_lacks)

/-! ## Timestamps -/

namespace Moment

/-- A padded number is on one line. -/
theorem isOneLine_padNumber (width n : Nat) : IsOneLine (padNumber width n) := by
  unfold IsOneLine padNumber
  rw [String.toList_ofList]
  intro hm
  rcases List.mem_append.mp hm with hzero | hdigit
  · exact absurd (List.eq_of_mem_replicate hzero) (by decide)
  · exact Text.not_mem_toDigits (by decide) n hdigit

/-- A day is on one line. -/
theorem isOneLine_showDay (day : Day) : IsOneLine (showDay day) :=
  ((((isOneLine_padNumber _ _).append (by decide)).append (isOneLine_padNumber _ _)).append (by decide)).append
    (isOneLine_padNumber _ _)

/-- An offset is on one line. -/
theorem isOneLine_showOffset (offset : Int) : IsOneLine (showOffset offset) := by
  unfold showOffset
  dsimp only
  refine (((IsOneLine.append ?_ (isOneLine_padNumber _ _)).append (by decide)).append
    (isOneLine_padNumber _ _)).append ?_
  · split <;> decide
  · split
    · decide
    · exact IsOneLine.append (by decide) (isOneLine_padNumber _ _)

/-- Every timestamp is on one line. -/
theorem isOneLine_stamp (moment : Moment) : IsOneLine moment.stamp := by
  cases moment with
  | date day => exact isOneLine_showDay day
  | time day clock =>
    refine ((((((((isOneLine_showDay day).append (by decide)).append (isOneLine_padNumber _ _)).append
      (by decide)).append (isOneLine_padNumber _ _)).append (by decide)).append
        (isOneLine_padNumber _ _)).append ?_).append ?_
    · split
      · decide
      · exact IsOneLine.append (by decide) (isOneLine_padNumber _ _)
    · cases clock.offset with
      | none => decide
      | some offset => exact isOneLine_showOffset offset

end Moment

/-! ## The console -/

/-- The first stream tells the totals and the grade on labelled lines. -/
structure Ending.Accounts (ending : Ending) (totals : Totals) (grade : Grade) : Prop where
  grade : labelled? "Grade: " (Text.sourceLines ending.stdoutText.toList) = some grade.name.toList
  totals : labelled? "Total: " (Text.sourceLines ending.stdoutText.toList) =
    some (toString totals.errors ++ " errors, " ++ toString totals.warnings ++ " warnings, " ++
      toString totals.infos ++ " info").toList

namespace Command

/-- The title of the summary. -/
def summaryTitle : String := "📊 CODE HEALTH SUMMARY"

/-- Spaces up to a width keep a text on its line. -/
theorem isOneLine_padded (width : Nat) {text : String} (h : IsOneLine text) : IsOneLine (padded width text) := by
  refine h.append ?_
  unfold IsOneLine
  rw [String.toList_ofList]
  exact fun hm => absurd (List.eq_of_mem_replicate hm) (by decide)

/-- The line of a check is one line. -/
theorem isOneLine_checkLine {check : Check} (h : check.FitsLine) : IsOneLine (checkLine check) :=
  ((((Markdown.isOneLine_status check.status).1.append (by decide)).append (isOneLine_padded 30 h.name)).append
    (by decide)).append h.summary

/-- The labels of the summary that lead to the grade and to the totals. -/
def IsSummaryLabel (label : String) : Prop := label = "Grade: " ∨ label = "Total: "

/-- The line of a check starts with the sign of its status, and so with no label. -/
theorem lacks_checkLine {label : String} (h : IsSummaryLabel label) (check : Check) :
    Lacks label (checkLine check).toList := by
  have hglyph : check.status.glyph.toList <+: (checkLine check).toList := by
    unfold checkLine
    simp only [String.append_assoc]
    rw [String.toList_append]
    exact List.prefix_append _ _
  refine .of_isPrefix ?_ ?_ hglyph <;> rcases h with rfl | rfl <;> cases check.status <;> decide

/-- The totals stand on one line. -/
theorem isOneLine_totalsLine (totals : Totals) : IsOneLine (totalsLine totals) := by
  have hlabel : IsOneLine "Total: " := by decide
  exact ((hlabel.counted _ (by decide)).counted _ (by decide)).counted _ (by decide)

/-- The lines of a summary before its grade, of which none looks like a grade or like
totals. -/
def summaryHead (report : Report) : List String :=
  ["", rule '=', summaryTitle, rule '=', ""] ++ report.checks.map checkLine ++ ["", rule '-']

/-- The lines of a summary before its grade are one line each. -/
theorem isOneLine_summaryHead {report : Report} (hf : ∀ check ∈ report.checks, check.FitsLine) :
    ∀ line ∈ summaryHead report, IsOneLine line := by
  simp only [summaryHead, List.forall_mem_append, List.forall_mem_cons, List.forall_mem_map,
    List.not_mem_nil, false_implies, implies_true, and_true]
  exact ⟨⟨⟨by decide, by decide, by decide, by decide, by decide⟩,
    fun check hc => isOneLine_checkLine (hf check hc)⟩, by decide, by decide⟩

/-- The lines of a summary before its grade have neither label. -/
theorem lacks_summaryHead {label : String} (h : IsSummaryLabel label) (report : Report) :
    ∀ line ∈ (summaryHead report).map String.toList, Lacks label line := by
  simp only [summaryHead, List.map_append, List.map_cons, List.map_nil, List.map_map, List.forall_mem_append,
    List.forall_mem_cons, List.forall_mem_map, List.not_mem_nil, false_implies, implies_true, and_true]
  have hfixed : ∀ line ∈ ["", rule '=', summaryTitle, rule '-'], Lacks label line.toList := by
    rcases h with rfl | rfl <;> decide
  simp only [List.forall_mem_cons, List.not_mem_nil, false_implies, implies_true, and_true] at hfixed
  obtain ⟨hempty, hdouble, htitle, hsingle⟩ := hfixed
  exact ⟨⟨⟨hempty, hdouble, htitle, hdouble, hempty⟩, fun check _ => lacks_checkLine h check⟩, hempty, hsingle⟩

/-- The summary of a report tells its totals and its grade, whatever its checks found. -/
theorem accounts_of_summary {ending : Ending} {report : Report} {duration : String} {paths : ReportPaths}
    (hf : ∀ check ∈ report.checks, check.FitsLine) (h : ending.stdout = summary report duration paths) :
    ending.Accounts report.totals report.grade := by
  obtain ⟨rest, hrest⟩ : ∃ rest, summary report duration paths =
      (summaryHead report ++ ["Grade: " ++ report.grade.name, totalsLine report.totals]) ++ rest := by
    refine ⟨["Duration: " ++ duration, rule '-', "", "📄 Full report: " ++ paths.markdown.toString,
      "📋 JSON data:   " ++ paths.json.toString], ?_⟩
    simp only [summary, summaryHead, summaryTitle, List.append_assoc, List.cons_append, List.nil_append]
  have hone : ∀ line ∈ summaryHead report ++ ["Grade: " ++ report.grade.name, totalsLine report.totals],
      IsOneLine line := by
    simp only [List.forall_mem_append, List.forall_mem_cons, List.not_mem_nil, false_implies, implies_true,
      and_true]
    exact ⟨isOneLine_summaryHead hf, IsOneLine.append (by decide) (Markdown.isOneLine_grade report.grade),
      isOneLine_totalsLine report.totals⟩
  have hlines : Text.sourceLines ending.stdoutText.toList = (summaryHead report).map String.toList ++
      ("Grade: " ++ report.grade.name).toList :: (totalsLine report.totals).toList ::
        Text.sourceLines (Ending.linesText rest).toList := by
    unfold Ending.stdoutText Ending.linesText
    rw [h, hrest, Text.sourceLines_join hone, List.map_append, List.append_assoc]
    rfl
  constructor
  · rw [hlines, labelled?_append (lacks_summaryHead (.inl rfl) report), labelled?_cons]
  · rw [hlines, labelled?_append (lacks_summaryHead (.inr rfl) report),
      labelled?_cons_of_lacks (.of_differ (by decide) (by decide) _)]
    have hlabel : totalsLine report.totals = "Total: " ++ (toString report.totals.errors ++ " errors, " ++
        toString report.totals.warnings ++ " warnings, " ++ toString report.totals.infos ++ " info") := by
      simp only [totalsLine, String.append_assoc]
    rw [hlabel, labelled?_cons]

/-! ## Runs -/

variable {around : Surroundings} {settings : Settings} {run : Run} {log : List String} {folder : Path}

/-- A run says something on the first stream only after its report was written, and then
it says the summary. -/
theorem stdout_finish_of_mem {line : String} (h : line ∈ (finish around settings run log folder).stdout) :
    ∃ tree duration, run.report.writeFiles around.tree folder = (tree, .ok (.within folder)) ∧
      (finish around settings run log folder).tree = tree ∧
        (finish around settings run log folder).exitCode = run.report.exitCode ∧
          (finish around settings run log folder).stdout =
            summary run.report duration (.within folder) := by
  cases hw : run.report.writeFiles around.tree folder with
  | mk tree outcome =>
    unfold finish at h ⊢
    rw [hw] at h ⊢
    cases outcome with
    | error fault => cases fault <;> cases h
    | ok paths =>
      obtain ⟨rfl, -⟩ := Report.standsIn_of_writeFiles hw
      cases hd : showMilliseconds run.report.duration with
      | error fault =>
        rw [hd] at h
        cases fault <;> cases h
      | ok duration => exact ⟨tree, duration, rfl, rfl, rfl, rfl⟩

/-- A run reaches its summary in a folder that takes its report, unless a rule is odd. -/
theorem summaryTitle_mem_stdout (hp : run.report.IsPresentable) (ht : Report.Takes around.tree folder)
    (ho : ¬run.report.HasOddRule) : summaryTitle ∈ (finish around settings run log folder).stdout := by
  obtain ⟨markdown, hmarkdown⟩ := hp.exists_render ho (ReportPaths.within folder).json.toString
  obtain ⟨written, hw, -⟩ := Report.writeFiles_of_render ht hmarkdown
  obtain ⟨duration, hduration⟩ := exists_showMilliseconds hp.duration
  unfold finish
  rw [hw, hduration]
  change summaryTitle ∈ summary run.report duration (.within folder)
  simp [summary, summaryTitle]

/-- A run with a line on the first stream found its settings. -/
theorem exists_settings_of_mem_stdout {config asked : Option String} {verbose : Bool} {flags : RunFlags}
    {line : String} (h : line ∈ (executeRun around config verbose flags asked).stdout) :
    ∃ settings, Settings.load around.tree (settingsFile around.tree config) around.environment = .ok settings := by
  unfold executeRun at h
  dsimp only at h
  cases hs : Settings.load around.tree (settingsFile around.tree config) around.environment with
  | ok settings => exact ⟨settings, rfl⟩
  | error fault =>
    rw [hs] at h
    cases fault <;> cases h

/-- The archive, the markdown, the console and the exit code of a run tell the same totals,
and the grade that belongs to them. -/
structure TellsOneStory (ending : Ending) (paths : ReportPaths) (totals : Totals) : Prop where
  /-- The archive has one line for each issue that its totals count. It is read back as it
  was written, unless a total is too long to be read. -/
  archive : ∃ document,
    ending.tree.readBytes paths.json = .ok (Text.encode (String.ofList (Json.write document))) ∧
      Archive.Accounts document totals (.ofCounts totals.errors totals.warnings) ∧
        ((∀ total ∈ [totals.errors, totals.warnings, totals.infos], isWritable total = true) →
          Json.read (Json.write document) = .ok document)
  markdown : ∃ text, ending.tree.readBytes paths.markdown = .ok (Text.encode text) ∧
    Markdown.Accounts text totals (.ofCounts totals.errors totals.warnings)
  console : ending.Accounts totals (.ofCounts totals.errors totals.warnings)
  exitCode : ending.exitCode = if 0 < totals.errors then 1 else 0

/-- The report of a run can be laid out in lines if its timestamp is on one. -/
theorem fitsLines_run (hone : IsOneLine around.timestamp) (settings : Settings) (flags : RunFlags) :
    ((placeOf around settings).run settings flags around.timestamp).report.FitsLines where
  timestamp := hone
  checks _ hc := Workplace.fitsLine_of_mem_run hc
  durations check hc := by
    rw [Workplace.checks_run] at hc
    obtain ⟨kind, -, rfl⟩ := List.mem_map.mp hc
    exact (Workplace.examine_presentable kind).duration.imp fun n hn => hn.1

/-- The report of a run stands in its files as the console and the exit code tell it. -/
theorem tellsOneStory_of_stands {ending : Ending} {report : Report} {duration : String} {folder : Path}
    (ht : report.totals = .ofChecks report.checks)
    (hg : report.grade = .ofCounts report.totals.errors report.totals.warnings) (hr : report.FitsLines)
    (hs : report.StandsIn ending.tree folder) (hout : ending.stdout = summary report duration (.within folder))
    (hexit : ending.exitCode = report.exitCode) :
    TellsOneStory ending (.within folder) report.totals := by
  obtain ⟨markdown, hrender, hbytes⟩ := hs.markdown
  obtain ⟨hduration, hdurations⟩ := Markdown.isWritable_of_render hrender
  refine ⟨⟨Archive.toDocument (Archive.ofReport report), hs.json, ?_, fun hw => ?_⟩, ⟨markdown, hbytes, ?_⟩,
    ?_, hexit⟩
  · rw [← hg]
    exact Archive.accounts_toDocument ht
  · have hnumbers : report.HasWritableNumbers :=
      { duration := hduration
        errors := hw _ (by simp)
        warnings := hw _ (by simp)
        infos := hw _ (by simp)
        durations := fun check hc =>
          (hr.durations check hc).imp fun n hn => ⟨hn, hdurations check hc n hn⟩ }
    exact (Archive.isPlain_toDocument hnumbers).read_write
  · rw [← hg]
    exact Markdown.accounts_of_render hr hrender
  · rw [← hg]
    exact accounts_of_summary hr.checks hout

/-- Whenever a run reaches its summary, its archive, its markdown, its console and its exit
code tell one story, whatever was found around it. The timestamp is on one line, as every
stamp of a clock is. -/
theorem executeRun_tellsOneStory (hone : IsOneLine around.timestamp) (config : Option String)
    (verbose : Bool) (flags : RunFlags) (asked : Option String)
    (hs : summaryTitle ∈ (executeRun around config verbose flags asked).stdout) :
    ∃ settings totals,
      Settings.load around.tree (settingsFile around.tree config) around.environment = .ok settings ∧
        TellsOneStory (executeRun around config verbose flags asked)
          (.within (reportFolder settings asked)) totals := by
  obtain ⟨settings, hload⟩ := exists_settings_of_mem_stdout hs
  obtain ⟨log, hfinish⟩ := executeRun_eq_finish hload verbose flags asked
  rw [hfinish] at hs ⊢
  obtain ⟨tree, duration, hwritten, htree, hexit, hout⟩ := stdout_finish_of_mem hs
  have hstands := (Report.standsIn_of_writeFiles hwritten).2
  rw [← htree] at hstands
  exact ⟨settings, _, hload,
    tellsOneStory_of_stands rfl rfl (fitsLines_run hone settings flags) hstands hout hexit⟩

/-- Without any tool every check fails that asks one, and the run tells so in all places. -/
theorem executeRun_tellsOneStory_no_tools :
    let around : Surroundings :=
      { tree := ⟨.folder [], []⟩
        tools := fun _ _ => .error (.toolNotFound "npx")
        timestamp := (Moment.ofEpoch 0).stamp }
    let ending := executeRun around none false {} none
    IsOneLine around.timestamp ∧ summaryTitle ∈ ending.stdout ∧
      ∃ totals, TellsOneStory ending (.within (reportFolder {} none)) totals ∧ ending.exitCode = 1 ∧
        0 < totals.errors := by
  intro around ending
  have hone : IsOneLine around.timestamp := Moment.isOneLine_stamp _
  obtain ⟨log, hfinish⟩ : ∃ log, ending =
      finish around {} ((placeOf around {}).run {} {} around.timestamp) log (reportFolder {} none) :=
    executeRun_eq_finish load_nothing false {} none
  have hclock : around.elapsed.natAbs < Binary64.bound := Binary64.bound_pos
  have hp : ((placeOf around {}).run {} {} around.timestamp).report.IsPresentable :=
    Workplace.isPresentable_run hclock {} {} around.timestamp
  have ho : ¬((placeOf around {}).run {} {} around.timestamp).report.HasOddRule := by
    intro hodd
    rcases (Workplace.exists_isOdd_run_iff around.timestamp).mp hodd with ⟨output, hout, -⟩ | ⟨output, hout, -⟩
    · cases hout
    · cases hout
  have hs : summaryTitle ∈ ending.stdout := by
    rw [hfinish]
    exact summaryTitle_mem_stdout hp takes_nothing ho
  have hfails : ((placeOf around {}).run {} {} around.timestamp).report.exitCode = 1 := by
    have herror : ((placeOf around {}).attempt {} {} .oxlint).result = .error (.toolNotFound "npx") := rfl
    exact (Workplace.exitCode_run_eq_one_iff _).mpr ⟨_, Workplace.crashed_mem_checks _ herror, rfl⟩
  have hexit : ending.exitCode = 1 := by
    rw [hfinish] at hs ⊢
    obtain ⟨-, -, -, -, hcode, -⟩ := stdout_finish_of_mem hs
    rw [hcode, hfails]
  obtain ⟨settings, totals, hload, hstory⟩ := executeRun_tellsOneStory hone none false {} none hs
  have hsettings : settings = {} := Except.ok.inj (hload.symm.trans load_nothing)
  rw [hsettings] at hstory
  refine ⟨hone, hs, totals, hstory, hexit, ?_⟩
  have hcode := hstory.exitCode
  rw [hexit] at hcode
  by_cases hpos : 0 < totals.errors
  · exact hpos
  · rw [if_neg hpos] at hcode
    cases hcode

end Command

end Checkup
