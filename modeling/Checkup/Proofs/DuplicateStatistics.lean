import Checkup.Proofs.DuplicateCounts
import Checkup.Proofs.EncodedTexts
import Checkup.Proofs.Durations

/-!
# Statistics of duplicates

The search for duplicates writes statistics into a file, from which one note is added to the
issues. A file that is missing adds nothing. But a file may take the issues with it: one that
is not UTF-8, one under a path that no file system admits, and one whose percentage is a whole
number that is too large.
-/

namespace Checkup.Jscpd

open Text

/-- The rule of the note on the overall duplication. -/
def statisticsRule : String := "jscpd/stats"

/-- What statistics add to the issues: one note at most. -/
structure IsNote (further : List Issue) : Prop where
  length_le : further.length ≤ 1
  info : ∀ issue ∈ further, issue.severity = .info ∧ issue.rule = .text statisticsRule

/-- The percentage that a document gives for the whole code. -/
def Reports (document percentage : Value) : Prop :=
  ∃ report statistics total, document = .mapping report ∧ Entries.get report "statistics" = .mapping statistics ∧
    Entries.get statistics "total" = .mapping total ∧ Entries.get total "percentage" = percentage

/-- How a file of statistics ends the search for duplicates, by the kind of the fault. -/
inductive Spoils (tree : FileTree) (path : Path) : String → Prop
  | path (null : path.holdsNull = true) : Spoils tree path "ValueError"
  | bytes {content : List UInt8} (admitted : path.holdsNull = false) (read : tree.readBytes path = .ok content)
      (foreign : ∀ text, content ≠ Text.encode text) : Spoils tree path "UnicodeDecodeError"
  | number {text : List Char} {document : Value} {n : Int} (admitted : path.holdsNull = false)
      (read : tree.readBytes path = .ok (Text.encode (String.ofList text)))
      (json : Json.read? (Text.unifyLineEnds text) = some document) (reports : Reports document (.int n))
      (large : Binary64.leastTooLarge ≤ n.natAbs) : Spoils tree path "OverflowError"

/-! ## Percentages -/

/-- A percentage is refused exactly if it is a whole number that is too large. -/
theorem percentage?_failsBy (value : Value) :
    FailsBy (percentage? value) fun fault =>
      (∃ n, value = .int n ∧ Binary64.leastTooLarge ≤ n.natAbs) ∧ fault = .hugeNumber := by
  by_cases h : ∃ n, value = .int n ∧ Binary64.leastTooLarge ≤ n.natAbs
  · obtain ⟨n, rfl, hlarge⟩ := h
    have hfault : percentage? (.int n) = .error .hugeNumber := by
      unfold percentage?
      dsimp only
      rw [(Binary64.ofInt?_eq_none_iff n).mpr hlarge]
    constructor
    · intro fault hf
      rw [hfault] at hf
      cases hf
      exact ⟨⟨n, rfl, hlarge⟩, rfl⟩
    · exact fun _ _ => ⟨_, hfault⟩
  · have hread : Succeeds (percentage? value) := by
      unfold percentage?
      split
      · next n =>
        cases hn : Binary64.ofInt? n with
        | none => exact absurd ⟨n, rfl, (Binary64.ofInt?_eq_none_iff n).mp hn⟩ h
        | some number => exact .ok _
      all_goals exact .ok _
    exact (FailsBy.of_succeeds hread).congr fun fault => ⟨False.elim, fun hf => h hf.1⟩

/-- The total of a document is that of its statistics. -/
theorem statisticsTotal?_eq_some_iff {document : Value} {total : Entries} :
    statisticsTotal? document = some total ↔ ∃ report statistics, document = .mapping report ∧
      Entries.get report "statistics" = .mapping statistics ∧ Entries.get statistics "total" = .mapping total := by
  have hentries : ∀ {value : Value} {entries : Entries}, value.entries? = some entries ↔ value = .mapping entries := by
    intro value entries
    cases value <;> simp [Value.entries?]
  unfold statisticsTotal?
  simp only [Option.bind_eq_bind, Option.bind_eq_some_iff, hentries]
  constructor
  · rintro ⟨report, hreport, statistics, hstatistics, htotal⟩
    exact ⟨report, statistics, hreport, hstatistics, htotal⟩
  · rintro ⟨report, statistics, hreport, hstatistics, htotal⟩
    exact ⟨report, hreport, statistics, hstatistics, htotal⟩

/-- The statistics of a text are refused exactly if they report a whole number that is too large. -/
theorem statisticsIssues_failsBy (text : String) :
    FailsBy (statisticsIssues text) fun fault =>
      (∃ document n, Json.read? text.toList = some document ∧ Reports document (.int n) ∧
        Binary64.leastTooLarge ≤ n.natAbs) ∧ fault = .hugeNumber := by
  unfold statisticsIssues
  cases hread : (Json.read? text.toList >>= statisticsTotal?) with
  | none =>
    refine (FailsBy.of_succeeds (.ok [])).congr fun fault => ⟨False.elim, ?_⟩
    rintro ⟨⟨document, n, hdocument, ⟨report, statistics, total, hreport, hstatistics, htotal, -⟩, -⟩, -⟩
    have hsome : (Json.read? text.toList >>= statisticsTotal?) = some total :=
      Option.bind_eq_some_iff.mpr ⟨document, hdocument,
        statisticsTotal?_eq_some_iff.mpr ⟨report, statistics, hreport, hstatistics, htotal⟩⟩
    rw [hread] at hsome
    cases hsome
  | some total =>
    obtain ⟨document, hdocument, htotal⟩ := Option.bind_eq_some_iff.mp hread
    obtain ⟨report, statistics, rfl, hstatistics, htotal⟩ := statisticsTotal?_eq_some_iff.mp htotal
    refine ((percentage?_failsBy _).bind_succeeds fun percentage => ?_).congr fun fault => and_congr_left fun _ => ?_
    · cases percentage with
      | none => exact .ok _
      | some percentage =>
        dsimp only
        split <;> exact .ok _
    · constructor
      · rintro ⟨n, hn, hlarge⟩
        exact ⟨_, n, hdocument, ⟨report, statistics, total, rfl, hstatistics, htotal, hn⟩, hlarge⟩
      · rintro ⟨other, n, hother, ⟨given, found, whole, rfl, hfound, hwhole, hn⟩, hlarge⟩
        cases hdocument.symm.trans hother
        cases hstatistics.symm.trans hfound
        cases htotal.symm.trans hwhole
        exact ⟨n, hn, hlarge⟩

/-- No note is one at most. -/
theorem isNote_nil : IsNote [] := ⟨Nat.zero_le 1, fun _ hissue => absurd hissue List.not_mem_nil⟩

/-- What statistics give is one note at most. -/
theorem isNote_of_statisticsIssues {text : String} {further : List Issue}
    (h : statisticsIssues text = .ok further) : IsNote further := by
  unfold statisticsIssues at h
  split at h
  · cases h
    exact isNote_nil
  · obtain ⟨percentage, -, h⟩ := bind_eq_ok_iff.mp h
    cases percentage with
    | none =>
      cases h
      exact isNote_nil
    | some percentage =>
      dsimp only at h
      split at h
      · cases h
        exact isNote_nil
      · cases h
        exact ⟨Nat.le_refl 1, List.forall_mem_singleton.mpr ⟨rfl, rfl⟩⟩

/-- No text has no statistics. -/
theorem statisticsIssues_empty : statisticsIssues "" = .ok [] := rfl

end Checkup.Jscpd

namespace Checkup.FileTree

variable {tree : FileTree} {path : Path}

/-- No file is read under a path that no file system admits. -/
theorem readText_of_null (h : path.holdsNull = true) : tree.readText path = .error .nullCharacter := by
  unfold readText accept
  rw [if_pos h]
  rfl

/-- What cannot be read as bytes cannot be read as a text. -/
theorem readText_of_error {fault : FileFault} (hn : path.holdsNull = false)
    (h : tree.readBytes path = .error fault) : tree.readText path = .error (.file fault) := by
  unfold readText accept
  rw [if_neg (Bool.eq_false_iff.mp hn), ok_bind, h]

/-- The bytes of a text are read as the text, with line feeds for all line ends. -/
theorem readText_of_encode {text : List Char} (hn : path.holdsNull = false)
    (h : tree.readBytes path = .ok (Text.encode (String.ofList text))) :
    tree.readText path = .ok (Text.unifyLineEnds text) := by
  have hdecode : Text.decode (Text.encode (String.ofList text)) = .ok text := Text.decode_eq_ok_iff.mpr rfl
  unfold readText accept
  rw [if_neg (Bool.eq_false_iff.mp hn), ok_bind, h]
  dsimp only
  rw [hdecode]

/-- Bytes of no text are not read. -/
theorem readText_of_foreign {bytes : List UInt8} (hn : path.holdsNull = false)
    (h : tree.readBytes path = .ok bytes) (hf : ∀ text, bytes ≠ Text.encode text) :
    ∃ fault, tree.readText path = .error (.notUtf8 fault) := by
  cases hd : Text.decode bytes with
  | ok text => exact absurd (Text.decode_eq_ok_iff.mp hd) (hf _)
  | error fault =>
    refine ⟨fault, ?_⟩
    unfold readText accept
    rw [if_neg (Bool.eq_false_iff.mp hn), ok_bind, h]
    dsimp only
    rw [hd]

end Checkup.FileTree

namespace Checkup.Workplace

open Text Jscpd

variable {place : Workplace} {settings : Settings} {flags : RunFlags} {arguments : List String}
  {output : ToolOutput} {found : List Issue}

/-- What is added to the issues for the file of statistics. -/
def statistics (place : Workplace) (settings : Settings) : Outcome (List Issue) :=
  (place.statisticsText settings).result >>= statisticsIssues

/-- Where the tool answers, the check is that of the issues with what is added to them. -/
theorem result_findDuplicates (ha : jscpdArguments settings = .ok arguments)
    (ht : place.tools ⟨"jscpd", arguments⟩ = .ok output)
    (hf : (dialect (place.rootText settings)).issues output.stdout output.stderr = .ok found) :
    (place.findDuplicates settings).result = (place.statistics settings >>= fun further =>
      .ok (.ofIssues Jscpd.checkName (found ++ further) place.elapsed (Jscpd.summary (found ++ further))
        (some output.combined))) := by
  unfold findDuplicates
  simp only [Attempt.result_bind]
  have hnote : (Attempt.note .info "Running jscpd (duplicate detection)...").result = .ok () := rfl
  have hcall : (Attempt.call place.tools "jscpd" arguments).result = .ok output := ht
  rw [hnote, ok_bind]
  change (jscpdArguments settings >>= _) = _
  rw [ha, ok_bind, hcall, ok_bind]
  change ((dialect (place.rootText settings)).issues output.stdout output.stderr >>= _) = _
  rw [hf, ok_bind, statistics, bind_assoc]
  rfl

/-- The search for duplicates is left out of quick runs alone. -/
theorem attempt_jscpd (hq : flags.quick = false) :
    place.attempt settings flags .jscpd = place.findDuplicates settings := by
  unfold attempt
  rw [hq, if_neg (by simp)]

/-- What a text of statistics adds is what it tells. -/
theorem statistics_of_text {text : List Char}
    (h : place.tree.readText (settings.below settings.duplicateStatistics) = .ok text) :
    place.statistics settings = statisticsIssues (String.ofList text) := by
  unfold statistics statisticsText
  dsimp only
  rw [h]
  rfl

/-- A file that the file system refuses adds nothing. -/
theorem statistics_of_file {fault : FileFault}
    (h : place.tree.readText (settings.below settings.duplicateStatistics) = .error (.file fault)) :
    place.statistics settings = .ok [] := by
  unfold statistics statisticsText
  dsimp only
  rw [h]
  exact statisticsIssues_empty

/-- Any other fault of reading ends the search. -/
theorem statistics_of_fault {fault : Fault} (hf : ∀ refusal, fault ≠ .file refusal)
    (h : place.tree.readText (settings.below settings.duplicateStatistics) = .error fault) :
    place.statistics settings = .error fault := by
  unfold statistics statisticsText
  dsimp only
  rw [h]
  cases fault with
  | file refusal => exact absurd rfl (hf refusal)
  | _ => rfl

/-- A file of statistics that spoils the search is a fault of the kind that it says. -/
theorem statistics_of_spoils {kind : String}
    (h : Spoils place.tree (settings.below settings.duplicateStatistics) kind) :
    ∃ fault, place.statistics settings = .error fault ∧ fault.kind = kind := by
  cases h with
  | path null => exact ⟨_, statistics_of_fault (fun _ => Fault.noConfusion) (FileTree.readText_of_null null), rfl⟩
  | bytes admitted read foreign =>
    obtain ⟨fault, hfault⟩ := FileTree.readText_of_foreign admitted read foreign
    exact ⟨_, statistics_of_fault (fun _ => Fault.noConfusion) hfault, rfl⟩
  | @number text document n admitted read json reports large =>
    have hfails := statisticsIssues_failsBy (String.ofList (unifyLineEnds text))
    rw [String.toList_ofList] at hfails
    obtain ⟨fault, hfault⟩ := hfails.fails .hugeNumber ⟨⟨document, n, json, reports, large⟩, rfl⟩
    obtain ⟨-, rfl⟩ := hfails.caused fault hfault
    exact ⟨_, (statistics_of_text (FileTree.readText_of_encode admitted read)).trans hfault, rfl⟩

/-- Any other file, and none, adds one note at most, and what cannot be read adds none. -/
theorem statistics_of_not_spoils
    (h : ∀ kind, ¬ Spoils place.tree (settings.below settings.duplicateStatistics) kind) :
    ∃ further, place.statistics settings = .ok further ∧ IsNote further ∧
      ((∀ bytes, place.tree.readBytes (settings.below settings.duplicateStatistics) ≠ .ok bytes) → further = []) := by
  have hnull : (settings.below settings.duplicateStatistics).holdsNull = false :=
    Bool.eq_false_iff.mpr fun null => h _ (.path null)
  cases hread : place.tree.readBytes (settings.below settings.duplicateStatistics) with
  | error fault =>
    have hnone := statistics_of_file (FileTree.readText_of_error hnull hread)
    exact ⟨[], hnone, isNote_nil, fun _ => rfl⟩
  | ok bytes =>
    obtain ⟨text, rfl⟩ : ∃ text, bytes = Text.encode (String.ofList text) := by
      by_contra hforeign
      refine h _ (.bytes hnull hread fun text htext => hforeign ⟨text.toList, ?_⟩)
      rw [htext, String.ofList_toList]
    have hfails := statisticsIssues_failsBy (String.ofList (unifyLineEnds text))
    rw [String.toList_ofList] at hfails
    obtain ⟨further, hfurther⟩ := hfails.succeeds fun fault hcause => by
      obtain ⟨⟨document, n, json, reports, large⟩, -⟩ := hcause
      exact h _ (.number hnull hread json reports large)
    refine ⟨further, (statistics_of_text (FileTree.readText_of_encode hnull hread)).trans hfurther,
      isNote_of_statisticsIssues hfurther, fun hunread => absurd rfl (hunread _)⟩

/-- The statistics cost no issues, but for three kinds of files: the check holds the issues of the
tool's output and one note at most behind them, and none if the file cannot be read. In these three
cases it has failed and holds none of them. -/
theorem examine_jscpd (hq : flags.quick = false) (ha : jscpdArguments settings = .ok arguments)
    (ht : place.tools ⟨"jscpd", arguments⟩ = .ok output)
    (hroot : Value.isBadRoot (place.rootText settings) = false)
    (hr : RunsWithin maxDigits (scanned output.stdout output.stderr).toList)
    (hw : headersIn (scanned output.stdout output.stderr).toList < unwritable) :
    ∃ found, (dialect (place.rootText settings)).issues output.stdout output.stderr = .ok found ∧
      (∀ kind, Spoils place.tree (settings.below settings.duplicateStatistics) kind →
        ∃ fault, fault.kind = kind ∧
          (place.examine settings flags .jscpd).check = .crashed Jscpd.checkName place.elapsed fault) ∧
      ((∀ kind, ¬ Spoils place.tree (settings.below settings.duplicateStatistics) kind) →
        ∃ further, (place.examine settings flags .jscpd).check.issues = found ++ further ∧ IsNote further ∧
          ((∀ bytes, place.tree.readBytes (settings.below settings.duplicateStatistics) ≠ .ok bytes) →
            further = [])) := by
  obtain ⟨found, hfound⟩ := issues_succeeds hroot hr hw
  have hresult := result_findDuplicates ha ht hfound
  rw [← attempt_jscpd hq] at hresult
  refine ⟨found, hfound, fun kind hspoils => ?_, fun hnot => ?_⟩
  · obtain ⟨fault, hfault, hkind⟩ := statistics_of_spoils hspoils
    rw [hfault] at hresult
    exact ⟨fault, hkind, examine_of_error hresult⟩
  · obtain ⟨further, hfurther, hnote, hunread⟩ := statistics_of_not_spoils hnot
    rw [hfurther] at hresult
    refine ⟨further, ?_, hnote, hunread⟩
    rw [examine_of_ok hresult]
    rfl

/-- An answer with a header whose block is lost. -/
def lostAnswer : ToolOutput := { stdout := "Clone found (typescript):\n - the places are lost\n" }

/-- Settings whose number of lines has one digit. -/
def briefSettings : Settings := { duplicateMinLines := 5 }

/-- The tool is asked with these settings. -/
theorem exists_jscpdArguments_briefSettings : ∃ arguments, jscpdArguments briefSettings = .ok arguments := by
  have hwritten : writeWhole briefSettings.duplicateMinLines = .ok "5" :=
    if_pos (isWritable_of_natAbs_lt_ten (by decide))
  unfold jscpdArguments
  rw [hwritten]
  exact ⟨_, rfl⟩

/-- These settings look for statistics in the folder of reports. -/
theorem statisticsPath_briefSettings :
    briefSettings.below briefSettings.duplicateStatistics = ⟨"", ["report", "jscpd-report.json"]⟩ := by
  decide

/-- From the top of a tree, their root folder is one that a file system admits. -/
theorem isBadRoot_briefSettings (top : Node) (tools : Tools) :
    Value.isBadRoot (rootText { tree := ⟨top, []⟩, tools } briefSettings) = false := by
  have htext : rootText { tree := ⟨top, []⟩, tools } briefSettings = some "/" := by
    have hshown : briefSettings.rootPath.absolute [] = "/" := by decide
    exact congrArg some hshown
  rw [htext]
  simp [Value.isBadRoot]

/-- The answer holds one header, and no long run of digits. -/
theorem scanned_lostAnswer : RunsWithin maxDigits (scanned lostAnswer.stdout lostAnswer.stderr).toList ∧
    headersIn (scanned lostAnswer.stdout lostAnswer.stderr).toList = 1 := by
  have hplain : escape ∉ lostAnswer.stdout.toList := by decide
  have hscanned : (scanned lostAnswer.stdout lostAnswer.stderr).toList = lostAnswer.stdout.toList := by
    have hsilent : lostAnswer.stderr = "" := rfl
    rw [scanned, hsilent, String.append_empty, String.toList_ofList, uncoloured_of_not_mem hplain]
  rw [hscanned]
  exact ⟨.of_length_le (by decide), by decide⟩

/-- Without a file of statistics the issues are those of the output. -/
theorem examine_jscpd_missing :
    let place : Workplace := { tree := ⟨.folder [], []⟩, tools := fun _ => .ok lostAnswer }
    (∃ arguments, jscpdArguments briefSettings = .ok arguments ∧
        place.tools ⟨"jscpd", arguments⟩ = .ok lostAnswer) ∧
      Value.isBadRoot (place.rootText briefSettings) = false ∧
      ∃ found, (dialect (place.rootText briefSettings)).issues lostAnswer.stdout lostAnswer.stderr = .ok found ∧
        (place.examine briefSettings {} .jscpd).check.issues = found := by
  intro place
  obtain ⟨arguments, harguments⟩ := exists_jscpdArguments_briefSettings
  have hroot : Value.isBadRoot (place.rootText briefSettings) = false := isBadRoot_briefSettings _ _
  obtain ⟨hruns, hone⟩ := scanned_lostAnswer
  have hunread : ∀ bytes, place.tree.readBytes (briefSettings.below briefSettings.duplicateStatistics) ≠ .ok bytes := by
    intro bytes
    rw [statisticsPath_briefSettings]
    simp [place, FileTree.readBytes, FileTree.find, FileTree.locate, FileTree.locateFrom, FileTree.step,
      FileTree.start, Path.isAbsolute, Node.at?, FileTree.refuse]
  have hnot : ∀ kind, ¬ Spoils place.tree (briefSettings.below briefSettings.duplicateStatistics) kind := by
    rintro kind (null | ⟨-, read, -⟩ | ⟨-, read, -, -, -⟩)
    · rw [statisticsPath_briefSettings] at null
      simp [Path.holdsNull] at null
    · exact hunread _ read
    · exact hunread _ read
  obtain ⟨found, hfound, -, hkept⟩ := @examine_jscpd place briefSettings {} arguments lostAnswer rfl harguments rfl
    hroot hruns (hone ▸ lt_unwritable (by decide))
  obtain ⟨further, hissues, -, hnone⟩ := hkept hnot
  refine ⟨⟨arguments, harguments, rfl⟩, hroot, found, hfound, ?_⟩
  rw [hissues, hnone hunread, List.append_nil]

/-- A file of statistics that is not UTF-8 takes the issues of the output with it. -/
theorem examine_jscpd_not_utf8 :
    let place : Workplace :=
      { tree := ⟨.folder [("report", .folder [("jscpd-report.json", .file [0xFF])])], []⟩
        tools := fun _ => .ok lostAnswer }
    (∃ found, (dialect (place.rootText briefSettings)).issues lostAnswer.stdout lostAnswer.stderr = .ok found ∧
        found ≠ []) ∧
      ∃ fault, fault.kind = "UnicodeDecodeError" ∧
        (place.examine briefSettings {} .jscpd).check = .crashed Jscpd.checkName place.elapsed fault := by
  intro place
  obtain ⟨arguments, harguments⟩ := exists_jscpdArguments_briefSettings
  have hroot : Value.isBadRoot (place.rootText briefSettings) = false := isBadRoot_briefSettings _ _
  obtain ⟨hruns, hone⟩ := scanned_lostAnswer
  obtain ⟨found, hfound, hne⟩ : ∃ found, (dialect (place.rootText briefSettings)).issues lostAnswer.stdout
      lostAnswer.stderr = .ok found ∧ found ≠ [] := by
    rcases issues_cases hroot hruns with ⟨hzero, -⟩ | ⟨-, ⟨found, hfound, hne, -⟩ | ⟨hlarge, -⟩⟩
    · rw [hone] at hzero
      cases hzero
    · exact ⟨found, hfound, hne⟩
    · rw [hone] at hlarge
      exact absurd (lt_unwritable (by decide)) (Nat.not_lt.mpr hlarge)
  have hdecode : Text.decode [0xFF] = .error ⟨.badStart, 0, 1, 0xFF⟩ := by
    rw [Text.decode, Text.decodeFrom]
    rfl
  have hspoils : Spoils place.tree (briefSettings.below briefSettings.duplicateStatistics) "UnicodeDecodeError" := by
    have hread : place.tree.readBytes ⟨"", ["report", "jscpd-report.json"]⟩ = .ok [0xFF] := by
      simp [place, FileTree.readBytes, FileTree.find, FileTree.locate, FileTree.locateFrom, FileTree.step,
        FileTree.start, Path.isAbsolute, Node.at?, Node.entries]
    rw [statisticsPath_briefSettings]
    refine .bytes (by simp [Path.holdsNull]) hread fun text htext => ?_
    have hsame : [0xFF] = Text.encode (String.ofList text.toList) := by
      rw [String.ofList_toList]
      exact htext
    cases hdecode.symm.trans (Text.decode_eq_ok_iff.mpr hsame)
  obtain ⟨fault, hfault, hkind⟩ := statistics_of_spoils hspoils
  have hresult : (place.attempt briefSettings {} .jscpd).result = .error fault := by
    rw [attempt_jscpd rfl, result_findDuplicates harguments rfl hfound, hfault]
    rfl
  exact ⟨⟨found, hfound, hne⟩, fault, hkind, examine_of_error hresult⟩

end Checkup.Workplace
