import Checkup.Dialect.Oxlint
import Checkup.Proofs.Announcements
import Checkup.Proofs.ReportedIssues
import Checkup.Proofs.RunReports
import Checkup.Proofs.ScannedText
import Checkup.Proofs.SmallLetters

/-!
# Findings that text shows

Output without a known structure is not taken for clean as long as its text shows a
finding: what the scan of the lines drops is caught by the announcements. The one
exception are announcements that add up to a number too long to be written; there the
reading of the output ends in a fault.
-/

namespace Checkup

open Text

namespace Dialect

variable {Payload : Type} {dialect : Dialect Payload} {stdout stderr : String}

/-- Output is not of a known structure. -/
def IsUnstructured (dialect : Dialect Payload) (stdout stderr : String) : Prop :=
  ∀ schema payload, dialect.read stdout stderr ≠ .ok (.structured schema payload)

/-- Output whose text makes findings evident is accounted for: its issues show them. -/
structure Accounts (dialect : Dialect Payload) (stdout stderr : String) (evident : Prop)
    (shows : List Issue → Prop) : Prop where
  /-- Evident findings show in the issues. -/
  shown : evident → ¬dialect.Overflows stdout stderr →
    ∃ found, dialect.issues stdout stderr = .ok found ∧ shows found
  /-- Where no line gives an issue, one issue says how many findings are announced. -/
  counted : evident → dialect.FindsNothing stdout stderr → ¬dialect.Overflows stdout stderr →
    dialect.issues stdout stderr =
      .ok [dialect.unreadIssue (dialect.total (dialect.scanned stdout stderr))]
  /-- There is a fault exactly if more is announced than a number can say. -/
  overflowing : FailsBy (dialect.issues stdout stderr) fun fault =>
    dialect.Overflows stdout stderr ∧ fault.kind = "ValueError"

/-- Issues show the findings of output if those of its lines and the one about unread
findings do, and whatever the scan passes over is announced. -/
theorem gives_of_announced {shows : List Issue → Prop} {reading : Reading Payload}
    (hc : IsCounting dialect.announcement) (hr : dialect.read stdout stderr = .ok reading)
    (hu : dialect.IsUnstructured stdout stderr)
    (hl : ∀ text, Gives (dialect.ofText text) fun found => found ≠ [] → shows found)
    (hunread : ∀ count, shows [dialect.unreadIssue count])
    (ha : dialect.FindsNothing stdout stderr → dialect.announcements (dialect.scanned stdout stderr) ≠ []) :
    Gives (dialect.issues stdout stderr) shows := by
  intro found hfound
  by_cases hn : dialect.FindsNothing stdout stderr
  · rw [hn.issues_eq] at hfound
    by_cases hw : dialect.total (dialect.scanned stdout stderr) < unwritable
    · rw [unread_of_ne_nil hc (ha hn) hw] at hfound
      cases hfound
      exact hunread _
    · obtain ⟨fault, hfault, -⟩ := unread_of_unwritable hc (Nat.not_lt.mp hw)
      rw [hfault] at hfound
      cases hfound
  · cases reading with
    | structured schema payload => exact absurd hr (hu schema payload)
    | empty => exact absurd (.inl hr) hn
    | text text =>
      cases htext : dialect.ofText text with
      | error fault =>
        rw [issues_of_ofText_error hr htext] at hfound
        cases hfound
      | ok scan =>
        have hne : scan ≠ [] := fun h => hn (.inr ⟨text, hr, h ▸ htext⟩)
        rw [issues_of_ofText hr htext hne] at hfound
        cases hfound
        exact hl text _ htext hne

/-- Findings are accounted for if, moreover, every text can be scanned. -/
theorem accounts {evident : Prop} {shows : List Issue → Prop} {reading : Reading Payload}
    (hc : IsCounting dialect.announcement) (hr : dialect.read stdout stderr = .ok reading)
    (hu : dialect.IsUnstructured stdout stderr) (hs : ∀ text, Succeeds (dialect.ofText text))
    (hl : ∀ text, Gives (dialect.ofText text) fun found => found ≠ [] → shows found)
    (hunread : ∀ count, shows [dialect.unreadIssue count])
    (ha : evident → dialect.FindsNothing stdout stderr →
      dialect.announcements (dialect.scanned stdout stderr) ≠ []) :
    dialect.Accounts stdout stderr evident shows := by
  have hfaults : FailsBy (dialect.issues stdout stderr) fun fault =>
      dialect.Overflows stdout stderr ∧ fault.kind = "ValueError" := by
    refine (issues_failsBy (fun _ _ _ => False) hc hr ?_ fun text _ => hs text).congr ?_
    · rintro schema payload rfl
      exact absurd hr (hu schema payload)
    · simp
  refine ⟨fun he ho => ?_, fun he hn ho => ?_, hfaults⟩
  · cases hissues : dialect.issues stdout stderr with
    | ok found => exact ⟨found, rfl, gives_of_announced hc hr hu hl hunread (ha he) found hissues⟩
    | error fault => exact absurd (hfaults.caused fault hissues).1 ho
  · rw [hn.issues_eq]
    exact unread_of_ne_nil hc (ha he hn) (Nat.not_le.mp fun hw => ho ⟨hn, hw⟩)

/-- A standard output that is not blank and has no findings gives nothing when it is scanned. -/
theorem FindsNothing.ofText_stdout {dialect : Dialect Value} {schemaOf : Value → Option String}
    (h : dialect.FindsNothing stdout stderr)
    (hr : dialect.read stdout stderr = .ok (readJson schemaOf stdoutOnly stdout stderr))
    (hb : allBlank stdout.toList = false) : dialect.ofText stdout = .ok [] := by
  rcases h with hempty | ⟨text, htext, hfound⟩
  · rw [hr] at hempty
    rw [allBlank_of_readJson (Except.ok.inj hempty)] at hb
    cases hb
  · rw [hr] at htext
    rw [eq_scanned_of_readJson (Except.ok.inj htext)] at hfound
    exact hfound

end Dialect

/-- A text with a line that is not blank is not blank. -/
theorem allBlank_of_mem_lines {line text : List Char} (hl : line ∈ lines text) (hb : allBlank line = false) :
    allBlank text = false := by
  rw [Bool.eq_false_iff]
  intro h
  rw [allBlank_of_isInfix h (isInfix_of_mem_lines hl)] at hb
  cases hb

/-- A count behind the word `Found` is recognised in front of its words. -/
theorem foundCount_append {words : String} {c d : Char} {digits more : List Char}
    (hw : words.toList = d :: more) (hc : '1' ≤ c ∧ c ≤ '9') (hd : ∀ e ∈ digits, isDecimal e = true)
    (he : isDecimal d = false) (before : Option Char) (back : List Char) :
    foundCount words before ("Found ".toList ++ c :: digits ++ words.toList ++ back) =
      some (some (c :: digits)) := by
  have hstart : after? "Found ".toList ("Found ".toList ++ c :: digits ++ words.toList ++ back) =
      some (c :: (digits ++ d :: (more ++ back))) := by
    rw [after?_eq_some, hw]
    simp only [List.append_assoc, List.cons_append]
  have hend : after? words.toList (d :: (more ++ back)) = some back := by
    rw [after?_eq_some, hw]
    rfl
  unfold foundCount
  refine Option.bind_eq_some_iff.mpr ⟨_, hstart, ?_⟩
  refine Option.bind_eq_some_iff.mpr ⟨_, takeCount?_append hc hd he, ?_⟩
  exact Option.bind_eq_some_iff.mpr ⟨back, hend, rfl⟩

/-- Whatever is recognised behind the word `Found` is a count in front of its words. -/
theorem exists_of_foundCount {words : String} {before : Option Char} {text : List Char}
    {found : Option (List Char)} (h : foundCount words before text = some found) :
    ∃ c digits, ('1' ≤ c ∧ c ≤ '9') ∧ (∀ d ∈ digits, isDecimal d = true) ∧
      "Found ".toList ++ c :: digits ++ words.toList <+: text := by
  unfold foundCount at h
  obtain ⟨start, hstart, h⟩ := Option.bind_eq_some_iff.mp h
  obtain ⟨⟨digits, rest⟩, hcount, h⟩ := Option.bind_eq_some_iff.mp h
  obtain ⟨back, hback, -⟩ := Option.bind_eq_some_iff.mp h
  obtain ⟨c, more, rfl, hc, hmore, hsplit⟩ := takeCount?_eq_some hcount
  refine ⟨c, more, hc, hmore, back, ?_⟩
  rw [after?_eq_some.mp hstart, hsplit, after?_eq_some.mp hback]
  simp only [List.append_assoc]

/-! ## Oxlint -/

namespace Oxlint

/-- The text of oxlint shows a finding: a line other than a summary speaks of an error or a
warning, or a number of them is announced. -/
def IsEvident (stdout : String) : Prop :=
  (∃ line ∈ lines stdout.toList, isSummary line = false ∧ speaksOfFinding line = true) ∨
    (dialect none).announcements stdout ≠ []

/-- A line that speaks of a finding is not blank. -/
theorem allBlank_of_speaksOfFinding {line : List Char} (h : speaksOfFinding line = true) :
    allBlank line = false := by
  unfold speaksOfFinding at h
  dsimp only at h
  rw [Bool.or_eq_true, occurs_iff, occurs_iff] at h
  rcases h with h | h
  · exact allBlank_eq_false_of_lower (by decide) (isPlainLetter_of_all rfl) h
  · -- The letter i may come from a capital beyond ASCII, so only the start of the word tells.
    have hstart : "warn".toList <:+: "warning".toList := ⟨[], "ing".toList, rfl⟩
    exact allBlank_eq_false_of_lower (by decide) (isPlainLetter_of_all rfl) (hstart.trans h)

/-- What the scan passes over is announced. -/
theorem announcements_ne_nil {root : Option String} {stdout stderr : String} (he : IsEvident stdout)
    (hn : (dialect root).FindsNothing stdout stderr) : (dialect root).announcements stdout ≠ [] := by
  rcases he with ⟨line, hline, hsummary, hspeaks⟩ | he
  · have hblank := allBlank_of_speaksOfFinding hspeaks
    have hscan := hn.ofText_stdout rfl (allBlank_of_mem_lines hline hblank)
    have hnone := List.map_eq_nil_iff.mp (Except.ok.inj hscan)
    have hpassed := List.filter_eq_nil_iff.mp hnone line hline
    rw [hblank, hsummary, hspeaks] at hpassed
    exact absurd rfl hpassed
  · exact he

end Oxlint

/-! ## knip -/

namespace Knip

/-- The text of knip shows a finding: it speaks of something unused. -/
def IsEvident (stdout : String) : Prop := occurs "unused".toList (lower stdout.toList) = true

/-- A text that speaks of something unused has findings. -/
theorem not_findsNothing {root : Option String} {stdout stderr : String} (he : IsEvident stdout) :
    ¬(dialect root).FindsNothing stdout stderr := by
  intro hn
  have hword : "unused".toList <:+: lower stdout.toList := occurs_iff.mp he
  obtain ⟨line, hline, hspeaks⟩ := exists_line_of_lower (by decide) (isPlainLetter_of_all rfl) hword
  have hblank : allBlank line = false := allBlank_eq_false_of_lower (by decide) (isPlainLetter_of_all rfl) hspeaks
  have hscan := hn.ofText_stdout rfl (allBlank_of_mem_lines hline hblank)
  obtain ⟨found, -, hfound⟩ := bind_eq_ok_iff.mp hscan
  have hnone := Except.ok.inj hfound
  split at hnone
  · have hpassed := List.filter_eq_nil_iff.mp (List.map_eq_nil_iff.mp hnone) line hline
    exact hpassed (occurs_iff.mpr hspeaks)
  · next hfull =>
    rw [hnone] at hfull
    exact hfull rfl

end Knip

/-! ## TypeScript -/

namespace TypeScript

/-- The text of the compiler shows an error: it speaks of one in a diagnostic, or says how
many were found. -/
def IsEvident (text : List Char) : Prop :=
  "error TS".toList <:+: text ∨ ": error".toList <:+: text ∨
    ∃ c digits, ('1' ≤ c ∧ c ≤ '9') ∧ (∀ d ∈ digits, isDecimal d = true) ∧
      "Found ".toList ++ c :: digits ++ " error".toList <:+: text

/-- The compiler's output has no structure. -/
theorem isUnstructured (root : Option String) (stdout stderr : String) :
    (dialect root).IsUnstructured stdout stderr := by
  intro schema payload hr
  have hread := Except.ok.inj hr
  unfold read at hread
  dsimp only at hread
  split at hread
  · cases hread
  · cases hread

/-- Text with a phrase that marks a line as an error has findings. -/
theorem not_findsNothing_of_phrase {root : Option String} {stdout stderr : String} {phrase : List Char}
    (hb : ∀ c ∈ phrase, isLineBreak c = false) (hblank : allBlank phrase = false)
    (hs : ∀ line, phrase <:+: line → speaksOfError line = true)
    (h : phrase <:+: (stdout ++ stderr).toList) : ¬(dialect root).FindsNothing stdout stderr := by
  have hne : phrase ≠ [] := by
    rintro rfl
    cases hblank
  have hfull : ¬allBlank (stdout ++ stderr).toList = true := fun hall => by
    rw [allBlank_of_isInfix hall h] at hblank
    cases hblank
  have hread : (dialect root).read stdout stderr = .ok (.text (stdout ++ stderr)) :=
    congrArg Except.ok (if_neg hfull)
  intro hn
  obtain ⟨line, hline, hphrase⟩ := exists_mem_lines hne hb h
  have hspeaks : line ∈ (lines (stdout ++ stderr).toList).filter speaksOfError :=
    List.mem_filter.mpr ⟨hline, hs line hphrase⟩
  obtain ⟨issue, hissue, -⟩ := (members_of_mapM_eq_ok (hn.of_text hread)).2 line hspeaks
  cases hissue

/-- What the scan passes over is announced. -/
theorem announcements_ne_nil {root : Option String} {stdout stderr : String}
    (he : IsEvident (stdout ++ stderr).toList) (hn : (dialect root).FindsNothing stdout stderr) :
    (dialect root).announcements (stdout ++ stderr) ≠ [] := by
  rcases he with h | h | ⟨c, digits, hc, hd, h⟩
  · refine absurd hn (not_findsNothing_of_phrase (by simp [isLineBreak]) (by decide) (fun line hl => ?_) h)
    exact Bool.or_eq_true_iff.mpr (.inl (occurs_iff.mpr hl))
  · refine absurd hn (not_findsNothing_of_phrase (by simp [isLineBreak]) (by decide) (fun line hl => ?_) h)
    exact Bool.or_eq_true_iff.mpr (.inr (occurs_iff.mpr hl))
  · have hne : "Found ".toList ++ c :: digits ++ " error".toList ≠ [] := by simp
    have hseen : some (c :: digits) ∈ (dialect root).announcements (stdout ++ stderr) :=
      exists_mem_sightings hne (foundCount_append rfl hc hd (by decide)) h none
    exact List.ne_nil_of_mem hseen

/-- Text that shows no error gives no issues. -/
theorem issues_of_not_evident {root : Option String} {stdout stderr : String}
    (he : ¬IsEvident (stdout ++ stderr).toList) : (dialect root).issues stdout stderr = .ok [] := by
  have hscan : (lines (stdout ++ stderr).toList).filter speaksOfError = [] := by
    refine List.filter_eq_nil_iff.mpr fun line hline hspeaks => ?_
    have hinside := isInfix_of_mem_lines hline
    rcases Bool.or_eq_true_iff.mp hspeaks with h | h
    · exact he (.inl ((occurs_iff.mp h).trans hinside))
    · exact he (.inr (.inl ((occurs_iff.mp h).trans hinside)))
  have hsilent : (dialect root).announcements (stdout ++ stderr) = [] := by
    refine List.eq_nil_iff_forall_not_mem.mpr fun found hfound => ?_
    obtain ⟨before, rest, hrest, hseen⟩ := exists_of_mem_sightings hfound
    have hcount : foundCount " error" before rest = some found := hseen
    obtain ⟨c, digits, hc, hd, hstart⟩ := exists_of_foundCount hcount
    exact he (.inr (.inr ⟨c, digits, hc, hd, hstart.isInfix.trans hrest.isInfix⟩))
  have hnothing : (dialect root).FindsNothing stdout stderr := by
    by_cases hb : allBlank (stdout ++ stderr).toList = true
    · exact .inl (congrArg Except.ok (if_pos hb))
    · have htext : (dialect root).ofText (stdout ++ stderr) = .ok [] := by
        unfold dialect issuesOfText
        dsimp only
        rw [hscan]
        rfl
      exact .inr ⟨_, congrArg Except.ok (if_neg hb), htext⟩
  rw [hnothing.issues_eq]
  exact Dialect.unread_of_nil hsilent

/-- The issues of a text are errors. -/
theorem issuesOfText_errors (root : Option String) (text : String) :
    Gives (issuesOfText root text) fun found => ∀ issue ∈ found, issue.severity = .error := by
  refine .mapM (fun line => ?_) _
  unfold issueOf
  split
  · exact .bind fun _ => .bind fun _ => .ok rfl
  · exact .ok rfl

/-- So if there are any, they hold an error. -/
theorem issuesOfText_error (root : Option String) (text : String) :
    Gives (issuesOfText root text) fun found => found ≠ [] → ∃ issue ∈ found, issue.severity = .error := by
  refine (issuesOfText_errors root text).mono fun found herror hne => ?_
  obtain ⟨issue, hissue⟩ := List.exists_mem_of_ne_nil found hne
  exact ⟨issue, hissue, herror issue hissue⟩

/-- Text that shows an error gives one, if it gives anything. -/
theorem issues_of_evident {root : Option String} {stdout stderr : String}
    (he : IsEvident (stdout ++ stderr).toList) :
    Gives ((dialect root).issues stdout stderr) fun found => ∃ issue ∈ found, issue.severity = .error :=
  Dialect.gives_of_announced (isCounting_foundCount _) rfl (isUnstructured root stdout stderr)
    (issuesOfText_error root) (fun _ => ⟨_, List.mem_singleton_self _, rfl⟩) (announcements_ne_nil he)

/-- Two lines that announce a number of errors each, written in so many nines. -/
def twoReports (nines : Nat) : List Char :=
  "Found ".toList ++ List.replicate nines '9' ++ " error".toList ++
    ("s\n".toList ++ ("Found ".toList ++ List.replicate nines '9' ++ " error".toList))

/-- The two lines hold neither the code of a diagnostic nor a colon. -/
theorem ne_of_mem_twoReports {nines : Nat} {c : Char} (h : c ∈ twoReports nines) : c ≠ 'T' ∧ c ≠ ':' := by
  have hfound : ∀ d ∈ "Found ".toList, d ≠ 'T' ∧ d ≠ ':' := by simp
  have hnines : ∀ d ∈ List.replicate nines '9', d ≠ 'T' ∧ d ≠ ':' := fun d hd => by
    rw [List.eq_of_mem_replicate hd]
    decide
  have herror : ∀ d ∈ " error".toList, d ≠ 'T' ∧ d ≠ ':' := by simp
  have hbetween : ∀ d ∈ "s\n".toList, d ≠ 'T' ∧ d ≠ ':' := by simp
  have hreport : ∀ d ∈ "Found ".toList ++ List.replicate nines '9' ++ " error".toList, d ≠ 'T' ∧ d ≠ ':' := by
    intro d hd
    rcases List.mem_append.mp hd with hd | hd
    · rcases List.mem_append.mp hd with hd | hd
      · exact hfound d hd
      · exact hnines d hd
    · exact herror d hd
  rcases List.mem_append.mp h with h | h
  · exact hreport c h
  · rcases List.mem_append.mp h with h | h
    · exact hbetween c h
    · exact hreport c h

/-- The runs of digits in the two lines are the nines. -/
theorem runsWithin_twoReports {nines : Nat} (h : 12 ≤ nines) : RunsWithin nines (twoReports nines) := by
  have hsplit : twoReports nines = "Found".toList ++ ' ' :: (List.replicate nines '9' ++
      ' ' :: ("errors\nFound".toList ++ ' ' :: (List.replicate nines '9' ++ ' ' :: "error".toList))) := by
    unfold twoReports
    rw [List.append_assoc, List.append_assoc, List.append_assoc]
    rfl
  have hword : ∀ {word : List Char}, word.length ≤ 12 → RunsWithin nines word :=
    fun hl => .of_length_le (Nat.le_trans hl h)
  have hnines : RunsWithin nines (List.replicate nines '9') :=
    .of_length_le (Nat.le_of_eq List.length_replicate)
  have hspace : isDecimal ' ' = false := by decide
  rw [hsplit]
  refine (hword (by decide +kernel)).append_cons hspace (hnines.append_cons hspace ?_)
  refine (hword (by decide +kernel)).append_cons hspace (hnines.append_cons hspace ?_)
  exact hword (by decide +kernel)

/-- No line of the two is taken for an error by itself. -/
theorem findsNothing_twoReports (root : Option String) (nines : Nat) :
    (dialect root).FindsNothing (String.ofList (twoReports nines)) "" := by
  have hletter : ∀ {letter : Char} {phrase line : List Char}, letter ∈ phrase →
      line ∈ lines (twoReports nines) → phrase <:+: line → letter ∈ twoReports nines :=
    fun hm hl hp => (hp.trans (isInfix_of_mem_lines hl)).subset hm
  have hsilent : (lines (twoReports nines)).filter speaksOfError = [] := by
    refine List.filter_eq_nil_iff.mpr fun line hline hspeaks => ?_
    rcases Bool.or_eq_true_iff.mp hspeaks with h | h
    · exact (ne_of_mem_twoReports (hletter (by decide) hline (occurs_iff.mp h))).1 rfl
    · exact (ne_of_mem_twoReports (hletter (by decide) hline (occurs_iff.mp h))).2 rfl
  have hfull : ¬allBlank (twoReports nines) = true := by
    intro hall
    have hblank := List.all_eq_true.mp hall 'F' (List.mem_append_left _ (by simp))
    exact absurd hblank (by decide)
  have htext : (String.ofList (twoReports nines) ++ "").toList = twoReports nines := by
    rw [String.append_empty, String.toList_ofList]
  have hread : (dialect root).read (String.ofList (twoReports nines)) "" =
      .ok (.text (String.ofList (twoReports nines) ++ "")) := by
    refine congrArg Except.ok (if_neg ?_)
    rw [Dialect.bothStreams, htext]
    exact hfull
  have hscan : (dialect root).ofText (String.ofList (twoReports nines) ++ "") = .ok [] := by
    unfold dialect issuesOfText
    dsimp only
    rw [htext, hsilent]
    rfl
  exact .inr ⟨_, hread, hscan⟩

/-- The two lines announce more errors than one number of as many digits can say. -/
theorem pow_le_total_twoReports (root : Option String) {nines : Nat} (h : 0 < nines) :
    10 ^ nines ≤ (dialect root).total (String.ofList (twoReports nines)) := by
  obtain ⟨n, rfl⟩ : ∃ n, nines = n + 1 := ⟨nines - 1, by omega⟩
  let report : List Char := "Found ".toList ++ List.replicate (n + 1) '9' ++ " error".toList
  let found : Option (List Char) := some (List.replicate (n + 1) '9')
  have hnines : ∀ d ∈ List.replicate n '9', isDecimal d = true := fun d hd => by
    rw [List.eq_of_mem_replicate hd]
    decide
  have hreport : ∀ before back, (dialect root).announcement before (report ++ back) = some found :=
    foundCount_append rfl (by decide) hnines (by decide)
  have hworth : 10 ^ (n + 1) = Dialect.worth found + 1 := by
    obtain ⟨values, hvalues, hvalue⟩ := exists_values_of_nines (n + 1)
    rw [Dialect.worth_of_mapM hvalues, hvalue]
  -- The first report is seen where the text starts, the second one further on.
  obtain ⟨more, hmore⟩ : ∃ more, report = 'F' :: more := ⟨_, rfl⟩
  obtain ⟨rest, hrest⟩ : ∃ rest, rest = "s\n".toList ++ report := ⟨_, rfl⟩
  have hsplit : report ++ rest = 'F' :: (more ++ rest) := congrArg (· ++ rest) hmore
  have hfirst := hreport none rest
  rw [hsplit] at hfirst
  have hseen : (dialect root).announcements (String.ofList (twoReports (n + 1))) =
      found :: sightings (dialect root).announcement (some 'F') (more ++ rest) := by
    have htext : twoReports (n + 1) = 'F' :: (more ++ rest) := by
      rw [← hsplit, hrest]
      rfl
    unfold Dialect.announcements
    rw [String.toList_ofList, htext, sightings, hfirst]
    rfl
  have hsecond : found ∈ sightings (dialect root).announcement (some 'F') (more ++ rest) := by
    refine exists_mem_sightings (hmore ▸ List.cons_ne_nil _ _) hreport ?_ _
    rw [hrest]
    exact ((List.suffix_append _ _).trans (List.suffix_append _ _)).isInfix
  obtain ⟨first, last, hlater⟩ := List.append_of_mem hsecond
  have hsum : (dialect root).total (String.ofList (twoReports (n + 1))) =
      Dialect.worth found + ((first.map Dialect.worth).sum + (Dialect.worth found + (last.map Dialect.worth).sum)) := by
    rw [Dialect.total, hseen, hlater, List.map_cons, List.sum_cons, List.map_append, List.sum_append_nat,
      List.map_cons, List.sum_cons]
  have hlarge : 10 ≤ 10 ^ (n + 1) := Nat.le_self_pow (Nat.succ_ne_zero n) 10
  omega

/-- With as many nines as a number may have digits the two lines announce too many errors. -/
theorem overflows_twoReports (root : Option String) :
    (dialect root).Overflows (String.ofList (twoReports writableDigits)) "" := by
  have hpow : ∀ nines, 0 < nines →
      Nat.pow 10 nines ≤ (dialect root).total (String.ofList (twoReports nines) ++ "") := by
    intro nines hn
    rw [String.append_empty]
    exact pow_le_total_twoReports root hn
  refine ⟨findsNothing_twoReports root writableDigits, ?_⟩
  unfold unwritable
  exact hpow writableDigits (by decide)

end TypeScript

/-! ## Circles -/

namespace Madge

/-- The text about circles shows one: a line other than a notice of progress holds an arrow
or is a numbered row, or a number of circles is announced. -/
def IsEvident (stdout : String) : Prop :=
  (∃ line ∈ lines stdout.toList, "Processed".toList.isPrefixOf line = false ∧
      (occurs ['→'] line = true ∨ occurs ['-', '>'] line = true ∨ (numberedCircle? line).isSome)) ∨
    circular.announcements stdout ≠ []

/-- Nothing is numbered in a blank line. -/
theorem numberedCircle?_of_allBlank {line : List Char} (h : allBlank line = true) :
    numberedCircle? line = none := by
  unfold numberedCircle?
  rw [trimStart_of_allBlank h]
  rfl

/-- A line with an arrow or a numbered row is not blank. -/
theorem allBlank_of_circle {line : List Char}
    (h : occurs ['→'] line = true ∨ occurs ['-', '>'] line = true ∨ (numberedCircle? line).isSome) :
    allBlank line = false := by
  rw [Bool.eq_false_iff]
  intro hb
  rcases h with h | h | h
  · exact absurd (allBlank_of_isInfix hb (occurs_iff.mp h)) (by decide)
  · exact absurd (allBlank_of_isInfix hb (occurs_iff.mp h)) (by decide)
  · rw [numberedCircle?_of_allBlank hb] at h
    cases h

/-- A line with an arrow or a numbered row that is no notice of progress gives a circle. -/
theorem circleOfLine?_ne_none {line : List Char} (hp : "Processed".toList.isPrefixOf line = false)
    (h : occurs ['→'] line = true ∨ occurs ['-', '>'] line = true ∨ (numberedCircle? line).isSome) :
    circleOfLine? line ≠ none := by
  unfold circleOfLine?
  rw [hp, if_neg Bool.false_ne_true]
  split
  · exact Option.some_ne_none _
  · next hnone =>
    have harrow : (occurs ['→'] line || occurs ['-', '>'] line) = true := by
      rcases h with h | h | h
      · exact Bool.or_eq_true_iff.mpr (.inl h)
      · exact Bool.or_eq_true_iff.mpr (.inr h)
      · rw [hnone] at h
        cases h
    rw [if_pos harrow]
    exact Option.some_ne_none _

/-- What the scan passes over is announced. -/
theorem announcements_ne_nil {stdout stderr : String} (he : IsEvident stdout)
    (hn : circular.FindsNothing stdout stderr) : circular.announcements stdout ≠ [] := by
  rcases he with ⟨line, hline, hp, hcircle⟩ | he
  · have hblank := allBlank_of_mem_lines hline (allBlank_of_circle hcircle)
    have hnone := List.map_eq_nil_iff.mp (Except.ok.inj (hn.ofText_stdout rfl hblank))
    exact absurd (List.filterMap_eq_nil_iff.mp hnone line hline) (circleOfLine?_ne_none hp hcircle)
  · exact he

end Madge

/-! ## All four tools -/

/-- Evident findings are accounted for in the text of each of the four tools, whatever
stands on the two streams. -/
structure AccountsForText (root : Option String) (stdout stderr : String) : Prop where
  /-- A line or an announcement of oxlint gives an issue. -/
  oxlint : (Oxlint.dialect root).IsUnstructured stdout stderr →
    (Oxlint.dialect root).Accounts stdout stderr (Oxlint.IsEvident stdout) (· ≠ [])
  /-- So does a word of knip. -/
  knip : (Knip.dialect root).IsUnstructured stdout stderr →
    (Knip.dialect root).Accounts stdout stderr (Knip.IsEvident stdout) (· ≠ [])
  /-- In the text of knip the scan itself finds what is evident. -/
  knipFinds : Knip.IsEvident stdout → ¬(Knip.dialect root).FindsNothing stdout stderr
  /-- A diagnostic or an announcement of the compiler gives an error. -/
  typeScript : (TypeScript.dialect root).Accounts stdout stderr
    (TypeScript.IsEvident (stdout ++ stderr).toList) fun found => ∃ issue ∈ found, issue.severity = .error
  /-- So the check of the compiler's output has failed. -/
  typeScriptFails : TypeScript.IsEvident (stdout ++ stderr).toList →
    ¬(TypeScript.dialect root).Overflows stdout stderr → ∀ duration, ∃ check,
      (TypeScript.dialect root).check stdout stderr duration = .ok check ∧ check.status = .fail
  /-- A circle or an announcement of circles gives an error. -/
  circular : Madge.circular.IsUnstructured stdout stderr →
    Madge.circular.Accounts stdout stderr (Madge.IsEvident stdout)
      fun found => ∃ issue ∈ found, issue.severity = .error

namespace AccountsForText

variable {root : Option String} {stdout stderr : String}

/-- The errors that the compiler's text shows are accounted for. -/
theorem of_typeScript (h : Value.isBadRoot root = false) (stdout stderr : String) :
    (TypeScript.dialect root).Accounts stdout stderr (TypeScript.IsEvident (stdout ++ stderr).toList)
      fun found => ∃ issue ∈ found, issue.severity = .error :=
  Dialect.accounts (isCounting_foundCount _) rfl (TypeScript.isUnstructured root stdout stderr)
    (TypeScript.issuesOfText_succeeds h) (TypeScript.issuesOfText_error root)
    (fun _ => ⟨_, List.mem_singleton_self _, rfl⟩) TypeScript.announcements_ne_nil

/-- A check with an error among its issues has failed. -/
theorem fails_of_typeScript (h : Value.isBadRoot root = false)
    (he : TypeScript.IsEvident (stdout ++ stderr).toList)
    (ho : ¬(TypeScript.dialect root).Overflows stdout stderr) (duration : Int) :
    ∃ check, (TypeScript.dialect root).check stdout stderr duration = .ok check ∧ check.status = .fail := by
  obtain ⟨found, hfound, herror⟩ := (of_typeScript h stdout stderr).shown he ho
  exact ⟨_, bind_eq_ok_iff.mpr ⟨found, hfound, rfl⟩, (Status.ofIssues_eq_fail_iff found).mpr herror⟩

end AccountsForText

/-- Output without a known structure is never taken for clean where its text shows a finding,
unless it announces more findings than a number can say. -/
theorem accountsForText {root : Option String} (h : Value.isBadRoot root = false)
    (stdout stderr : String) : AccountsForText root stdout stderr where
  oxlint hu := by
    refine Dialect.accounts (isCounting_countedCaseless _) rfl hu (fun text => .ok _) ?_ ?_ ?_
    · exact fun text found _ hne => hne
    · exact fun count => List.cons_ne_nil _ _
    · exact Oxlint.announcements_ne_nil
  knip hu := by
    refine Dialect.accounts (isCounting_of_forall (wholeWordCaseless_ne_some _)) rfl hu
      (Knip.issuesOfText_succeeds h) ?_ ?_ ?_
    · exact fun text found _ hne => hne
    · exact fun count => List.cons_ne_nil _ _
    · exact fun he hn => absurd hn (Knip.not_findsNothing he)
  knipFinds := Knip.not_findsNothing
  typeScript := AccountsForText.of_typeScript h stdout stderr
  typeScriptFails he ho := AccountsForText.fails_of_typeScript h he ho
  circular hu := by
    refine Dialect.accounts (isCounting_foundCountCaseless _) rfl hu (fun text => .ok _) ?_ ?_ ?_
    · intro text found hfound hne
      obtain ⟨issue, hissue⟩ := List.exists_mem_of_ne_nil found hne
      cases hfound
      obtain ⟨circle, -, rfl⟩ := List.mem_map.mp hissue
      exact ⟨_, hissue, rfl⟩
    · exact fun count => ⟨_, List.mem_singleton_self _, rfl⟩
    · exact Madge.announcements_ne_nil

/-- A line that sums up gives no issue of its own: the one issue says the sum of its numbers. -/
theorem accountsForText_summary_line :
    Value.isBadRoot (some "/repo") = false ∧
      (Oxlint.dialect (some "/repo")).issues "Found 3 warnings and 2 errors.\n" "" =
        .ok [(Oxlint.dialect (some "/repo")).unreadIssue 5] := by
  have hread : (Oxlint.dialect (some "/repo")).read "Found 3 warnings and 2 errors.\n" "" =
      .ok (.text "Found 3 warnings and 2 errors.\n") := rfl
  have hunstructured : (Oxlint.dialect (some "/repo")).IsUnstructured "Found 3 warnings and 2 errors.\n" "" := by
    intro schema payload hr
    rw [hread] at hr
    cases hr
  have hseen : (Oxlint.dialect none).announcements "Found 3 warnings and 2 errors.\n" =
      [some ['3'], some ['2']] := rfl
  have hevident : Oxlint.IsEvident "Found 3 warnings and 2 errors.\n" := by
    refine .inr ?_
    rw [hseen]
    exact List.cons_ne_nil _ _
  have hfits : ¬(Oxlint.dialect (some "/repo")).Overflows "Found 3 warnings and 2 errors.\n" "" :=
    fun ho => Nat.not_lt.mpr ho.2 (lt_unwritable (by decide))
  have hroot : Value.isBadRoot (some "/repo") = false := by
    simp [Value.isBadRoot]
  exact ⟨hroot, ((accountsForText hroot _ "").oxlint hunstructured).counted hevident
    (.inr ⟨_, hread, rfl⟩) hfits⟩

/-- Two numbers that can each be written but not their sum: the compiler's text shows errors,
and no check comes of it. -/
theorem check_two_reports :
    let stdout := String.ofList (TypeScript.twoReports maxDigits)
    RunsWithin maxDigits (stdout ++ "").toList ∧ TypeScript.IsEvident (stdout ++ "").toList ∧
      (TypeScript.dialect none).IsUnstructured stdout "" ∧
      ∀ duration check, (TypeScript.dialect none).check stdout "" duration ≠ .ok check := by
  have htext : (String.ofList (TypeScript.twoReports maxDigits) ++ "").toList =
      TypeScript.twoReports maxDigits := by
    rw [String.append_empty, String.toList_ofList]
  dsimp only
  rw [htext]
  refine ⟨TypeScript.runsWithin_twoReports (by decide), .inr (.inr ?_), TypeScript.isUnstructured none _ _, ?_⟩
  · refine ⟨'9', List.replicate (maxDigits - 1) '9', by decide, fun d hd => ?_, ?_⟩
    · rw [List.eq_of_mem_replicate hd]
      decide
    · exact (List.prefix_append _ _).isInfix
  · intro duration check hcheck
    obtain ⟨found, hfound, -⟩ := bind_eq_ok_iff.mp hcheck
    have hroot : Value.isBadRoot none = false := rfl
    have hfaults := (AccountsForText.of_typeScript hroot
      (String.ofList (TypeScript.twoReports maxDigits)) "").overflowing
    obtain ⟨fault, hfault⟩ := hfaults.fails .tooLongNumber ⟨TypeScript.overflows_twoReports none, rfl⟩
    rw [hfound] at hfault
    cases hfault

end Checkup
