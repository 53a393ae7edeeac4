import Checkup.Dialect.Architecture
import Checkup.Dialect.Jscpd
import Checkup.Dialect.Knip
import Checkup.Dialect.Madge
import Checkup.Dialect.TypeScript
import Checkup.Folder.Survey
import Checkup.Proofs.Announcements
import Checkup.Proofs.Outcomes
import Checkup.Source.Profile

/-!
# What issues are made of

Every issue has a text for its message, and its rule is a text, too, or absent.
Only the documents of the two linters may name rules of another kind, so they are
left out here.
-/

namespace Checkup

/-- A value that counts as given and is no text. -/
def Value.IsOdd (value : Value) : Prop := value.isGiven = true ∧ value.isText = false

/-- A text is not odd. -/
theorem Value.not_isOdd_text (text : String) : ¬(Value.text text).IsOdd := by
  rintro ⟨-, h⟩
  cases h

/-- The absent value is not odd. -/
theorem Value.not_isOdd_null : ¬Value.null.IsOdd := by
  rintro ⟨h, -⟩
  cases h

/-- A text that may be missing is not odd. -/
theorem Value.not_isOdd_ofText? (text : Option String) : ¬(Value.ofText? text).IsOdd := by
  cases text with
  | none => exact not_isOdd_null
  | some text => exact not_isOdd_text text

/-- An issue with a text for its message, and for its rule if it has one. -/
structure Issue.IsOrderly (issue : Issue) : Prop where
  message : issue.message.isText = true
  rule : ¬issue.rule.IsOdd

/-- An issue with a text for its message and one for its rule. -/
theorem Issue.IsOrderly.ofTexts {issue : Issue} {message rule : String}
    (hm : issue.message = .text message) (hr : issue.rule = .text rule) : issue.IsOrderly :=
  ⟨by rw [hm]; rfl, by rw [hr]; exact Value.not_isOdd_text rule⟩

/-- An issue with a text for its message and no rule. -/
theorem Issue.IsOrderly.ofMessage {issue : Issue} {message : String}
    (hm : issue.message = .text message) (hr : issue.rule = .null) : issue.IsOrderly :=
  ⟨by rw [hm]; rfl, by rw [hr]; exact Value.not_isOdd_null⟩

/-- What is counted once at most among the issues of each member is counted once for each member that has it. -/
theorem Issue.countP_flatMap_once {α : Type} {members : List α} {issues : α → List Issue} {counts : Issue → Bool}
    {has : α → Bool} (h : ∀ member, (issues member).countP counts = if has member then 1 else 0) :
    (members.flatMap issues).countP counts = members.countP has := by
  induction members with
  | nil => rfl
  | cons member members ih => rw [List.flatMap_cons, List.countP_append, h, ih, List.countP_cons, Nat.add_comm]

/-- Every issue of some is orderly. -/
def AllOrderly (issues : List Issue) : Prop := ∀ issue ∈ issues, issue.IsOrderly

namespace AllOrderly

/-- No issue is out of order where there are none. -/
theorem nil : AllOrderly [] := by
  intro issue hi
  cases hi

/-- One orderly issue. -/
theorem singleton {issue : Issue} (h : issue.IsOrderly) : AllOrderly [issue] := by
  intro each he
  rw [List.mem_singleton.mp he]
  exact h

/-- An orderly issue before others. -/
theorem cons {issue : Issue} {issues : List Issue} (h : issue.IsOrderly) (hs : AllOrderly issues) :
    AllOrderly (issue :: issues) := by
  intro each he
  rcases List.mem_cons.mp he with rfl | he
  · exact h
  · exact hs each he

/-- Orderly issues behind others. -/
theorem append {issues further : List Issue} (h : AllOrderly issues) (hf : AllOrderly further) :
    AllOrderly (issues ++ further) := by
  intro each he
  rcases List.mem_append.mp he with he | he
  · exact h each he
  · exact hf each he

/-- Orderly issues in either case. -/
theorem ite {c : Prop} [Decidable c] {issues further : List Issue} (h : AllOrderly issues)
    (hf : AllOrderly further) : AllOrderly (if c then issues else further) := by
  split
  · exact h
  · exact hf

/-- One orderly issue about each of some things. -/
theorem map {α : Type} {make : α → Issue} (h : ∀ item, (make item).IsOrderly) (items : List α) :
    AllOrderly (items.map make) := by
  intro issue hi
  obtain ⟨item, -, rfl⟩ := List.mem_map.mp hi
  exact h item

/-- Orderly issues about each of some things. -/
theorem flatMap {α : Type} {make : α → List Issue} (h : ∀ item, AllOrderly (make item)) (items : List α) :
    AllOrderly (items.flatMap make) := by
  intro issue hi
  obtain ⟨item, -, hissue⟩ := List.mem_flatMap.mp hi
  exact h item issue hissue

/-- Lists of orderly issues in one. -/
theorem flatten {lists : List (List Issue)} (h : ∀ issues ∈ lists, AllOrderly issues) :
    AllOrderly lists.flatten := by
  intro issue hi
  obtain ⟨issues, hm, hissue⟩ := List.mem_flatten.mp hi
  exact h issues hm issue hissue

/-- An orderly issue about some of the things. -/
theorem filterMap {α : Type} {make : α → Option Issue}
    (h : ∀ item issue, make item = some issue → issue.IsOrderly) (items : List α) :
    AllOrderly (items.filterMap make) := by
  intro issue hi
  obtain ⟨item, -, hissue⟩ := List.mem_filterMap.mp hi
  exact h item issue hissue

/-- Steps that give orderly issues give a list of them. -/
theorem mapM {α : Type} {step : α → Outcome Issue} (h : ∀ item, Gives (step item) Issue.IsOrderly)
    (items : List α) : Gives (items.mapM step) AllOrderly := Gives.mapM h items

end AllOrderly

/-- All issues have texts for their messages. -/
def AllSpoken (issues : List Issue) : Prop := ∀ issue ∈ issues, issue.message.isText = true

/-- Orderly issues have texts for their messages. -/
theorem AllOrderly.allSpoken {issues : List Issue} (h : AllOrderly issues) : AllSpoken issues :=
  fun issue hi => (h issue hi).message

/-- No rule of orderly issues is odd. -/
theorem AllOrderly.not_isOdd {issues : List Issue} (h : AllOrderly issues) :
    ¬∃ issue ∈ issues, issue.rule.IsOdd := by
  rintro ⟨issue, hi, hodd⟩
  exact (h issue hi).rule hodd

/-! ## Dialects -/

namespace Dialect

variable {Payload : Type} {dialect : Dialect Payload}

/-- The issue about findings that a text announces is orderly. -/
theorem unread_orderly (text : String) : Gives (dialect.unread text) AllOrderly :=
  dialect.unread_gives_of .nil (fun _ => .singleton (.ofTexts rfl rfl)) text

/-- Scanned output has a property if the issues of its lines and the one about
announced findings have it. -/
theorem scanned_gives {holds : List Issue → Prop} (ht : ∀ text, Gives (dialect.ofText text) holds)
    (hu : ∀ text, Gives (dialect.unread text) holds) (text scanned : String) :
    Gives (do
      let found ← dialect.ofText text
      if found.isEmpty then dialect.unread scanned else .ok found) holds := by
  refine .bind_of (ht text) fun found hfound => ?_
  split
  · exact hu _
  · exact .ok hfound

/-- Output has a property if its structure has it, and if scanning has it. -/
theorem issues_gives {holds : List Issue → Prop}
    (hs : ∀ schema payload, Gives (dialect.ofStructured schema payload) holds)
    (ht : ∀ text, Gives (dialect.ofText text) holds) (hu : ∀ text, Gives (dialect.unread text) holds)
    (stdout stderr : String) : Gives (dialect.issues stdout stderr) holds := by
  refine .bind fun reading => ?_
  cases reading with
  | structured schema payload => exact hs schema payload
  | text text => exact scanned_gives ht hu text _
  | empty => exact hu _

/-- Output gives orderly issues if both its structure and its text do. -/
theorem issues_orderly (hs : ∀ schema payload, Gives (dialect.ofStructured schema payload) AllOrderly)
    (ht : ∀ text, Gives (dialect.ofText text) AllOrderly) (stdout stderr : String) :
    Gives (dialect.issues stdout stderr) AllOrderly :=
  issues_gives hs ht unread_orderly stdout stderr

/-- If scanning gives orderly issues, an odd rule can only come from the structure. -/
theorem exists_isOdd_iff (ht : ∀ text, Gives (dialect.ofText text) AllOrderly) (stdout stderr : String) :
    (∃ issues, dialect.issues stdout stderr = .ok issues ∧ ∃ issue ∈ issues, issue.rule.IsOdd) ↔
      ∃ schema payload issues, dialect.read stdout stderr = .ok (.structured schema payload) ∧
        dialect.ofStructured schema payload = .ok issues ∧ ∃ issue ∈ issues, issue.rule.IsOdd := by
  constructor
  · rintro ⟨issues, hissues, hodd⟩
    obtain ⟨reading, hread, hissues⟩ := bind_eq_ok_iff.mp hissues
    cases reading with
    | structured schema payload => exact ⟨schema, payload, issues, hread, hissues, hodd⟩
    | text text => exact absurd hodd (scanned_gives ht unread_orderly text _ issues hissues).not_isOdd
    | empty => exact absurd hodd (unread_orderly _ issues hissues).not_isOdd
  · rintro ⟨schema, payload, issues, hread, hissues, hodd⟩
    exact ⟨issues, bind_eq_ok_iff.mpr ⟨_, hread, hissues⟩, hodd⟩

end Dialect

/-- The issues that architecture boundaries give are orderly. -/
theorem Architecture.issues_orderly (root : Option String) (stdout stderr : String) :
    Gives ((Architecture.dialect root).issues stdout stderr) AllOrderly := by
  refine Dialect.issues_orderly ?_ ?_ stdout stderr
  · intro schema payload
    refine .mapM (fun violation => ?_) _
    exact .bind fun _ => .bind fun _ => .bind fun _ => .ok (.ofTexts rfl rfl)
  · exact fun text => .ok (.map (fun line => .ofTexts rfl rfl) _)

/-- The issues that the compiler gives are orderly. -/
theorem TypeScript.issues_orderly (root : Option String) (stdout stderr : String) :
    Gives ((TypeScript.dialect root).issues stdout stderr) AllOrderly := by
  refine Dialect.issues_orderly ?_ ?_ stdout stderr
  · exact fun schema payload => .ok .nil
  · intro text
    refine .mapM (fun line => ?_) _
    unfold TypeScript.issueOf
    split
    · exact .bind fun _ => .bind fun _ => .ok (.ofTexts rfl rfl)
    · exact .ok (.ofMessage rfl rfl)

/-- An issue about an orphan is orderly. -/
theorem Madge.orphanIssue_orderly (base : List Char) (root : Option String) (orphan : List Char) :
    Gives (Madge.orphanIssue base root orphan) Issue.IsOrderly :=
  .bind fun _ => .ok (.ofTexts rfl rfl)

/-- The issues about orphans are orderly. -/
theorem Madge.orphans_orderly (base : String) (root : Option String) (stdout stderr : String) :
    Gives ((Madge.orphans base root).issues stdout stderr) AllOrderly := by
  refine Dialect.issues_orderly ?_ ?_ stdout stderr
  · exact fun schema payload => .mapM (fun item => Madge.orphanIssue_orderly _ root _) _
  · exact fun text => .mapM (fun orphan => Madge.orphanIssue_orderly _ root orphan) _

/-- The issues about circles are orderly. -/
theorem Madge.circular_orderly (stdout stderr : String) :
    Gives (Madge.circular.issues stdout stderr) AllOrderly := by
  refine Dialect.issues_orderly ?_ ?_ stdout stderr
  · exact fun schema payload => .ok (.map (fun circle => .ofTexts rfl rfl) _)
  · exact fun text => .ok (.map (fun circle => .ofTexts rfl rfl) _)

/-- The issue of a duplicate is orderly. -/
theorem Jscpd.issueOf_orderly (root : Option String) (duplicate : Jscpd.Duplicate) :
    Gives (Jscpd.issueOf root duplicate) Issue.IsOrderly :=
  .bind fun _ => .bind fun _ => .ok (.ofTexts rfl rfl)

/-- The issues about duplicates are orderly. -/
theorem Jscpd.issues_orderly (root : Option String) (stdout stderr : String) :
    Gives ((Jscpd.dialect root).issues stdout stderr) AllOrderly := by
  refine Dialect.issues_orderly ?_ ?_ stdout stderr
  · exact fun schema clones => .mapM (fun duplicate => Jscpd.issueOf_orderly root duplicate) _
  · exact fun text => .bind fun _ => .mapM (fun duplicate => Jscpd.issueOf_orderly root duplicate) _

/-- The issue about the overall duplication is orderly. -/
theorem Jscpd.statisticsIssues_orderly (text : String) : Gives (Jscpd.statisticsIssues text) AllOrderly := by
  unfold Jscpd.statisticsIssues
  split
  · exact .ok .nil
  · refine .bind fun percentage => ?_
    split
    · exact .ok .nil
    · split
      · exact .ok .nil
      · exact .ok (.singleton (.ofTexts rfl rfl))

namespace Knip

/-- The issues about unused files are orderly. -/
theorem fileIssues_orderly (root : Option String) (payload : Entries) :
    Gives (fileIssues root payload) AllOrderly :=
  .mapM (fun _ => .bind fun _ => .ok (.ofTexts rfl rfl)) _

/-- The issues of one category are orderly. -/
theorem categoryIssues_orderly (file : Value) (entry : Entries) (key : String) (category : Category) :
    Gives (categoryIssues file entry key category) AllOrderly :=
  .mapM (fun _ => .bind fun _ => .ok (.ofTexts rfl rfl)) _

/-- The issues about names that are exported twice are orderly. -/
theorem duplicateIssues_orderly (file : Value) (entry : Entries) :
    AllOrderly (duplicateIssues file entry) := by
  refine .filterMap (fun group issue hi => ?_) _
  dsimp only at hi
  split at hi
  · cases hi
    exact .ofTexts rfl rfl
  · cases hi

/-- The issues about one file are orderly. -/
theorem entryIssues_orderly (root : Option String) (entry : Entries) :
    Gives (entryIssues root entry) AllOrderly := by
  refine .bind fun file => ?_
  have hrow : ∀ row : String × Category,
      Gives (categoryIssues file entry row.1 row.2) AllOrderly :=
    fun row => categoryIssues_orderly file entry row.1 row.2
  refine .bind_of (.mapM hrow _) fun found hfound => ?_
  exact .ok (.append (.flatten hfound) (duplicateIssues_orderly file entry))

/-- The issues of the older schema are orderly. -/
theorem legacyIssues_orderly (root : Option String) (payload : Entries) :
    Gives (legacyIssues root payload) AllOrderly := by
  refine .bind_of (AllOrderly.mapM (fun _ => .bind fun _ => .ok (.ofTexts rfl rfl)) _)
    fun exports hexports => ?_
  have hdependencies : ∀ key category, AllOrderly (dependencyIssues payload key category) :=
    fun key category => .map (fun _ => .ofTexts rfl rfl) _
  exact .ok (.append (.append hexports (hdependencies _ _)) (hdependencies _ _))

/-- The issues of a document are orderly. -/
theorem issuesOfDocument_orderly (root : Option String) (schema : String) (payload : Value) :
    Gives (issuesOfDocument root schema payload) AllOrderly := by
  unfold issuesOfDocument
  split
  · next entries =>
    refine .bind_of (fileIssues_orderly root entries) fun found hfound => ?_
    have hnewer : Gives
        (List.flatten <$> (Entries.get entries "issues").mappings.mapM (entryIssues root)) AllOrderly :=
      .bind_of (.mapM (entryIssues_orderly root) _) fun lists hlists => .ok (.flatten hlists)
    dsimp only
    split
    · exact .bind_of hnewer fun further hfurther => .ok (.append hfound hfurther)
    · exact .bind_of (legacyIssues_orderly root entries) fun further hfurther =>
        .ok (.append hfound hfurther)
  · exact .ok .nil

/-- The issue of a row is orderly. -/
theorem rowIssue_orderly (root : Option String) (category : Category) (row : List Char) :
    Gives (rowIssue root category row) Issue.IsOrderly := by
  unfold rowIssue
  dsimp only
  split
  · exact .bind fun _ => .ok (.ofTexts rfl rfl)
  · split
    · split
      · exact .bind fun _ => .bind fun _ => .ok (.ofTexts rfl rfl)
      · exact .ok (.ofTexts rfl rfl)
    · exact .ok (.ofTexts rfl rfl)

/-- The issues of the rows of a text are orderly, whichever section is open. -/
theorem sectionIssues_orderly (root : Option String) (category : Option Category)
    (lines : List (List Char)) : Gives (sectionIssues root category lines) AllOrderly := by
  induction lines generalizing category with
  | nil =>
    rw [sectionIssues]
    exact .ok .nil
  | cons line lines ih =>
    rw [sectionIssues.eq_def]
    dsimp only
    split
    · exact ih _
    · split
      · exact ih _
      · split
        · exact ih _
        · next known =>
          refine .bind_of (rowIssue_orderly root known _) fun issue hissue => ?_
          exact .bind_of (ih _) fun issues hissues => .ok (.cons hissue hissues)

/-- The issues about dead code are orderly. -/
theorem issues_orderly (root : Option String) (stdout stderr : String) :
    Gives ((dialect root).issues stdout stderr) AllOrderly := by
  refine Dialect.issues_orderly (issuesOfDocument_orderly root) ?_ stdout stderr
  intro text
  refine .bind_of (sectionIssues_orderly root none _) fun found hfound => .ok ?_
  split
  · exact .map (fun _ => .ofMessage rfl rfl) _
  · exact hfound

end Knip

/-! ## Source files and folders -/

namespace Source.Profile

/-- An issue about a file is orderly. -/
theorem issue_orderly (profile : Profile) (severity : Severity) (message rule fix : String) :
    (profile.issue severity message rule fix).IsOrderly := .ofTexts rfl rfl

/-- An issue about a file, where there is one, is orderly. -/
theorem single_orderly (profile : Profile) (severity : Severity) (message rule fix : String) :
    AllOrderly [profile.issue severity message rule fix] :=
  .singleton (profile.issue_orderly severity message rule fix)

/-- The issue about a pattern is orderly. -/
theorem patternIssues_orderly (profile : Profile) (pattern : Pattern) :
    AllOrderly (profile.patternIssues pattern) := by
  unfold patternIssues
  refine .ite ?_ .nil
  cases pattern with
  | inlineErrorBoundary => exact profile.single_orderly _ _ _ _
  | multipleComponents => exact profile.single_orderly _ _ _ _
  | deepNesting => exact profile.single_orderly _ _ _ _
  | mixedConcerns => exact profile.single_orderly _ _ _ _

/-- The issues about components are orderly. -/
theorem componentIssues_orderly (profile : Profile) : AllOrderly profile.componentIssues := by
  have hhook : AllOrderly profile.hookIssues :=
    .ite (profile.single_orderly _ _ _ _) (.ite (profile.single_orderly _ _ _ _) .nil)
  have heffect : AllOrderly profile.effectIssues := .ite (profile.single_orderly _ _ _ _) .nil
  have hmemo : AllOrderly profile.memoIssues := .ite (profile.single_orderly _ _ _ _) .nil
  exact .ite (.append (.append hhook heffect) hmemo) .nil

/-- The issues about a file are orderly. -/
theorem issues_orderly (profile : Profile) : AllOrderly profile.issues := by
  have hsize : AllOrderly profile.sizeIssues :=
    .ite (profile.single_orderly _ _ _ _) (.ite (profile.single_orderly _ _ _ _) .nil)
  have hpattern := profile.patternIssues_orderly
  have hfunction : AllOrderly profile.functionIssues := .map (fun _ => profile.issue_orderly _ _ _ _) _
  have hfront := (hsize.append profile.componentIssues_orderly).append (hpattern .inlineErrorBoundary)
  have hmiddle := (hfront.append (hpattern .multipleComponents)).append hfunction
  exact (hmiddle.append (hpattern .deepNesting)).append (hpattern .mixedConcerns)

end Source.Profile

namespace Folder

/-- An issue about a folder, where there is one, is orderly. -/
theorem single_orderly (folder : Folder) (severity : Severity) (message rule fix : String) :
    AllOrderly [folder.issue severity message rule fix] :=
  .singleton (.ofTexts rfl rfl)

/-- The issues about a folder are orderly. -/
theorem issues_orderly (folder : Folder) : AllOrderly folder.issues := by
  have hdepth : AllOrderly folder.depthIssues :=
    .ite (folder.single_orderly _ _ _ _) (.ite (folder.single_orderly _ _ _ _) .nil)
  have hcrowd : AllOrderly folder.crowdIssues :=
    .ite (folder.single_orderly _ _ _ _) (.ite (folder.single_orderly _ _ _ _) .nil)
  have hmixed : AllOrderly folder.mixedIssues := .ite (folder.single_orderly _ _ _ _) .nil
  exact (hdepth.append hcrowd).append hmixed

/-- The issues about features are orderly. -/
theorem featureIssues_orderly (tree : FileTree) (root base : Path) :
    AllOrderly (featureIssues tree root base) := by
  unfold featureIssues
  dsimp only
  split
  · refine .filterMap (fun name issue hi => ?_) _
    unfold featureIssue? at hi
    dsimp only at hi
    split at hi
    · split at hi
      · cases hi
        exact .ofTexts rfl rfl
      · cases hi
    · cases hi
  · exact .nil

end Folder

end Checkup
