import Checkup.Folder.Survey
import Checkup.Proofs.Outcomes
import Checkup.Proofs.Walks
import Mathlib.Data.List.Forall2

/-!
# Depths of folders

Every folder below the base folder is measured once, unless a name on the way says that it
is not entered. With a folder all those above it are measured, and before it; so wherever a
folder is too deep, the folders on the way to it are reported as well, each once.
-/

namespace Checkup.Folder

/-- The rule about the depth of folders. -/
def depthRule : String := "structure/deep-nesting"

/-- A folder lies below one with some entries, and no name on the way says that it is not entered. -/
def IsReached (entries : List (String × Node)) (names : List String) : Prop :=
  names ≠ [] ∧ (∀ name ∈ names, name ∉ ["node_modules", "_generated", ".git"]) ∧
    ∃ held, (Node.folder entries).at? names = some (.folder held)

/-- The measurements of a folder: how it is shown, the names on the way, and the entries in it
that are no folders. -/
structure Measures (tree : FileTree) (root base : Path) (entries : List (String × Node))
    (names : List String) (folder : Folder) : Prop where
  path : folder.path = Path.shown tree.workingFolder root (base.descend names)
  depth : folder.depth = names.length
  fileCount : ∃ held, (Node.folder entries).at? names = some (.folder held) ∧
    folder.fileCount = held.countP fun entry => !entry.2.isFolder

/-- The severity of the issue about a depth from five on. -/
def depthSeverity (depth : Nat) : Severity := if 7 ≤ depth then .error else .warning

variable {entries : List (String × Node)} {tree : FileTree} {root base : Path} {place : List String}

/-! ## The folders of a walk -/

/-- The visits of a walk to the folders below one with some entries. -/
def visitsIn (entries : List (String × Node)) : List Visit :=
  Node.visitsBelow (fun name => !ignoredNames.contains name) [] entries

/-- The measurements of a visited folder. -/
def ofVisitAt (tree : FileTree) (root base : Path) (visit : Visit) : Folder :=
  .ofNames (Path.shown tree.workingFolder root (base.descend visit.names)) visit.names.length visit.files
    visit.folders

/-- A walk visits the folder that it starts at, and then those below. -/
theorem visits_eq_cons (entries : List (String × Node)) :
    Node.visits (fun name => !ignoredNames.contains name) [] (.folder entries) =
      Node.visitOf [] entries :: visitsIn entries := by
  rw [Node.visits]
  rfl

/-- The visits below a folder are in order. -/
theorem pairwise_visitsIn (hp : (Node.folder entries).IsProper) :
    (visitsIn entries).Pairwise (·.names < ·.names) := by
  have hall := hp.pairwise_visits (fun name => !ignoredNames.contains name) []
  rw [visits_eq_cons] at hall
  exact (List.pairwise_cons.mp hall).2

/-- None of the visits below a folder is to the folder itself. -/
theorem names_ne_nil (hp : (Node.folder entries).IsProper) {visit : Visit} (h : visit ∈ visitsIn entries) :
    visit.names ≠ [] := by
  have hall := hp.pairwise_visits (fun name => !ignoredNames.contains name) []
  rw [visits_eq_cons] at hall
  have hlt : [] < visit.names := (List.pairwise_cons.mp hall).1 visit h
  intro he
  rw [he] at hlt
  exact List.lt_irrefl _ hlt

/-- The names that are not entered are not those that are. -/
theorem entered_iff (name : String) :
    (!ignoredNames.contains name) = true ↔ name ∉ ["node_modules", "_generated", ".git"] := by
  rw [Bool.not_eq_true', ← Bool.not_eq_true, List.contains_iff_mem]
  rfl

/-- The visits below a folder are to those that are reached. -/
theorem mem_visitsIn_iff (hp : (Node.folder entries).IsProper) {visit : Visit} :
    visit ∈ visitsIn entries ↔ ∃ held, (Node.folder entries).at? visit.names = some (.folder held) ∧
      IsReached entries visit.names ∧ visit = Node.visitOf visit.names held := by
  have hvisits : visit ∈ Node.visits (fun name => !ignoredNames.contains name) [] (.folder entries) ↔ _ :=
    hp.mem_visits_iff
  rw [visits_eq_cons, List.mem_cons] at hvisits
  simp only [List.nil_append, entered_iff] at hvisits
  constructor
  · intro h
    obtain ⟨names, held, hheld, hentered, rfl⟩ := hvisits.mp (.inr h)
    exact ⟨held, hheld, ⟨names_ne_nil hp h, hentered, held, hheld⟩, rfl⟩
  · rintro ⟨held, hheld, ⟨hne, hentered, -⟩, hvisit⟩
    rcases hvisits.mpr ⟨visit.names, held, hheld, hentered, hvisit⟩ with hbase | hbelow
    · exact absurd (congrArg Visit.names hbase) hne
    · exact hbelow

/-- A folder is reached if a visit below the base folder is to it. -/
theorem mem_map_names_iff (hp : (Node.folder entries).IsProper) (names : List String) :
    names ∈ (visitsIn entries).map Visit.names ↔ IsReached entries names := by
  rw [List.mem_map]
  constructor
  · rintro ⟨visit, hvisit, rfl⟩
    obtain ⟨held, -, hreached, -⟩ := (mem_visitsIn_iff hp).mp hvisit
    exact hreached
  · intro hreached
    obtain ⟨held, hheld⟩ := hreached.2.2
    exact ⟨Node.visitOf names held, (mem_visitsIn_iff hp).mpr ⟨held, hheld, hreached, rfl⟩, rfl⟩

/-- The folders on the way to one that is reached are reached. -/
theorem IsReached.above {names upper : List String} (h : IsReached entries names) (hne : upper ≠ [])
    (hu : upper <+: names) : IsReached entries upper := by
  obtain ⟨more, rfl⟩ := hu
  obtain ⟨-, hentered, held, hheld⟩ := h
  refine ⟨hne, fun name hn => hentered name (List.mem_append_left _ hn), ?_⟩
  cases more with
  | nil =>
    rw [List.append_nil] at hheld
    exact ⟨held, hheld⟩
  | cons name more => exact Node.exists_folder_of_at?_append hheld

/-- A visited folder is measured. -/
theorem measures_ofVisitAt (hp : (Node.folder entries).IsProper) {visit : Visit}
    (h : visit ∈ visitsIn entries) :
    Measures tree root base entries visit.names (ofVisitAt tree root base visit) := by
  obtain ⟨held, hheld, -, hvisit⟩ := (mem_visitsIn_iff hp).mp h
  refine ⟨rfl, rfl, held, hheld, ?_⟩
  have hfiles : visit.files = Node.fileNames held := congrArg Visit.files hvisit
  change ((visit.files.length : Nat) : Int) = _
  rw [hfiles, Node.fileNames, List.length_map, List.countP_eq_length_filter]

/-- The folders that are measured are those of the visits below the base folder. -/
theorem survey_eq (hp : tree.top.IsProper) (h : tree.Opens base place entries) (root : Path) :
    survey tree root base = .ok ((visitsIn entries).map (ofVisitAt tree root base)) := by
  have hproper : (Node.folder entries).IsProper := (hp.at? h.held).1
  unfold survey
  refine bind_eq_ok_iff.mpr ⟨base, h.accept hp, ?_⟩
  rw [h.walk, visits_eq_cons]
  change Except.ok ((visitsIn entries).filterMap (ofVisit tree root base)) = _
  rw [← List.filterMap_eq_map]
  refine congrArg Except.ok (List.filterMap_congr fun visit hvisit => ?_)
  have hne : visit.names.isEmpty = false := List.isEmpty_eq_false_iff.mpr (names_ne_nil hproper hvisit)
  unfold ofVisit
  rw [hne]
  rfl

/-! ## Issues about depths -/

/-- What is said about the depth of a folder from five on, once. -/
structure IsDepthIssue (tree : FileTree) (root base : Path) (names : List String) (issue : Issue) : Prop where
  deep : 5 ≤ names.length
  file : issue.file = .text (Path.shown tree.workingFolder root (base.descend names))
  severity : issue.severity = depthSeverity names.length

/-- A visited folder gets an issue about its depth from five on, and otherwise none. -/
theorem depthIssues_ofVisitAt (tree : FileTree) (root base : Path) (visit : Visit) :
    (visit.names.length < 5 ∧ (ofVisitAt tree root base visit).depthIssues = []) ∨
      ∃ issue, (ofVisitAt tree root base visit).depthIssues = [issue] ∧
        IsDepthIssue tree root base visit.names issue := by
  have htoo : depthError ≤ (ofVisitAt tree root base visit).depth ↔ 7 ≤ visit.names.length := Int.ofNat_le
  have hsome : depthWarning ≤ (ofVisitAt tree root base visit).depth ↔ 5 ≤ visit.names.length := Int.ofNat_le
  unfold depthIssues
  by_cases herror : 7 ≤ visit.names.length
  · rw [if_pos (htoo.mpr herror)]
    exact .inr ⟨_, rfl, by omega, rfl, (if_pos herror).symm⟩
  · rw [if_neg (mt htoo.mp herror)]
    by_cases hwarning : 5 ≤ visit.names.length
    · rw [if_pos (hsome.mpr hwarning)]
      exact .inr ⟨_, rfl, hwarning, rfl, (if_neg herror).symm⟩
    · rw [if_neg (mt hsome.mp hwarning)]
      exact .inl ⟨Nat.lt_of_not_le hwarning, rfl⟩

/-- The issues of a folder with the rule about depths are those about its depth. -/
theorem filter_depthRule_issues (folder : Folder) :
    folder.issues.filter (Issue.hasRule depthRule) = folder.depthIssues := by
  have hdepth : folder.depthIssues.filter (Issue.hasRule depthRule) = folder.depthIssues := by
    unfold depthIssues
    split
    · rfl
    · split <;> rfl
  have hcrowd : folder.crowdIssues.filter (Issue.hasRule depthRule) = [] := by
    unfold crowdIssues
    split
    · rfl
    · split <;> rfl
  have hmixed : folder.mixedIssues.filter (Issue.hasRule depthRule) = [] := by
    unfold mixedIssues
    split <;> rfl
  unfold issues
  rw [List.filter_append, List.filter_append, hdepth, hcrowd, hmixed, List.append_nil, List.append_nil]

/-- What is said about features is that one of them has many components. -/
theorem exists_of_mem_featureIssues {issue : Issue} (h : issue ∈ featureIssues tree root base) :
    ∃ path feature count, issue = featureIssue path feature count := by
  unfold featureIssues at h
  dsimp only at h
  split at h
  · obtain ⟨name, -, hname⟩ := List.mem_filterMap.mp h
    unfold featureIssue? at hname
    dsimp only at hname
    split at hname
    · split at hname
      · exact ⟨_, _, _, (Option.some.inj hname).symm⟩
      · cases hname
    · cases hname
  · cases h

/-- No issue about a feature has the rule about depths. -/
theorem filter_depthRule_featureIssues (tree : FileTree) (root base : Path) :
    (featureIssues tree root base).filter (Issue.hasRule depthRule) = [] := by
  rw [List.filter_eq_nil_iff]
  intro issue hissue
  obtain ⟨path, feature, count, rfl⟩ := exists_of_mem_featureIssues hissue
  exact Bool.false_ne_true

/-- The folders whose depth is reported, with the issues about it. -/
def depthReports (tree : FileTree) (root base : Path) (entries : List (String × Node)) :
    List (List String × Issue) :=
  (visitsIn entries).filterMap fun visit =>
    (ofVisitAt tree root base visit).depthIssues.head?.map (Prod.mk visit.names)

/-- The issues about depths are those of the folders whose depth is reported. -/
theorem map_snd_depthReports :
    (depthReports tree root base entries).map Prod.snd =
      (((visitsIn entries).map (ofVisitAt tree root base)).flatMap Folder.issues).filter
        (Issue.hasRule depthRule) := by
  rw [List.filter_flatMap, List.flatMap_map]
  simp only [filter_depthRule_issues]
  unfold depthReports
  rw [List.map_filterMap, List.filterMap_eq_flatMap_toList]
  refine congrArg (List.flatMap · (visitsIn entries)) (funext fun visit => ?_)
  rcases depthIssues_ofVisitAt tree root base visit with ⟨-, hnone⟩ | ⟨issue, hone, -⟩
  · rw [hnone]
    rfl
  · rw [hone]
    rfl

/-- Each folder whose depth is reported is reached, and is reported as it should be. -/
theorem mem_depthReports (hp : (Node.folder entries).IsProper) {names : List String} {issue : Issue}
    (h : (names, issue) ∈ depthReports tree root base entries) :
    IsReached entries names ∧ IsDepthIssue tree root base names issue := by
  obtain ⟨visit, hvisit, hreport⟩ := List.mem_filterMap.mp h
  obtain ⟨found, hfound, hpair⟩ := Option.map_eq_some_iff.mp hreport
  cases hpair
  refine ⟨(mem_map_names_iff hp _).mp (List.mem_map_of_mem hvisit), ?_⟩
  rcases depthIssues_ofVisitAt tree root base visit with ⟨-, hnone⟩ | ⟨issue, hone, hissue⟩
  · rw [hnone] at hfound
    cases hfound
  · rw [hone] at hfound
    cases hfound
    exact hissue

/-- Every folder that is reached is reported from a depth of five on. -/
theorem exists_mem_depthReports (hp : (Node.folder entries).IsProper) {names : List String}
    (h : IsReached entries names) (hd : 5 ≤ names.length) :
    ∃ issue, (names, issue) ∈ depthReports tree root base entries := by
  obtain ⟨visit, hvisit, rfl⟩ := List.mem_map.mp ((mem_map_names_iff hp names).mpr h)
  rcases depthIssues_ofVisitAt tree root base visit with ⟨hlt, -⟩ | ⟨issue, hone, -⟩
  · omega
  · exact ⟨issue, List.mem_filterMap.mpr ⟨visit, hvisit, by rw [hone]; rfl⟩⟩

/-- The depths are reported in the order of the folders. -/
theorem pairwise_depthReports (hp : (Node.folder entries).IsProper) :
    (depthReports tree root base entries).Pairwise fun first second => first.1 < second.1 := by
  refine List.Pairwise.filterMap _ (fun first second hlt one hone other hother => ?_) (pairwise_visitsIn hp)
  obtain ⟨issue, -, rfl⟩ := Option.map_eq_some_iff.mp hone
  obtain ⟨found, -, rfl⟩ := Option.map_eq_some_iff.mp hother
  exact hlt

/-! ## The walk and its check -/

/-- What a walk measures below a folder: every folder that is reached, once, in the order of the
names that lead there, and with each folder all those above it. -/
structure Accounts (tree : FileTree) (root base : Path) (entries : List (String × Node))
    (places : List (List String)) (folders : List Folder) : Prop where
  survey : Folder.survey tree root base = .ok folders
  measured : List.Forall₂ (Measures tree root base entries) places folders
  mem_places : ∀ names, names ∈ places ↔ IsReached entries names
  once : places.Nodup
  /-- A folder comes before those that lie in it. -/
  order : places.Pairwise (· < ·)
  above : ∀ names ∈ places, ∀ upper, upper ≠ [] → upper <+: names → upper ∈ places

/-- What a check says about the depths of folders: each from five on is reported once, as an error
from seven on, and so are all those above it. -/
structure ReportsDepths (tree : FileTree) (root base : Path) (places : List (List String)) (check : Check)
    (reports : List (List String × Issue)) : Prop where
  issues : reports.map Prod.snd = check.issues.filter (Issue.hasRule depthRule)
  once : (reports.map Prod.fst).Nodup
  right : ∀ names issue, (names, issue) ∈ reports → names ∈ places ∧ IsDepthIssue tree root base names issue
  all : ∀ names ∈ places, 5 ≤ names.length → ∃ issue, (names, issue) ∈ reports
  above : ∀ names issue, (names, issue) ∈ reports → issue.severity = .error →
    ∀ upper, upper <+: names → 5 ≤ upper.length →
      ∃ found, (upper, found) ∈ reports ∧ found.severity = depthSeverity upper.length

end Checkup.Folder
