import Checkup.Proofs.FolderFeatures
import Checkup.Proofs.ReportedIssues
import Checkup.Proofs.SourceFiles

/-!
# Folders that are not entered

A folder that is not entered is not measured, and neither is anything in it. It shows in two
ways all the same. The folder that holds it has a folder in it, and is not said to mix its files
any more. And among the features it counts as one, with the components in it.
-/

namespace Checkup.Folder

/-- The rule about folders that mix their files. -/
def mixedRule : String := "structure/mixed-content"

/-- The rule about the number of files in a folder. -/
def crowdRule : String := "structure/crowded-folder"

/-- A folder without folders that mixes its files: more than five, some of them components, and
some of them modules of utilities or hooks. -/
structure MixesFiles (held : List (String × Node)) : Prop where
  flat : ∀ entry ∈ held, entry.2.isFolder = false
  many : 5 < held.length
  component : ∃ entry ∈ held, ".tsx".toList <:+ entry.1.toList
  module : ∃ entry ∈ held, ".ts".toList <:+ entry.1.toList ∧ ¬ ".d.ts".toList <:+ entry.1.toList ∧
    ((∃ mark ∈ ["util", "helper", "service"], mark.toList <:+: entry.1.toList) ∨
      "use".toList <+: entry.1.toList)

/-- The place of a folder that is reached below a base folder and mixes its files. -/
def IsMixedPlace (entries : List (String × Node)) (base place : List String) : Prop :=
  ∃ names held, place = base ++ names ∧ IsReached entries names ∧
    (Node.folder entries).at? names = some (.folder held) ∧ MixesFiles held

/-- A folder among the features of a base folder holds too many components. -/
def IsCrowdedFeature (base above : List String) (held : List (String × Node)) : Prop :=
  above = base ++ ["features"] ∧ ∃ components, held.lookup "components" = some (.folder components) ∧
    20 < components.countP fun entry => ".tsx".toList.isSuffixOf entry.1.toList

variable {entries held inner : List (String × Node)} {tree old new : FileTree} {root path : Path}
  {place above : List String} {name : String}

/-- Of two conditions, one of which follows from the other, fewer members satisfy the stronger one if
there is one that satisfies the weaker one alone. -/
theorem countP_lt_countP_of_mem {α : Type} {members : List α} {weak strong : α → Bool} {member : α}
    (hmem : member ∈ members) (hall : ∀ other ∈ members, strong other = true → weak other = true)
    (hweak : weak member = true) (hstrong : strong member = false) :
    members.countP strong < members.countP weak := by
  obtain ⟨before, after, rfl⟩ := List.append_of_mem hmem
  have hbefore : before.countP strong ≤ before.countP weak :=
    List.countP_mono_left fun other ho => hall other (List.mem_append_left _ ho)
  have hafter : after.countP strong ≤ after.countP weak :=
    List.countP_mono_left fun other ho => hall other (List.mem_append_right _ (List.mem_cons_of_mem _ ho))
  rw [List.countP_append, List.countP_append, List.countP_cons, List.countP_cons, if_pos hweak, hstrong,
    if_neg Bool.false_ne_true]
  omega

/-! ## Mixed files -/

/-- In a folder without folders all entries are files. -/
theorem fileNames_of_flat (h : ∀ entry ∈ held, entry.2.isFolder = false) :
    Node.fileNames held = held.map Prod.fst ∧ Node.folderNames held = [] := by
  refine ⟨congrArg (List.map Prod.fst) (List.filter_eq_self.mpr fun entry he => ?_), ?_⟩
  · rw [h entry he]
    rfl
  · rw [Node.folderNames, List.filter_eq_nil_iff.mpr fun entry he => by simp [h entry he], List.map_nil]

/-- A folder is measured as mixed if it mixes its files. -/
theorem mixedContent_iff (path : String) (depth : Int) (held : List (String × Node)) :
    (Folder.ofNames path depth (Node.fileNames held) (Node.folderNames held)).mixedContent = true ↔
      MixesFiles held := by
  have hparts : ∀ files folders : List String, (Folder.ofNames path depth files folders).mixedContent = true ↔
      ((∃ file ∈ files, ".tsx".toList <:+ file.toList) ∧
        ∃ file ∈ files, ".ts".toList <:+ file.toList ∧ ¬ ".d.ts".toList <:+ file.toList ∧
          ((∃ mark ∈ ["util", "helper", "service"], mark.toList <:+: file.toList) ∨
            "use".toList <+: file.toList)) ∧ folders = [] ∧ 5 < files.length := by
    intro files folders
    simp only [Folder.ofNames, isUtility, isHook, isModule, endsWith, holds, mixedLimit, Bool.and_eq_true,
      Bool.or_eq_true, List.any_eq_true, List.isSuffixOf_iff_suffix, List.isPrefixOf_iff_prefix,
      Bool.not_eq_true', ← Bool.not_eq_true, List.isEmpty_iff, Text.occurs_iff]
    refine and_assoc.trans (and_congr (and_congr_right fun _ => ?_) (and_congr_right fun _ => decide_eq_true_iff))
    rw [← exists_or]
    refine exists_congr fun file => ?_
    rw [← and_or_left, ← and_or_left, and_assoc]
  rw [hparts]
  constructor
  · rintro ⟨⟨hcomponent, hmodule⟩, hfolders, hmany⟩
    have hflat : ∀ entry ∈ held, entry.2.isFolder = false := by
      rw [Node.folderNames, List.map_eq_nil_iff, List.filter_eq_nil_iff] at hfolders
      exact fun entry he => Bool.eq_false_iff.mpr (hfolders entry he)
    rw [(fileNames_of_flat hflat).1] at hcomponent hmodule hmany
    rw [List.length_map] at hmany
    refine ⟨hflat, hmany, ?_, ?_⟩
    · obtain ⟨file, hfile, hends⟩ := hcomponent
      obtain ⟨entry, he, rfl⟩ := List.mem_map.mp hfile
      exact ⟨entry, he, hends⟩
    · obtain ⟨file, hfile, hends⟩ := hmodule
      obtain ⟨entry, he, rfl⟩ := List.mem_map.mp hfile
      exact ⟨entry, he, hends⟩
  · rintro ⟨hflat, hmany, ⟨first, hfirst, hcomponent⟩, ⟨second, hsecond, hmodule⟩⟩
    obtain ⟨hfiles, hfolders⟩ := fileNames_of_flat hflat
    rw [hfiles, hfolders, List.length_map]
    exact ⟨⟨⟨first.1, List.mem_map_of_mem hfirst, hcomponent⟩,
      ⟨second.1, List.mem_map_of_mem hsecond, hmodule⟩⟩, rfl, hmany⟩

/-- Each issue about a folder has one of three rules. -/
theorem rule_of_mem_issues {folder : Folder} {issue : Issue} (h : issue ∈ folder.issues) :
    issue.rule ∈ [depthRule, crowdRule, mixedRule].map Value.text := by
  unfold issues at h
  rw [List.mem_append, List.mem_append] at h
  rcases h with (h | h) | h
  · unfold depthIssues at h
    split at h
    · cases List.mem_singleton.mp h
      exact List.mem_cons_self
    · split at h
      · cases List.mem_singleton.mp h
        exact List.mem_cons_self
      · cases h
  · unfold crowdIssues at h
    split at h
    · cases List.mem_singleton.mp h
      exact List.mem_cons_of_mem _ List.mem_cons_self
    · split at h
      · cases List.mem_singleton.mp h
        exact List.mem_cons_of_mem _ List.mem_cons_self
      · cases h
  · unfold mixedIssues at h
    split at h
    · cases List.mem_singleton.mp h
      exact List.mem_cons_of_mem _ (List.mem_cons_of_mem _ List.mem_cons_self)
    · cases h

/-- The issues of a folder have the rule about mixed files once, if it is mixed. -/
theorem countP_mixedRule_issues (folder : Folder) :
    folder.issues.countP (Issue.hasRule mixedRule) = if folder.mixedContent then 1 else 0 := by
  have hdepth : folder.depthIssues.countP (Issue.hasRule mixedRule) = 0 := by
    unfold depthIssues
    split
    · rfl
    · split <;> rfl
  have hcrowd : folder.crowdIssues.countP (Issue.hasRule mixedRule) = 0 := by
    unfold crowdIssues
    split
    · rfl
    · split <;> rfl
  unfold issues
  rw [List.countP_append, List.countP_append, hdepth, hcrowd, Nat.zero_add]
  unfold mixedIssues
  split <;> rfl

/-- The issues of measured folders have the rule about mixed files once for each that is mixed. -/
theorem countP_mixedRule_map {α : Type} (members : List α) (measured : α → Folder) :
    ((members.map measured).flatMap Folder.issues).countP (Issue.hasRule mixedRule) =
      members.countP fun member => (measured member).mixedContent := by
  rw [List.flatMap_map]
  exact Issue.countP_flatMap_once fun member => countP_mixedRule_issues (measured member)

/-! ## Measurements -/

/-- The measurements of the folder that names lead to. -/
def measuredAt (tree : FileTree) (root base : Path) (entries : List (String × Node)) (names : List String) :
    Folder :=
  ofVisitAt tree root base (Node.visitOf names (heldAt entries names))

/-- The measurements of the folders that are reached below one with some entries. -/
def foldersAt (tree : FileTree) (root base : Path) (entries : List (String × Node)) : List Folder :=
  ((visitsIn entries).map Visit.names).map (measuredAt tree root base entries)

/-- The folders below an open one are measured by the names that lead to them. -/
theorem survey_eq_foldersAt (hp : tree.top.IsProper) (h : tree.Opens path place entries) (root : Path) :
    survey tree root path = .ok (foldersAt tree root path entries) := by
  rw [survey_eq hp h, foldersAt, List.map_map]
  refine congrArg Except.ok (List.map_congr_left fun visit hvisit => ?_)
  obtain ⟨inner, hinner, -, he⟩ := (mem_visitsIn_iff (hp.at? h.held).1).mp hvisit
  change ofVisitAt tree root path visit = measuredAt tree root path entries visit.names
  rw [measuredAt, heldAt_of_folder hinner, ← he]

/-! ## One folder more -/

section Added

variable (hpo : old.top.IsProper) (hpn : new.top.IsProper) (ha : old.AddsFolder new above name held)
  (hi : name ∈ ["node_modules", "_generated", ".git"]) (ho : old.Opens path place entries)
  (hn : new.Opens path place inner)

include ha ho in
/-- Names below an open folder lead into the new folder only through its name. -/
theorem exists_of_below {names : List String} (h : above ++ [name] <+: place ++ names) :
    ∃ way more, above = place ++ way ∧ names = way ++ name :: more := by
  rcases List.prefix_or_prefix_of_prefix (List.prefix_append place names) h with hbelow | habove
  · rcases List.prefix_concat_iff.mp hbelow with hsame | ⟨way, rfl⟩
    · exact absurd (hsame ▸ List.prefix_refl _) (ha.not_below ho.held)
    · obtain ⟨more, hmore⟩ := h
      refine ⟨way, more, rfl, ?_⟩
      rw [List.append_assoc, List.append_assoc] at hmore
      exact (List.append_cancel_left hmore).symm
  · exact absurd habove (ha.not_below ho.held)

include ha ho hn in
/-- What is seen below an open folder is what was seen, but for the new folder. -/
theorem sight_eq {names : List String} (h : ¬ above ++ [name] <+: place ++ names) :
    (Node.folder inner).sight names = (Node.folder entries).sight names := by
  have hseen := ha.others _ h
  rwa [FileTree.sight, FileTree.sight, Node.sight_append hn.held, Node.sight_append ho.held] at hseen

include ha hi ho hn in
/-- The same folders are reached. -/
theorem isReached_iff (names : List String) : IsReached inner names ↔ IsReached entries names := by
  have hfolder : (∀ name ∈ names, name ∉ ["node_modules", "_generated", ".git"]) →
      ((∃ held, (Node.folder inner).at? names = some (.folder held)) ↔
        ∃ held, (Node.folder entries).at? names = some (.folder held)) := by
    intro hentered
    have hother : ¬ above ++ [name] <+: place ++ names := by
      intro hleads
      obtain ⟨way, more, -, rfl⟩ := exists_of_below ha ho hleads
      exact hentered name (List.mem_append_right way List.mem_cons_self) hi
    rw [← Node.sight_eq_folder_iff, ← Node.sight_eq_folder_iff, sight_eq ha ho hn hother]
  exact and_congr_right fun _ => and_congr_right hfolder

include hpo hpn ha hi ho hn in
/-- The same folders are measured, in the same order. -/
theorem map_names_eq : (visitsIn inner).map Visit.names = (visitsIn entries).map Visit.names := by
  have hproperOld := (hpo.at? ho.held).1
  have hproperNew := (hpn.at? hn.held).1
  have hirrefl : Std.Irrefl fun first second : List String => first < second := ⟨List.lt_irrefl⟩
  have hantisymm : Std.Antisymm fun first second : List String => first < second :=
    ⟨fun first second hfirst hsecond => absurd hsecond (List.lt_asymm hfirst)⟩
  refine (List.pairwise_map.mpr (pairwise_visitsIn hproperNew)).eq_of_mem_iff
    (List.pairwise_map.mpr (pairwise_visitsIn hproperOld)) fun names => ?_
  rw [mem_map_names_iff hproperNew, mem_map_names_iff hproperOld]
  exact isReached_iff ha hi ho hn names

include hpo hpn ha ho hn in
/-- Where names lead, the same names are held, of those that are sought, if the new folder is not
sought there. -/
theorem namesOf_heldAt {names : List String} (hother : ¬ above ++ [name] <+: place ++ names)
    {sought : String → Sight → Bool} (hs : ∀ name, sought name .nothing = false)
    (hnew : place ++ names = above → sought name .folder = false) :
    Node.namesOf sought (heldAt inner names) = Node.namesOf sought (heldAt entries names) := by
  have hseen := sight_eq ha ho hn hother
  by_cases hfolder : (Node.folder entries).sight names = .folder
  · obtain ⟨before, hbefore⟩ := Node.sight_eq_folder_iff.mp hfolder
    obtain ⟨after, hafter⟩ := Node.sight_eq_folder_iff.mp (hseen.trans hfolder)
    rw [heldAt_of_folder hbefore, heldAt_of_folder hafter]
    rw [← Node.at?_append ho.held] at hbefore
    rw [← Node.at?_append hn.held] at hafter
    exact ha.namesOf_eq hbefore hafter hpo hpn hs hnew
  · rw [heldAt_of_not_folder hfolder, heldAt_of_not_folder (hseen ▸ hfolder)]

include hpo hpn ha hi ho hn in
/-- A folder that is reached has the measurements it had, but that it is not mixed any more if it
holds the new folder. -/
theorem measuredAt_eq (root : Path) {names : List String} (hr : IsReached entries names) :
    (place ++ names ≠ above → measuredAt new root path inner names = measuredAt old root path entries names) ∧
      (place ++ names = above → measuredAt new root path inner names =
        { measuredAt old root path entries names with mixedContent := false }) := by
  have hother : ¬ above ++ [name] <+: place ++ names := by
    intro hleads
    obtain ⟨way, more, -, rfl⟩ := exists_of_below ha ho hleads
    exact hr.2.1 name (List.mem_append_right way List.mem_cons_self) hi
  have hfiles : Node.fileNames (heldAt inner names) = Node.fileNames (heldAt entries names) := by
    rw [Node.fileNames_eq_namesOf, Node.fileNames_eq_namesOf]
    exact namesOf_heldAt hpo hpn ha ho hn hother (fun _ => rfl) fun _ => rfl
  unfold measuredAt ofVisitAt Node.visitOf
  rw [ha.workingFolder, hfiles]
  constructor
  · intro hne
    have hfolders : Node.folderNames (heldAt inner names) = Node.folderNames (heldAt entries names) := by
      rw [Node.folderNames_eq_namesOf, Node.folderNames_eq_namesOf]
      exact namesOf_heldAt hpo hpn ha ho hn hother (fun _ => rfl) fun he => absurd he hne
    rw [hfolders]
  · rintro rfl
    obtain ⟨after, hafter⟩ := (isReached_iff ha hi ho hn names).mpr hr |>.2.2
    have hnew : (Node.folder inner).at? (names ++ [name]) = some (.folder held) := by
      rw [← Node.at?_append hn.held, ← List.append_assoc, ha.after]
    have hmem : name ∈ Node.folderNames (heldAt inner names) := by
      have hproper := ((hpn.at? hn.held).1.at? hafter).1
      rw [heldAt_of_folder hafter, Node.folderNames_eq_namesOf, hproper.mem_namesOf_iff fun _ => rfl,
        ← Node.at?_append_singleton hafter, hnew]
      rfl
    have hfolders : (Node.folderNames (heldAt inner names)).isEmpty = false :=
      List.isEmpty_eq_false_iff.mpr (List.ne_nil_of_mem hmem)
    simp only [ofNames, hfolders, Bool.and_false, Bool.false_and]

/-! ## Issues about folders -/

include hpo hpn ha hi ho hn in
/-- The folders have the measurements that they had, if none mixed its files that holds the new
folder. -/
theorem foldersAt_eq (root : Path) (h : ¬ IsMixedPlace entries place above) :
    foldersAt new root path inner = foldersAt old root path entries := by
  unfold foldersAt
  rw [map_names_eq hpo hpn ha hi ho hn]
  refine List.map_congr_left fun names hnames => ?_
  have hreached := (mem_map_names_iff (hpo.at? ho.held).1 names).mp hnames
  obtain ⟨helse, hsame⟩ := measuredAt_eq hpo hpn ha hi ho hn root hreached
  by_cases he : place ++ names = above
  · obtain ⟨before, hbefore⟩ := hreached.2.2
    have hmixed : (measuredAt old root path entries names).mixedContent = false := by
      rw [← Bool.not_eq_true, measuredAt, heldAt_of_folder hbefore]
      exact fun hmixes => h ⟨names, before, he.symm, hreached, hbefore, (mixedContent_iff _ _ _).mp hmixes⟩
    rw [hsame he, ← hmixed]
  · exact helse he

include hpo hpn ha hi ho hn in
/-- If a folder mixed its files and holds the new folder, one folder less is said to mix them. -/
theorem countP_mixedRule_lt (root : Path) (h : IsMixedPlace entries place above) :
    ((foldersAt new root path inner).flatMap issues).countP (Issue.hasRule mixedRule) <
      ((foldersAt old root path entries).flatMap issues).countP (Issue.hasRule mixedRule) := by
  obtain ⟨names, before, rfl, hreached, hbefore, hmixes⟩ := h
  have hproper := (hpo.at? ho.held).1
  have hmem := (mem_map_names_iff hproper names).mpr hreached
  have hwas : (measuredAt old root path entries names).mixedContent = true := by
    rw [measuredAt, heldAt_of_folder hbefore]
    exact (mixedContent_iff _ _ _).mpr hmixes
  have his : (measuredAt new root path inner names).mixedContent = false := by
    rw [(measuredAt_eq hpo hpn ha hi ho hn root hreached).2 rfl]
  unfold foldersAt
  rw [countP_mixedRule_map, countP_mixedRule_map, map_names_eq hpo hpn ha hi ho hn]
  -- The folder counts before and not after, and no other counts after that did not before.
  refine countP_lt_countP_of_mem hmem ?_ ?_ ?_
  · intro sought hsought hmixed
    obtain ⟨helse, hsame⟩ :=
      measuredAt_eq hpo hpn ha hi ho hn root ((mem_map_names_iff hproper sought).mp hsought)
    by_cases he : place ++ sought = place ++ names
    · rw [hsame he] at hmixed
      cases hmixed
    · rwa [← helse he]
  · exact hwas
  · exact his

/-! ## Issues about features -/

include ha hi ho in
/-- The new folder lies where the components of a feature are sought if it is the feature. -/
theorem eq_feature_of_below {feature : String}
    (h : above ++ [name] <+: place ++ ["features", feature, "components"]) :
    above = place ++ ["features"] ∧ feature = name := by
  obtain ⟨way, more, rfl, hway⟩ := exists_of_below ha ho h
  have hfeatures : "features" ≠ name := fun he => absurd (he ▸ hi) (by decide)
  have hcomponents : "components" ≠ name := fun he => absurd (he ▸ hi) (by decide)
  match way with
  | [] => exact absurd (List.cons.inj hway).1 hfeatures
  | [first] =>
    obtain ⟨rfl, hrest⟩ := List.cons.inj hway
    exact ⟨rfl, (List.cons.inj hrest).1⟩
  | [first, second] =>
    obtain ⟨-, hrest⟩ := List.cons.inj hway
    exact absurd (List.cons.inj (List.cons.inj hrest).2).1 hcomponents
  | first :: second :: third :: way =>
    have hlength := congrArg List.length hway
    simp only [List.length_cons, List.length_nil, List.length_append] at hlength
    omega

include hpo hpn ha hi ho hn in
/-- Every feature but the new folder has the components that it had. -/
theorem componentsOf_eq {feature : String} (h : ¬ (above = place ++ ["features"] ∧ feature = name)) :
    componentsOf inner feature = componentsOf entries feature := by
  have hcount : ∀ held, componentCount held =
      (Node.namesOf (fun name sight => endsWith ".tsx" name && sight != .nothing) held).length := by
    intro held
    rw [componentCount, Node.namesOf, List.length_map, List.countP_eq_length_filter]
    refine congrArg List.length (List.filter_congr fun entry _ => ?_)
    cases entry.2 <;> exact (Bool.and_true _).symm
  have hends : endsWith ".tsx" name = false := by
    simp only [List.mem_cons, List.not_mem_nil, or_false] at hi
    rcases hi with rfl | rfl | rfl <;> decide
  unfold componentsOf
  rw [hcount, hcount, namesOf_heldAt hpo hpn ha ho hn (fun hleads => h (eq_feature_of_below ha hi ho hleads))]
  · exact fun _ => Bool.and_false _
  · rw [hends]
    exact fun _ => rfl

include ha ho hn in
/-- The new folder had no components, and has those that it holds. -/
theorem componentsOf_new (h : above = place ++ ["features"]) :
    componentsOf entries name = 0 ∧ componentsOf inner name = componentCount (heldAt held ["components"]) := by
  subst h
  have hbefore := ha.before
  have hafter := ha.after
  rw [List.append_assoc, Node.at?_append ho.held] at hbefore
  rw [List.append_assoc, Node.at?_append hn.held] at hafter
  constructor
  · have hnothing : (Node.folder entries).sight ["features", name, "components"] ≠ .folder := by
      have hnone : (Node.folder entries).sight ["features", name] ≠ .folder := by
        intro hfolder
        obtain ⟨before, hfound⟩ := Node.sight_eq_folder_iff.mp hfolder
        cases hbefore.symm.trans hfound
      have hbelow : (Node.folder entries).sight ["features", name, "components"] = .nothing :=
        Node.sight_append_eq_nothing hnone "components" []
      rw [hbelow]
      exact Sight.noConfusion
    rw [componentsOf, heldAt_of_not_folder hnothing]
    rfl
  · have hbelow : (Node.folder inner).at? ["features", name, "components"] = (Node.folder held).at? ["components"] :=
      Node.at?_append hafter ["components"]
    rw [componentsOf, heldAt, heldAt, hbelow]

/-- A folder among the features is crowded if it has too many components. -/
theorem isCrowdedFeature_iff :
    IsCrowdedFeature place above held ↔
      above = place ++ ["features"] ∧ 20 < componentCount (heldAt held ["components"]) := by
  refine and_congr_right fun _ => ?_
  constructor
  · rintro ⟨components, hcomponents, hmany⟩
    rw [heldAt_singleton hcomponents]
    exact hmany
  · intro hmany
    by_cases hcomponents : ∃ components, held.lookup "components" = some (.folder components)
    · obtain ⟨components, hfound⟩ := hcomponents
      rw [heldAt_singleton hfound] at hmany
      exact ⟨components, hfound, hmany⟩
    · rw [heldAt_cons_of_ne fun components hfound => hcomponents ⟨components, hfound⟩] at hmany
      cases hmany

include hpo hpn ha hi ho hn in
/-- The same is said about the features, unless the new folder is one of them and crowded. -/
theorem featureIssues_eq_of_addsFolder (root : Path) (h : ¬ IsCrowdedFeature place above held) :
    featureIssues new root path = featureIssues old root path := by
  have hproperOld := (hpo.at? ho.held).1
  have hproperNew := (hpn.at? hn.held).1
  have hnew : ∀ feature, 20 < componentsOf entries feature ∨ 20 < componentsOf inner feature →
      componentsOf inner feature = componentsOf entries feature := by
    intro feature hmany
    refine componentsOf_eq hpo hpn ha hi ho hn ?_
    rintro ⟨hplace, rfl⟩
    obtain ⟨hnone, hheld⟩ := componentsOf_new ha ho hn hplace
    rcases hmany with hmany | hmany
    · omega
    · exact h (isCrowdedFeature_iff.mpr ⟨hplace, hheld ▸ hmany⟩)
  have hirrefl : Std.Irrefl fun first second : String => first < second := ⟨String.lt_irrefl⟩
  have hantisymm : Std.Antisymm fun first second : String => first < second :=
    ⟨fun first second hfirst hsecond => absurd hsecond (String.lt_asymm hfirst)⟩
  have hcrowded : crowdedFeatures inner = crowdedFeatures entries := by
    refine (pairwise_crowdedFeatures hproperNew).eq_of_mem_iff (pairwise_crowdedFeatures hproperOld) fun feature => ?_
    rw [mem_crowdedFeatures_iff hproperNew, mem_crowdedFeatures_iff hproperOld]
    constructor
    · exact fun hmany => hnew feature (.inr hmany) ▸ hmany
    · exact fun hmany => (hnew feature (.inl hmany)).symm ▸ hmany
  rw [featureIssues_eq hpn hn, featureIssues_eq hpo ho, hcrowded]
  refine List.map_congr_left fun feature hfeature => ?_
  unfold crowdedIssue
  rw [ha.workingFolder, hnew feature (.inl ((mem_crowdedFeatures_iff hproperOld).mp hfeature))]

include hpo hpn ha hi ho hn in
/-- If the new folder is among the features and crowded, one feature more is reported. -/
theorem length_featureIssues (root : Path) (h : IsCrowdedFeature place above held) :
    (featureIssues new root path).length = (featureIssues old root path).length + 1 := by
  have hproperOld := (hpo.at? ho.held).1
  have hproperNew := (hpn.at? hn.held).1
  obtain ⟨hplace, hmany⟩ := isCrowdedFeature_iff.mp h
  obtain ⟨hnone, hheld⟩ := componentsOf_new ha ho hn hplace
  rw [← hheld] at hmany
  have hfresh : name ∉ crowdedFeatures entries := by
    rw [mem_crowdedFeatures_iff hproperOld, hnone]
    exact Nat.not_lt_zero _
  have hperm : (crowdedFeatures inner).Perm (name :: crowdedFeatures entries) := by
    refine (List.perm_ext_iff_of_nodup (pairwise_crowdedFeatures hproperNew).nodup
      (List.nodup_cons.mpr ⟨hfresh, (pairwise_crowdedFeatures hproperOld).nodup⟩)).mpr fun feature => ?_
    rw [List.mem_cons, mem_crowdedFeatures_iff hproperNew, mem_crowdedFeatures_iff hproperOld]
    by_cases he : feature = name
    · subst he
      exact iff_of_true hmany (.inl rfl)
    · rw [componentsOf_eq hpo hpn ha hi ho hn fun hsame => he hsame.2]
      exact (or_iff_right he).symm
  rw [featureIssues_eq hpn hn, featureIssues_eq hpo ho, List.length_map, List.length_map, hperm.length_eq,
    List.length_cons]

end Added

/-! ## The check -/

/-- The rule about features. -/
def featureRule : String := "structure/feature-organization"

/-- The issues of a check of the folders are told apart by their rules: those about features, and
those about folders that mix their files. -/
theorem countP_rules (hp : tree.top.IsProper) (h : tree.Opens path place entries) (root : Path)
    (folders : List Folder) :
    (folders.flatMap issues ++ featureIssues tree root path).countP (Issue.hasRule featureRule) =
        (featureIssues tree root path).length ∧
      (folders.flatMap issues ++ featureIssues tree root path).countP (Issue.hasRule mixedRule) =
        (folders.flatMap issues).countP (Issue.hasRule mixedRule) := by
  have hfolder : ∀ issue ∈ folders.flatMap issues, Issue.hasRule featureRule issue = false := by
    intro issue hissue
    obtain ⟨folder, -, hfound⟩ := List.mem_flatMap.mp hissue
    have hrule := rule_of_mem_issues hfound
    simp only [List.map_cons, List.map_nil, List.mem_cons, List.not_mem_nil, or_false] at hrule
    unfold Issue.hasRule
    rcases hrule with hrule | hrule | hrule <;>
    · rw [hrule]
      decide
  have hfeature : ∀ issue ∈ featureIssues tree root path,
      Issue.hasRule featureRule issue = true ∧ Issue.hasRule mixedRule issue = false := by
    intro issue hissue
    rw [featureIssues_eq hp h] at hissue
    obtain ⟨feature, -, rfl⟩ := List.mem_map.mp hissue
    exact ⟨rfl, rfl⟩
  have hnone : (folders.flatMap issues).countP (Issue.hasRule featureRule) = 0 :=
    List.countP_eq_zero.mpr fun issue hissue => Bool.eq_false_iff.mp (hfolder issue hissue)
  have hall : (featureIssues tree root path).countP (Issue.hasRule featureRule) =
      (featureIssues tree root path).length :=
    List.countP_eq_length.mpr fun issue hissue => (hfeature issue hissue).1
  have hmixed : (featureIssues tree root path).countP (Issue.hasRule mixedRule) = 0 :=
    List.countP_eq_zero.mpr fun issue hissue => Bool.eq_false_iff.mp (hfeature issue hissue).2
  rw [List.countP_append, List.countP_append, hnone, hall, hmixed, Nat.zero_add, Nat.add_zero]
  exact ⟨rfl, rfl⟩

/-- The check of the folders below an open one is over those that are reached, and the features. -/
theorem result_measureFolders {work : Workplace} {settings : Settings} (hp : work.tree.top.IsProper)
    (h : work.tree.Opens settings.sourcePath place entries) :
    (work.measureFolders settings).result =
      .ok (check (foldersAt work.tree settings.rootPath settings.sourcePath entries)
        (featureIssues work.tree settings.rootPath settings.sourcePath) work.elapsed) := by
  unfold Workplace.measureFolders
  rw [survey_eq_foldersAt hp h]
  rfl

section Findings

variable {work other : Workplace} {settings : Settings} (hp : work.tree.top.IsProper)
  (hq : other.tree.top.IsProper) (ha : work.tree.AddsFolder other.tree above name held)
  (hi : name ∈ ["node_modules", "_generated", ".git"])
  (ho : work.tree.Opens settings.sourcePath place entries)

include hp hq ho in
/-- If the check says the same, the issues have each rule as often, those about features and those
about mixed files. -/
theorem counts_eq_of_findings_eq {inner : List (String × Node)}
    (hn : other.tree.Opens settings.sourcePath place inner)
    (h : (other.measureFolders settings).result.map Check.findings =
      (work.measureFolders settings).result.map Check.findings) :
    (featureIssues other.tree settings.rootPath settings.sourcePath).length =
        (featureIssues work.tree settings.rootPath settings.sourcePath).length ∧
      ((foldersAt other.tree settings.rootPath settings.sourcePath inner).flatMap issues).countP
          (Issue.hasRule mixedRule) =
        ((foldersAt work.tree settings.rootPath settings.sourcePath entries).flatMap issues).countP
          (Issue.hasRule mixedRule) := by
  rw [result_measureFolders hp ho, result_measureFolders hq hn] at h
  have hissues : (foldersAt other.tree settings.rootPath settings.sourcePath inner).flatMap issues ++
      featureIssues other.tree settings.rootPath settings.sourcePath =
        (foldersAt work.tree settings.rootPath settings.sourcePath entries).flatMap issues ++
          featureIssues work.tree settings.rootPath settings.sourcePath :=
    congrArg Prod.fst (Except.ok.inj h)
  have hold := countP_rules hp ho settings.rootPath
    (foldersAt work.tree settings.rootPath settings.sourcePath entries)
  have hnew := countP_rules hq hn settings.rootPath
    (foldersAt other.tree settings.rootPath settings.sourcePath inner)
  rw [hissues] at hnew
  exact ⟨hnew.1.symm.trans hold.1, hnew.2.symm.trans hold.2⟩

include hp hq ha hi ho in
/-- The check says something else if the new folder is put into one that mixed its files. -/
theorem findings_ne_of_isMixedPlace (h : IsMixedPlace entries place above) :
    (other.measureFolders settings).result.map Check.findings ≠
      (work.measureFolders settings).result.map Check.findings := by
  obtain ⟨inner, hn⟩ := ha.exists_opens ho
  intro hsame
  have hcounts := (counts_eq_of_findings_eq hp hq ho hn hsame).2
  have hlt := countP_mixedRule_lt hp hq ha hi ho hn settings.rootPath h
  omega

include hp hq ha hi ho in
/-- So it does if the new folder is one of the features with too many components. -/
theorem findings_ne_of_isCrowdedFeature (h : IsCrowdedFeature place above held) :
    (other.measureFolders settings).result.map Check.findings ≠
      (work.measureFolders settings).result.map Check.findings := by
  obtain ⟨inner, hn⟩ := ha.exists_opens ho
  intro hsame
  have hcounts := (counts_eq_of_findings_eq hp hq ho hn hsame).1
  have hlength := length_featureIssues hp hq ha hi ho hn settings.rootPath h
  omega

end Findings

/-- A folder that is not entered, added anywhere with whatever it holds, leaves alone what the check
says of the folders below the base folder, but for two cases: it is put into a folder that mixed its
files and had no folder in it, or it is put among the features and holds too many components. -/
theorem findings_eq_iff {work other : Workplace} {settings : Settings} (hp : work.tree.top.IsProper)
    (hq : other.tree.top.IsProper) (ha : work.tree.AddsFolder other.tree above name held)
    (hi : name ∈ ["node_modules", "_generated", ".git"])
    (ho : work.tree.Opens settings.sourcePath place entries) :
    ∃ before after, (work.measureFolders settings).result = .ok before ∧
      (other.measureFolders settings).result = .ok after ∧
      (after.findings = before.findings ↔
        ¬ IsMixedPlace entries place above ∧ ¬ IsCrowdedFeature place above held) := by
  obtain ⟨inner, hn⟩ := ha.exists_opens ho
  have hbefore := result_measureFolders hp ho
  have hafter := result_measureFolders hq hn
  refine ⟨_, _, hbefore, hafter, fun hsame => ?_, ?_⟩
  · have hresults : (other.measureFolders settings).result.map Check.findings =
        (work.measureFolders settings).result.map Check.findings := by
      rw [hbefore, hafter]
      exact congrArg Except.ok hsame
    exact ⟨fun hmixed => findings_ne_of_isMixedPlace hp hq ha hi ho hmixed hresults,
      fun hcrowded => findings_ne_of_isCrowdedFeature hp hq ha hi ho hcrowded hresults⟩
  · rintro ⟨hmixed, hcrowded⟩
    rw [foldersAt_eq hp hq ha hi ho hn _ hmixed, featureIssues_eq_of_addsFolder hp hq ha hi ho hn _ hcrowded]
    rfl

/-- A folder of the version control beside a folder of sources changes nothing. -/
theorem findings_eq_iff_git :
    let entries : List (String × Node) := [("lib", .folder [("a.ts", .file [])])]
    let work : Workplace := { tree := ⟨.folder [("src", .folder entries)], []⟩, tools := fun _ => .error .notJson }
    let other : Workplace := { work with tree := work.tree.put ["src"] ".git" (.folder []) }
    let settings : Settings := { source := "src" }
    work.tree.top.IsProper ∧ other.tree.top.IsProper ∧ work.tree.AddsFolder other.tree ["src"] ".git" [] ∧
      work.tree.Opens settings.sourcePath ["src"] entries ∧
      ∃ before after, (work.measureFolders settings).result = .ok before ∧
        (other.measureFolders settings).result = .ok after ∧ after.findings = before.findings := by
  intro entries work other settings
  have hp : work.tree.top.IsProper := by
    have hlib : (Node.folder [("a.ts", .file [])]).IsProper :=
      Node.isProper_folder_iff.mpr ⟨List.pairwise_singleton _ _, by decide, by simp⟩
    have hsrc : (Node.folder entries).IsProper :=
      Node.isProper_folder_iff.mpr ⟨List.pairwise_singleton _ _, by decide, by simp [entries, hlib]⟩
    exact Node.isProper_folder_iff.mpr ⟨List.pairwise_singleton _ _, by decide, by simpa using hsrc⟩
  have hq : other.tree.top.IsProper := by
    refine hp.update (fun held hh => ?_) ["src"]
    exact hh.insert (by decide) (Node.isProper_folder_iff.mpr ⟨List.Pairwise.nil, by simp, by simp⟩)
  have hopens : work.tree.Opens settings.sourcePath ["src"] entries := by
    have hpath : settings.sourcePath = Path.child ⟨"", []⟩ "src" := by decide
    have hbase : work.tree.Opens ⟨"", []⟩ [] [("src", .folder entries)] := ⟨rfl, by rw [Node.at?]⟩
    rw [hpath]
    exact hbase.child (by decide) rfl
  have hadds : work.tree.AddsFolder other.tree ["src"] ".git" [] := hopens.addsFolder_put (by decide) []
  obtain ⟨before, after, hbefore, hafter, hiff⟩ := findings_eq_iff hp hq hadds (by decide) hopens
  refine ⟨hp, hq, hadds, hopens, before, after, hbefore, hafter, hiff.mpr ⟨?_, ?_⟩⟩
  · rintro ⟨names, held, hplace, hreached, -⟩
    cases names with
    | nil => exact hreached.1 rfl
    | cons name names => cases hplace
  · rintro ⟨hplace, -⟩
    cases hplace

/-- A folder of packages in a folder that mixes its files keeps it from being reported. -/
theorem findings_ne_packages :
    let panel : List (String × Node) := [("a.tsx", .file []), ("b.tsx", .file []), ("c.tsx", .file []),
      ("d.tsx", .file []), ("e.tsx", .file []), ("useA.ts", .file [])]
    let work : Workplace :=
      { tree := ⟨.folder [("src", .folder [("panel", .folder panel)])], []⟩, tools := fun _ => .error .notJson }
    let other : Workplace := { work with tree := work.tree.put ["src", "panel"] "node_modules" (.folder []) }
    let settings : Settings := { source := "src" }
    work.tree.AddsFolder other.tree ["src", "panel"] "node_modules" [] ∧
      (other.measureFolders settings).result.map Check.findings ≠
        (work.measureFolders settings).result.map Check.findings := by
  intro panel work other settings
  have hpanel : (Node.folder panel).IsProper :=
    Node.isProper_folder_iff.mpr ⟨by decide, by decide, by simp [panel]⟩
  have hsrc : (Node.folder [("panel", Node.folder panel)]).IsProper :=
    Node.isProper_folder_iff.mpr ⟨List.pairwise_singleton _ _, by decide, by simpa using hpanel⟩
  have hp : work.tree.top.IsProper :=
    Node.isProper_folder_iff.mpr ⟨List.pairwise_singleton _ _, by decide, by simpa using hsrc⟩
  have hq : other.tree.top.IsProper := by
    refine hp.update (fun held hh => ?_) ["src", "panel"]
    exact hh.insert (by decide) (Node.isProper_folder_iff.mpr ⟨List.Pairwise.nil, by simp, by simp⟩)
  have hopens : work.tree.Opens settings.sourcePath ["src"] [("panel", .folder panel)] := by
    have hpath : settings.sourcePath = Path.child ⟨"", []⟩ "src" := by decide
    have hbase : work.tree.Opens ⟨"", []⟩ [] [("src", .folder [("panel", .folder panel)])] :=
      ⟨rfl, by rw [Node.at?]⟩
    rw [hpath]
    exact hbase.child (by decide) rfl
  have hheld : work.tree.Opens (settings.sourcePath.child "panel") ["src", "panel"] panel :=
    hopens.child (by decide) rfl
  have hadds : work.tree.AddsFolder other.tree ["src", "panel"] "node_modules" [] :=
    hheld.addsFolder_put (by decide) []
  have hfound : (Node.folder [("panel", Node.folder panel)]).at? ["panel"] = some (.folder panel) := by
    rw [← Node.at?_append hopens.held]
    exact hheld.held
  have hmixed : IsMixedPlace [("panel", .folder panel)] ["src"] ["src", "panel"] := by
    refine ⟨["panel"], panel, rfl, ⟨by decide, by decide, panel, hfound⟩, hfound, by decide, by decide, ?_, ?_⟩
    · exact ⟨("a.tsx", .file []), List.mem_cons_self, by decide⟩
    · refine ⟨("useA.ts", .file []), List.mem_of_getLast? rfl, by decide, by decide, .inr (by decide)⟩
  exact ⟨hadds, findings_ne_of_isMixedPlace hp hq hadds (by decide) hopens hmixed⟩

end Checkup.Folder
