import Checkup.Proofs.AddedFiles
import Checkup.Proofs.FolderDepths

/-!
# Features

A feature is a folder among those of the base folder's features, and its components are the
entries of one folder in it. The issues about features are those about the ones with too many
components, each once and in the order of the names, whatever else lies among them.
-/

namespace Checkup.Folder

variable {entries held : List (String × Node)} {tree : FileTree} {path : Path} {place : List String}
  {name : String}

/-! ## What is held at a place -/

/-- The entries of the folder that names lead to; none if they lead to no folder. -/
def heldAt (entries : List (String × Node)) (names : List String) : List (String × Node) :=
  (((Node.folder entries).at? names).map Node.entries).getD []

/-- Names that lead to a folder lead to its entries. -/
theorem heldAt_of_folder {names : List String} (h : (Node.folder entries).at? names = some (.folder held)) :
    heldAt entries names = held := by
  unfold heldAt
  rw [h]
  rfl

/-- Names that lead to no folder lead to no entries. -/
theorem heldAt_of_not_folder {names : List String} (h : (Node.folder entries).sight names ≠ .folder) :
    heldAt entries names = [] := by
  unfold heldAt
  unfold Node.sight at h
  cases hn : (Node.folder entries).at? names with
  | none => rfl
  | some node =>
    cases node with
    | file bytes => rfl
    | folder held =>
      rw [hn] at h
      exact absurd rfl h

/-! ## Crowded features -/

/-- The number of components of a feature. -/
def componentsOf (entries : List (String × Node)) (feature : String) : Nat :=
  componentCount (heldAt entries ["features", feature, "components"])

/-- The features with too many components. -/
def crowdedFeatures (entries : List (String × Node)) : List String :=
  (Node.folderNames (heldAt entries ["features"])).filter fun feature =>
    componentsLimit < componentsOf entries feature

/-- The issue about a feature with too many components. -/
def crowdedIssue (tree : FileTree) (root base : Path) (entries : List (String × Node)) (feature : String) :
    Issue :=
  featureIssue (Path.shown tree.workingFolder root (((base.child "features").child feature).child "components"))
    feature (componentsOf entries feature)

/-- What is held further below is what the folder on the way holds there. -/
theorem heldAt_cons (h : entries.lookup name = some (.folder held)) (names : List String) :
    heldAt entries (name :: names) = heldAt held names := by
  unfold heldAt
  rw [Node.at?_folder_cons, h, Option.bind_some]

/-- Nothing is held below a name of no folder. -/
theorem heldAt_cons_of_ne (h : ∀ held, entries.lookup name ≠ some (.folder held)) (names : List String) :
    heldAt entries (name :: names) = [] := by
  refine heldAt_of_not_folder fun hfolder => ?_
  obtain ⟨held, hheld⟩ := Node.sight_eq_folder_iff.mp hfolder
  obtain ⟨given, child, hgiven, hchild, hbelow⟩ := Node.exists_of_at?_cons hheld
  cases hgiven
  cases child with
  | folder inner => exact h inner hchild
  | file bytes =>
    cases names with
    | nil =>
      rw [Node.at?] at hbelow
      cases hbelow
    | cons next names =>
      rw [Node.at?_file] at hbelow
      cases hbelow

/-- A name of a folder leads to its entries. -/
theorem heldAt_singleton (h : entries.lookup name = some (.folder held)) : heldAt entries [name] = held := by
  rw [heldAt_cons h, heldAt_of_folder (by rw [Node.at?])]

/-- A name of an open folder's entry is listed if it is that of a folder. -/
theorem list_child_cases (h : tree.Opens path place entries) (hd : name ≠ "..") :
    (∃ held, entries.lookup name = some (.folder held) ∧ tree.list (path.child name) = .ok held) ∨
      (∀ held, entries.lookup name ≠ some (.folder held)) ∧ ∃ fault, tree.list (path.child name) = .error fault := by
  unfold FileTree.list
  rw [h.find_child hd]
  cases entries.lookup name with
  | none => exact .inr ⟨nofun, _, rfl⟩
  | some node =>
    cases node with
    | file bytes => exact .inr ⟨nofun, _, rfl⟩
    | folder held => exact .inl ⟨held, rfl, rfl⟩

/-- The folders of a proper folder are found under their names. -/
theorem mem_folderNames_iff (hp : (Node.folder entries).IsProper) :
    name ∈ Node.folderNames entries ↔ ∃ held, entries.lookup name = some (.folder held) := by
  rw [Node.folderNames_eq_namesOf, hp.mem_namesOf_iff fun _ => rfl]
  cases entries.lookup name with
  | none => exact ⟨nofun, nofun⟩
  | some node =>
    cases node with
    | file bytes => exact ⟨nofun, nofun⟩
    | folder held => exact ⟨fun _ => ⟨held, rfl⟩, fun _ => rfl⟩

/-- A feature with a component is a folder. -/
theorem mem_folderNames_of_componentsOf (hp : (Node.folder entries).IsProper) {feature : String}
    (h : 0 < componentsOf entries feature) : feature ∈ Node.folderNames (heldAt entries ["features"]) := by
  have hsome : heldAt entries ["features", feature, "components"] ≠ [] := by
    intro hnil
    rw [componentsOf, hnil] at h
    cases h
  have hfeatures : ∃ held, entries.lookup "features" = some (.folder held) := by
    by_contra hnot
    exact hsome (heldAt_cons_of_ne (fun held hheld => hnot ⟨held, hheld⟩) _)
  obtain ⟨held, hheld⟩ := hfeatures
  rw [heldAt_singleton hheld, mem_folderNames_iff (hp.child hheld).1]
  rw [heldAt_cons hheld] at hsome
  by_contra hnot
  exact hsome (heldAt_cons_of_ne (fun inner hinner => hnot ⟨inner, hinner⟩) _)

/-- The features that are reported are those with more components than are allowed. -/
theorem mem_crowdedFeatures_iff (hp : (Node.folder entries).IsProper) {feature : String} :
    feature ∈ crowdedFeatures entries ↔ 20 < componentsOf entries feature := by
  unfold crowdedFeatures
  rw [List.mem_filter, decide_eq_true_iff]
  exact and_iff_right_of_imp fun h =>
    mem_folderNames_of_componentsOf hp (Nat.lt_of_le_of_lt (Nat.zero_le _) h)

/-- They are reported in the order of their names. -/
theorem pairwise_crowdedFeatures (hp : (Node.folder entries).IsProper) :
    (crowdedFeatures entries).Pairwise (· < ·) := by
  refine List.Pairwise.filter _ ?_
  by_cases hfeatures : ∃ held, entries.lookup "features" = some (.folder held)
  · obtain ⟨held, hheld⟩ := hfeatures
    rw [heldAt_singleton hheld]
    exact (hp.child hheld).1.sorted_names _
  · rw [heldAt_cons_of_ne fun held hheld => hfeatures ⟨held, hheld⟩]
    exact List.Pairwise.nil

/-- The issue about a feature in an open folder, if it is crowded. -/
theorem featureIssue?_eq (hp : (Node.folder held).IsProper) (h : tree.Opens path place entries)
    (hf : entries.lookup "features" = some (.folder held)) (root : Path) {feature : String}
    (hm : feature ∈ Node.folderNames held) :
    featureIssue? tree root (path.child "features") feature =
      if 20 < componentsOf entries feature then some (crowdedIssue tree root path entries feature) else none := by
  obtain ⟨inner, hinner⟩ := (mem_folderNames_iff hp).mp hm
  have hopens := (h.child (by decide) hf).child (hp.child hinner).2.dots hinner
  have hcount : componentsOf entries feature = componentCount (heldAt inner ["components"]) := by
    rw [componentsOf, heldAt_cons hf, heldAt_cons hinner]
  have hcomponents : "components" ≠ ".." := by decide
  unfold featureIssue?
  dsimp only
  rcases list_child_cases hopens hcomponents with ⟨found, hfound, hlist⟩ | ⟨hnone, fault, hlist⟩
  · rw [hlist, crowdedIssue, hcount, heldAt_singleton hfound]
    rfl
  · rw [hlist, hcount, heldAt_cons_of_ne hnone]
    rfl

/-- The issues about features are those about the crowded ones. -/
theorem featureIssues_eq (hp : tree.top.IsProper) (h : tree.Opens path place entries) (root : Path) :
    featureIssues tree root path = (crowdedFeatures entries).map (crowdedIssue tree root path entries) := by
  have hfeatures : "features" ≠ ".." := by decide
  unfold featureIssues crowdedFeatures
  dsimp only
  rcases list_child_cases h hfeatures with ⟨held, hheld, hlist⟩ | ⟨hnone, fault, hlist⟩
  · have hproper : (Node.folder held).IsProper := ((hp.at? h.held).1.child hheld).1
    rw [hlist, heldAt_singleton hheld, ← List.filterMap_eq_map, List.filterMap_filter]
    refine List.filterMap_congr fun feature hfeature => ?_
    rw [featureIssue?_eq hproper h hheld root hfeature]
    simp only [decide_eq_true_eq]
    rfl
  · rw [hlist, heldAt_cons_of_ne hnone]
    rfl

end Checkup.Folder
