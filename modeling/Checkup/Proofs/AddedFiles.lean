import Checkup.Proofs.Walks
import Mathlib.Data.List.Sort
import Mathlib.Data.String.Basic

/-!
# Files and folders that are added

One file more changes what is seen of a tree at its place alone: no folder comes or goes,
so every path that led to a folder leads to the same one. One folder more comes with all that
lies in it, and changes what is seen at its place and below it alone, so every other folder
keeps its files. What is written where nothing was, and what is removed, are such changes.
-/

namespace Checkup

namespace Node

variable {node : Node} {entries : List (String × Node)}

/-- A file is seen where a file is. -/
theorem sight_eq_file_iff {place : List String} {bytes : List UInt8} :
    node.sight place = .file bytes ↔ node.at? place = some (file bytes) := by
  unfold sight
  cases node.at? place with
  | none => simp [sightOf]
  | some found => cases found <;> simp [sightOf]

/-- What is seen below a place is what is seen below the node there. -/
theorem sight_append {place : List String} {below : Node} (h : node.at? place = some below)
    (names : List String) : node.sight (place ++ names) = below.sight names := by
  unfold sight
  rw [at?_append h]

/-- A change of a folder's entries is not seen at places that do not lie below the folder,
or are the folder. -/
theorem sight_update_of_ne {place sought : List String}
    (h : ∀ name more, sought ≠ place ++ name :: more) (change : List (String × Node) → List (String × Node)) :
    (node.update change place).sight sought = node.sight sought := by
  induction place generalizing node sought with
  | nil =>
    cases sought with
    | nil =>
      cases node with
      | file bytes => rw [update]
      | folder entries => rw [update, sight, sight, at?, at?, sightOf, sightOf]
    | cons name more => exact absurd rfl (h name more)
  | cons first place ih =>
    cases node with
    | file bytes => rw [update]
    | folder entries =>
      rw [update]
      cases sought with
      | nil => rw [sight, sight, at?, at?, sightOf, sightOf]
      | cons name sought =>
        simp only [sight, at?_folder_cons]
        rw [lookup_map_ite first name (update change · place)]
        by_cases hn : name = first
        · subst hn
          rw [if_pos rfl]
          cases entries.lookup name with
          | none => rfl
          | some child =>
            simp only [Option.map_some, Option.bind_some]
            exact ih fun next more he => h next more (by rw [he, List.cons_append])
        · rw [if_neg hn]

/-- A change of a folder's entries is seen below the folder. -/
theorem sight_update_append {place : List String} (h : node.at? place = some (folder entries))
    (change : List (String × Node) → List (String × Node)) (names : List String) :
    (node.update change place).sight (place ++ names) = (folder (change entries)).sight names :=
  sight_append (at?_update_self h change) names

/-- A name that was taken out is not found, and every other is found as before. -/
theorem lookup_erase (name sought : String) (entries : List (String × Node)) :
    (erase name entries).lookup sought = if sought = name then none else entries.lookup sought := by
  induction entries with
  | nil => simp [erase]
  | cons entry entries ih =>
    obtain ⟨other, held⟩ := entry
    unfold erase at ih ⊢
    rw [List.filter_cons]
    by_cases ho : other = name
    · subst ho
      rw [if_neg (by simp), ih]
      by_cases hs : sought = other
      · rw [if_pos hs, if_pos hs]
      · have hb : (sought == other) = false := by simp [hs]
        rw [if_neg hs, if_neg hs, List.lookup_cons, hb]
    · rw [if_pos (by simp [ho]), List.lookup_cons, List.lookup_cons]
      by_cases hs : sought = other
      · subst hs
        simp [ho]
      · have hb : (sought == other) = false := by simp [hs]
        rw [hb, ih]

/-- Entries to which one is added are this one and others of them. -/
theorem mem_insert {name : String} {added : Node} {entry : String × Node}
    (h : entry ∈ insert name added entries) : entry = (name, added) ∨ entry ∈ entries := by
  induction entries with
  | nil => exact .inl (List.mem_singleton.mp h)
  | cons first entries ih =>
    obtain ⟨other, held⟩ := first
    unfold insert at h
    split at h
    · exact List.mem_cons.mp h
    · split at h
      · exact (List.mem_cons.mp h).imp_right (List.mem_cons_of_mem _)
      · rcases List.mem_cons.mp h with rfl | hlater
        · exact .inr List.mem_cons_self
        · exact (ih hlater).imp_right (List.mem_cons_of_mem _)

/-- An entry is put in where its name belongs. -/
theorem pairwise_insert (name : String) (added : Node) (hs : entries.Pairwise (·.1 < ·.1)) :
    (insert name added entries).Pairwise (·.1 < ·.1) := by
  induction entries with
  | nil => exact List.pairwise_singleton _ _
  | cons first entries ih =>
    obtain ⟨other, held⟩ := first
    obtain ⟨hlater, hrest⟩ := List.pairwise_cons.mp hs
    unfold insert
    split
    · next hlt =>
      refine List.pairwise_cons.mpr ⟨fun entry he => ?_, hs⟩
      rcases List.mem_cons.mp he with rfl | he
      · exact hlt
      · exact String.lt_trans hlt (hlater entry he)
    · next hle =>
      split
      · next he =>
        subst he
        exact List.pairwise_cons.mpr ⟨hlater, hrest⟩
      · next hne =>
        refine List.pairwise_cons.mpr ⟨fun entry he => ?_, ih hrest⟩
        rcases mem_insert he with rfl | he
        · exact lt_of_le_of_ne (not_lt.mp hle) (Ne.symm hne)
        · exact hlater entry he

/-- A proper folder with one proper entry more is proper. -/
theorem IsProper.insert {name : String} {added : Node} (hp : (folder entries).IsProper)
    (hn : IsFileName name) (ha : added.IsProper) : (folder (Node.insert name added entries)).IsProper := by
  cases hp with
  | branch sorted names held =>
    refine .branch (pairwise_insert name added sorted) (fun entry he => ?_) fun entry he => ?_
    · rcases mem_insert he with rfl | he
      · exact hn
      · exact names entry he
    · rcases mem_insert he with rfl | he
      · exact ha
      · exact held entry he

/-- A proper folder with one entry less is proper. -/
theorem IsProper.erase (name : String) (hp : (folder entries).IsProper) :
    (folder (Node.erase name entries)).IsProper := by
  cases hp with
  | branch sorted names held =>
    exact .branch (sorted.filter _) (fun entry he => names entry (List.mem_filter.mp he).1)
      fun entry he => held entry (List.mem_filter.mp he).1

/-- A proper tree stays so when a folder changes that stays proper. -/
theorem IsProper.update {change : List (String × Node) → List (String × Node)} (hp : node.IsProper)
    (hc : ∀ entries, (folder entries).IsProper → (folder (change entries)).IsProper) (place : List String) :
    (node.update change place).IsProper := by
  induction place generalizing node with
  | nil =>
    cases hp with
    | leaf bytes =>
      rw [Node.update]
      exact .leaf bytes
    | branch sorted names held =>
      rw [Node.update]
      exact hc _ (.branch sorted names held)
  | cons first place ih =>
    cases hp with
    | leaf bytes =>
      rw [Node.update]
      exact .leaf bytes
    | @branch entries sorted names held =>
      rw [Node.update]
      have hname : ∀ entry : String × Node,
          (if entry.1 = first then (entry.1, entry.2.update change place) else entry).1 = entry.1 := by
        intro entry
        split <;> rfl
      refine .branch ?_ ?_ ?_
      · rw [List.pairwise_map]
        simp only [hname]
        exact sorted
      · intro entry he
        obtain ⟨given, hgiven, rfl⟩ := List.mem_map.mp he
        rw [hname]
        exact names given hgiven
      · intro entry he
        obtain ⟨given, hgiven, rfl⟩ := List.mem_map.mp he
        split
        · exact ih (held given hgiven)
        · exact held given hgiven

end Node

namespace FileTree

variable {tree changed old new : FileTree} {path : Path} {place : List String}
  {entries : List (String × Node)} {bytes : List UInt8}

/-- A file was added at a place where nothing was, and nothing else changed. -/
structure AddsFile (old new : FileTree) (place : List String) (bytes : List UInt8) : Prop where
  workingFolder : new.workingFolder = old.workingFolder
  before : old.sight place = .nothing
  after : new.sight place = .file bytes
  others : ∀ other, other ≠ place → new.sight other = old.sight other

/-- A file that is put into an open folder under a new name is added. -/
theorem Opens.addsFile_put (h : tree.Opens path place entries) {name : String}
    (hn : entries.lookup name = none) (bytes : List UInt8) :
    tree.AddsFile (tree.put place name (.file bytes)) (place ++ [name]) bytes where
  workingFolder := rfl
  before := by
    rw [sight, Node.sight, Node.at?_append_singleton h.held, hn]
    rfl
  after := by
    rw [sight, FileTree.put, Node.sight_update_append h.held, Node.sight, Node.at?_folder_cons,
      Node.lookup_insert_self, Option.bind_some, Node.at?]
    rfl
  others other hne := by
    by_contra hs
    have hnot : tree.top.sight (place ++ [name]) ≠ .folder := by
      rw [Node.sight, Node.at?_append_singleton h.held, hn]
      exact Sight.noConfusion
    exact hne (Node.sight_update_insert place hnot rfl hs).1

/-- A file that is taken out of an open folder was all that the tree had more. -/
theorem addsFile_erase {name : String} (hheld : tree.top.at? place = some (.folder entries))
    (hn : entries.lookup name = some (.file bytes)) :
    AddsFile { tree with top := tree.top.update (Node.erase name) place } tree (place ++ [name]) bytes where
  workingFolder := rfl
  before := by
    rw [sight, Node.sight_update_append hheld, Node.sight, Node.at?_folder_cons, Node.lookup_erase,
      if_pos rfl]
    rfl
  after := by
    rw [sight, Node.sight, Node.at?_append_singleton hheld, hn]
    rfl
  others other hne := by
    by_cases hbelow : ∃ next more, other = place ++ next :: more
    · obtain ⟨next, more, rfl⟩ := hbelow
      rw [sight, sight, Node.sight_update_append hheld, Node.sight_append hheld]
      by_cases hsame : next = name
      · subst hsame
        cases more with
        | nil => exact absurd rfl hne
        | cons second more =>
          have hfile : (Node.folder entries).sight [next] = .file bytes := by
            rw [Node.sight, Node.at?_folder_cons, hn, Option.bind_some, Node.at?]
            rfl
          have hnothing : (Node.folder entries).sight (next :: second :: more) = .nothing :=
            Node.sight_append_eq_nothing (by rw [hfile]; exact Sight.noConfusion) second more
          rw [hnothing, Node.sight, Node.at?_folder_cons, Node.lookup_erase, if_pos rfl]
          rfl
      · rw [Node.sight, Node.sight, Node.at?_folder_cons, Node.at?_folder_cons, Node.lookup_erase,
          if_neg hsame]
    · rw [sight, sight, Node.sight_update_of_ne fun next more he => hbelow ⟨next, more, he⟩]

/-- A file that is removed was all that the tree had more. -/
theorem addsFile_of_remove (htop : tree.top.isFolder = true) (hf : tree.hasFile path = true)
    (h : tree.remove path = .ok changed) : ∃ place bytes, changed.AddsFile tree place bytes := by
  unfold hasFile find at hf
  unfold remove at h
  cases hl : tree.locate path with
  | error trouble =>
    rw [hl] at h
    cases h
  | ok place =>
    rw [hl] at h hf
    dsimp only at h hf
    obtain ⟨bytes, hfile⟩ : ∃ bytes, tree.top.at? place = some (.file bytes) := by
      cases hn : tree.top.at? place with
      | none =>
        rw [hn] at hf
        cases hf
      | some node =>
        rw [hn] at hf
        cases node with
        | file bytes => exact ⟨bytes, rfl⟩
        | folder entries => cases hf
    rcases List.eq_nil_or_concat place with rfl | ⟨above, name, hplace⟩
    · rw [Node.at?] at hfile
      rw [Option.some.inj hfile] at htop
      cases htop
    · rw [List.concat_eq_append] at hplace
      subst hplace
      obtain ⟨entries, hentries⟩ := Node.exists_folder_of_at?_append hfile
      rw [Node.at?_append_singleton hentries] at hfile
      rw [List.getLast?_concat, List.dropLast_concat] at h
      cases h
      exact ⟨above ++ [name], bytes, addsFile_erase hentries hfile⟩

/-- A file that is written into a folder, where nothing was, is added. -/
theorem addsFile_of_writeBytes (hfolder : tree.hasFolder path.parent = true)
    (hnew : tree.find path = .error .missing) (h : tree.writeBytes path bytes = .ok changed) :
    ∃ place, tree.AddsFile changed place bytes := by
  obtain ⟨above, name, hl, hn, -, rfl⟩ := put_of_writeBytes h
  obtain ⟨place, entries, hopens⟩ := exists_opens hfolder
  obtain rfl : place = above := Except.ok.inj (hopens.located.symm.trans hl)
  rw [← child_parent hn] at hnew
  have hd : name ≠ ".." := by
    rintro rfl
    obtain ⟨held, hheld⟩ := hopens.exists_find_above
    rw [hheld] at hnew
    cases hnew
  rw [hopens.find_child hd] at hnew
  have hlookup : entries.lookup name = none := by
    cases he : entries.lookup name with
    | none => rfl
    | some node =>
      rw [he] at hnew
      cases hnew
  exact ⟨place ++ [name], hopens.addsFile_put hlookup bytes⟩

/-- A proper tree is proper after a write under a name of a file. -/
theorem isProper_of_writeBytes (hp : tree.top.IsProper) (hn : ∀ name, path.name? = some name → IsFileName name)
    (h : tree.writeBytes path bytes = .ok changed) : changed.top.IsProper := by
  obtain ⟨above, name, -, hname, -, rfl⟩ := put_of_writeBytes h
  exact hp.update (fun entries hentries => hentries.insert (hn name hname) (.leaf bytes)) above

/-- A proper tree is proper after something was removed. -/
theorem isProper_of_remove (hp : tree.top.IsProper) (h : tree.remove path = .ok changed) :
    changed.top.IsProper := by
  unfold remove at h
  split at h
  · cases h
  · split at h
    · cases h
      exact hp
    · next name _ =>
      cases h
      exact hp.update (fun entries hentries => hentries.erase name) _

/-! ## Paths to folders -/

/-- A name that leads to a folder leads there in every tree with the same folders. -/
theorem step_of_folders (hf : ∀ place, old.sight place = .folder → new.sight place = .folder)
    {next : List String} {name : String} (hs : old.step place name = .ok next)
    (hn : old.sight next = .folder) : new.step place name = .ok next := by
  unfold step at hs ⊢
  cases ho : old.top.at? place with
  | none =>
    rw [ho] at hs
    cases hs
  | some node =>
    rw [ho] at hs
    cases node with
    | file bytes => cases hs
    | folder held =>
      obtain ⟨entries, hentries⟩ :=
        Node.sight_eq_folder_iff.mp (hf place (Node.sight_eq_folder_iff.mpr ⟨held, ho⟩))
      rw [hentries]
      dsimp only at hs ⊢
      by_cases hd : name = ".."
      · rw [if_pos hd] at hs ⊢
        exact hs
      · rw [if_neg hd] at hs ⊢
        by_cases hin : (held.lookup name).isSome = true
        · rw [if_pos hin] at hs
          cases hs
          obtain ⟨inner, hinner⟩ := Node.sight_eq_folder_iff.mp (hf _ hn)
          rw [Node.at?_append_singleton hentries] at hinner
          rw [hinner]
          rfl
        · rw [if_neg hin] at hs
          cases hs

/-- All that names lead through is folders, if they lead to one. -/
theorem sight_of_locateFrom {names found : List String} (hl : tree.locateFrom place names = .ok found)
    (hf : tree.sight found = .folder) : tree.sight place = .folder := by
  cases names with
  | nil =>
    cases hl
    exact hf
  | cons name names =>
    rw [locateFrom] at hl
    unfold step at hl
    rw [sight, Node.sight_eq_folder_iff]
    cases hn : tree.top.at? place with
    | none =>
      rw [hn] at hl
      cases hl
    | some node =>
      cases node with
      | file bytes =>
        rw [hn] at hl
        cases hl
      | folder entries => exact ⟨entries, rfl⟩

/-- Names that lead to a folder lead there in every tree with the same folders. -/
theorem locateFrom_of_folders (hf : ∀ place, old.sight place = .folder → new.sight place = .folder)
    {names found : List String} (hl : old.locateFrom place names = .ok found)
    (hfound : old.sight found = .folder) : new.locateFrom place names = .ok found := by
  induction names generalizing place with
  | nil => exact hl
  | cons name names ih =>
    rw [locateFrom] at hl ⊢
    cases hs : old.step place name with
    | error trouble =>
      rw [hs] at hl
      cases hl
    | ok next =>
      rw [hs] at hl
      rw [step_of_folders hf hs (sight_of_locateFrom hl hfound)]
      exact ih hl

/-- A folder is open in every tree with the same folders. -/
theorem Opens.of_folders (h : old.Opens path place entries) (hw : new.workingFolder = old.workingFolder)
    (hf : ∀ place, old.sight place = .folder → new.sight place = .folder) :
    ∃ held, new.Opens path place held := by
  have hfolder : old.sight place = .folder := Node.sight_eq_folder_iff.mpr ⟨entries, h.held⟩
  obtain ⟨held, hheld⟩ := Node.sight_eq_folder_iff.mp (hf place hfolder)
  have hstart : new.start path = old.start path := by
    unfold start
    rw [hw]
  refine ⟨held, ?_, hheld⟩
  unfold locate
  rw [hstart]
  exact locateFrom_of_folders hf h.located hfolder

/-- No folder comes or goes with a file. -/
theorem AddsFile.sight_eq_folder_iff (h : old.AddsFile new place bytes) (sought : List String) :
    new.sight sought = .folder ↔ old.sight sought = .folder := by
  by_cases hs : sought = place
  · rw [hs, h.before, h.after]
    constructor <;> exact Sight.noConfusion
  · rw [h.others sought hs]

/-- A path leads to a folder whether a file is added or not. -/
theorem AddsFile.exists_opens_iff {added : List String} (h : old.AddsFile new added bytes) :
    (∃ entries, new.Opens path place entries) ↔ ∃ entries, old.Opens path place entries := by
  constructor
  · rintro ⟨entries, hopens⟩
    exact hopens.of_folders h.workingFolder.symm fun sought => (h.sight_eq_folder_iff sought).mp
  · rintro ⟨entries, hopens⟩
    exact hopens.of_folders h.workingFolder fun sought => (h.sight_eq_folder_iff sought).mpr

end FileTree

/-! ## Folders that are added -/

namespace Node

variable {node : Node} {entries held inner : List (String × Node)} {name : String}

/-- A change of one name in a folder is not seen at places that do not lead through it. -/
theorem sight_update_of_not_below {place other : List String} (h : node.at? place = some (folder entries))
    {change : List (String × Node) → List (String × Node)}
    (hc : ∀ next, next ≠ name → (change entries).lookup next = entries.lookup next)
    (hn : ¬ place ++ [name] <+: other) : (node.update change place).sight other = node.sight other := by
  by_cases hbelow : ∃ next more, other = place ++ next :: more
  · obtain ⟨next, more, rfl⟩ := hbelow
    have hne : next ≠ name := by
      rintro rfl
      exact hn ⟨more, by rw [List.append_assoc, List.singleton_append]⟩
    rw [sight_update_append h, sight_append h]
    simp only [sight, at?_folder_cons, hc next hne]
  · exact sight_update_of_ne (fun next more he => hbelow ⟨next, more, he⟩) change

/-- The names of those entries that are sought by their names and by what is seen of them. -/
def namesOf (sought : String → Sight → Bool) (entries : List (String × Node)) : List String :=
  (entries.filter fun entry => sought entry.1 (sightOf (some entry.2))).map Prod.fst

/-- The files are sought by what is seen of them. -/
theorem fileNames_eq_namesOf (entries : List (String × Node)) :
    fileNames entries = namesOf (fun _ sight => sight matches .file _) entries := by
  refine congrArg (List.map Prod.fst) (List.filter_congr fun entry _ => ?_)
  cases entry.2 <;> rfl

/-- So are the folders. -/
theorem folderNames_eq_namesOf (entries : List (String × Node)) :
    folderNames entries = namesOf (fun _ sight => sight matches .folder) entries := by
  refine congrArg (List.map Prod.fst) (List.filter_congr fun entry _ => ?_)
  cases entry.2 <;> rfl

/-- A name is among those of a proper folder if what is seen under it is sought. -/
theorem IsProper.mem_namesOf_iff (hp : (folder entries).IsProper) {sought : String → Sight → Bool}
    (hs : ∀ name, sought name .nothing = false) :
    name ∈ namesOf sought entries ↔ sought name (sightOf (entries.lookup name)) = true := by
  obtain ⟨sorted, -, -⟩ := isProper_folder_iff.mp hp
  rw [namesOf, List.mem_map]
  constructor
  · rintro ⟨⟨name, node⟩, hentry, rfl⟩
    obtain ⟨hin, hsought⟩ := List.mem_filter.mp hentry
    rw [(lookup_eq_some_iff sorted).mpr hin]
    exact hsought
  · intro hsought
    cases hn : entries.lookup name with
    | none =>
      rw [hn, sightOf, hs] at hsought
      cases hsought
    | some node =>
      rw [hn] at hsought
      exact ⟨(name, node), List.mem_filter.mpr ⟨(lookup_eq_some_iff sorted).mp hn, hsought⟩, rfl⟩

/-- In two proper folders the same names are sought if under each name the same is seen, as far
as it is sought. -/
theorem IsProper.namesOf_eq (hh : (folder held).IsProper) (hi : (folder inner).IsProper)
    {sought : String → Sight → Bool} (hs : ∀ name, sought name .nothing = false)
    (h : ∀ name, sought name (sightOf (inner.lookup name)) = sought name (sightOf (held.lookup name))) :
    namesOf sought inner = namesOf sought held := by
  refine (hi.sorted_names _).eq_of_mem_iff (hh.sorted_names _) fun name => ?_
  change name ∈ namesOf sought inner ↔ name ∈ namesOf sought held
  rw [hi.mem_namesOf_iff hs, hh.mem_namesOf_iff hs, h]

end Node

namespace FileTree

variable {tree changed old new : FileTree} {path : Path} {place above : List String} {name : String}
  {entries held inner : List (String × Node)}

/-- A folder was added in another under a name where nothing was, and nothing else changed. -/
structure AddsFolder (old new : FileTree) (above : List String) (name : String)
    (held : List (String × Node)) : Prop where
  workingFolder : new.workingFolder = old.workingFolder
  before : old.top.at? (above ++ [name]) = none
  after : new.top.at? (above ++ [name]) = some (.folder held)
  others : ∀ other, ¬ above ++ [name] <+: other → new.sight other = old.sight other

/-- A folder that is put into an open folder under a new name is added. -/
theorem Opens.addsFolder_put (h : tree.Opens path place entries) (hn : entries.lookup name = none)
    (held : List (String × Node)) : tree.AddsFolder (tree.put place name (.folder held)) place name held where
  workingFolder := rfl
  before := by rw [Node.at?_append_singleton h.held, hn]
  after := by
    have hfolder := Node.at?_update_self h.held (Node.insert name (.folder held))
    rw [FileTree.put, Node.at?_append_singleton hfolder, Node.lookup_insert_self]
  others other hother :=
    Node.sight_update_of_not_below h.held (fun _ hne => Node.lookup_insert_of_ne hne _ _) hother

/-- A folder that is removed was, with all that it held, what the tree had more. -/
theorem addsFolder_of_remove (h : tree.Opens path place held) (hne : place ≠ [])
    (hr : tree.remove path = .ok changed) :
    ∃ above name, place = above ++ [name] ∧ changed.AddsFolder tree above name held := by
  rcases List.eq_nil_or_concat place with rfl | ⟨above, name, hplace⟩
  · exact absurd rfl hne
  · rw [List.concat_eq_append] at hplace
    subst hplace
    obtain ⟨entries, hentries⟩ := Node.exists_folder_of_at?_append h.held
    unfold remove at hr
    rw [h.located] at hr
    dsimp only at hr
    rw [List.getLast?_concat, List.dropLast_concat] at hr
    cases hr
    have herased := Node.at?_update_self hentries (Node.erase name)
    refine ⟨above, name, rfl, rfl, ?_, h.held, fun other hother => ?_⟩
    · rw [Node.at?_append_singleton herased, Node.lookup_erase, if_pos rfl]
    · refine (Node.sight_update_of_not_below hentries (fun next hnext => ?_) hother).symm
      rw [Node.lookup_erase, if_neg hnext]

namespace AddsFolder

/-- Where a folder was before the new one came, no place on the way is new. -/
theorem not_below (h : old.AddsFolder new above name held) (hf : old.top.at? place = some (.folder entries)) :
    ¬ above ++ [name] <+: place := by
  rintro ⟨more, rfl⟩
  cases more with
  | nil =>
    rw [List.append_nil, h.before] at hf
    cases hf
  | cons next more =>
    obtain ⟨inner, hinner⟩ := Node.exists_folder_of_at?_append hf
    rw [h.before] at hinner
    cases hinner

/-- Every folder is still there. -/
theorem exists_folder (h : old.AddsFolder new above name held) (hf : old.top.at? place = some (.folder entries)) :
    ∃ inner, new.top.at? place = some (.folder inner) := by
  have hseen := h.others place (h.not_below hf)
  rw [sight, sight, Node.sight_eq_folder_iff.mpr ⟨entries, hf⟩] at hseen
  exact Node.sight_eq_folder_iff.mp hseen

/-- A path that led to a folder leads to the same one. -/
theorem exists_opens (h : old.AddsFolder new above name held) (ho : old.Opens path place entries) :
    ∃ inner, new.Opens path place inner :=
  ho.of_folders h.workingFolder fun sought hs => by
    obtain ⟨entries, hentries⟩ := Node.sight_eq_folder_iff.mp hs
    exact Node.sight_eq_folder_iff.mpr (h.exists_folder hentries)

/-- What is seen in a folder that was there before is what was seen, under every other name or in
every other folder. -/
theorem sight_child (h : old.AddsFolder new above name held) (ho : old.top.at? place = some (.folder entries))
    (hn : new.top.at? place = some (.folder inner)) {next : String} (hne : next ≠ name ∨ place ≠ above) :
    Node.sightOf (inner.lookup next) = Node.sightOf (entries.lookup next) := by
  have hother : ¬ above ++ [name] <+: place ++ [next] := by
    intro hleads
    rcases List.prefix_concat_iff.mp hleads with hsame | hshorter
    · obtain ⟨rfl, hname⟩ := List.append_inj' hsame rfl
      rcases hne with hne | hne
      · exact hne (List.singleton_inj.mp hname).symm
      · exact hne rfl
    · exact h.not_below ho hshorter
  have hseen := h.others _ hother
  rwa [sight, sight, Node.sight, Node.sight, Node.at?_append_singleton hn, Node.at?_append_singleton ho] at hseen

/-- A folder that was there before holds the same names, of those that are sought, if the new
folder is not sought in it. -/
theorem namesOf_eq (h : old.AddsFolder new above name held) (ho : old.top.at? place = some (.folder entries))
    (hn : new.top.at? place = some (.folder inner)) (hpo : old.top.IsProper) (hpn : new.top.IsProper)
    {sought : String → Sight → Bool} (hs : ∀ name, sought name .nothing = false)
    (hnew : place = above → sought name .folder = false) :
    Node.namesOf sought inner = Node.namesOf sought entries := by
  refine (hpo.at? ho).1.namesOf_eq (hpn.at? hn).1 hs fun next => ?_
  by_cases hsame : next = name ∧ place = above
  · obtain ⟨rfl, rfl⟩ := hsame
    have hbefore : entries.lookup next = none := by rw [← Node.at?_append_singleton ho, h.before]
    have hafter : inner.lookup next = some (.folder held) := by rw [← Node.at?_append_singleton hn, h.after]
    rw [hbefore, hafter]
    exact (hnew rfl).trans (hs next).symm
  · rw [h.sight_child ho hn (not_and_or.mp hsame)]

end AddsFolder

end FileTree

end Checkup
