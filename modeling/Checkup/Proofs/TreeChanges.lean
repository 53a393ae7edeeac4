import Checkup.Proofs.FileTreeWrites
import Checkup.Report.Files
import Checkup.Settings.Template

/-!
# What changes in a tree

A tree is seen place by place: nothing, a file with its bytes, or a folder. A write
changes what is seen at one place, and making folders changes only places on the way to
the path that is asked for, where nothing was seen before. Steps that change little
change little together, for no later step takes away a folder that was found.
-/

namespace Checkup

/-- What is seen at a place, leaving aside what lies below it. -/
inductive Sight where
  | nothing
  | file (bytes : List UInt8)
  | folder
  deriving DecidableEq

namespace Node

/-- What is seen of a node, if there is one. -/
def sightOf : Option Node → Sight
  | none => .nothing
  | some (file bytes) => .file bytes
  | some (folder _) => .folder

/-- What is seen at the place that names lead to. -/
def sight (node : Node) (place : List String) : Sight := sightOf (node.at? place)

/-- A folder is seen where a folder is. -/
theorem sight_eq_folder_iff {node : Node} {place : List String} :
    node.sight place = .folder ↔ ∃ entries, node.at? place = some (folder entries) := by
  unfold sight
  cases node.at? place with
  | none => simp [sightOf]
  | some found => cases found <;> simp [sightOf]

/-- Where something lies further below, a folder is. -/
theorem exists_folder_of_at?_append {node found : Node} {place more : List String} {name : String}
    (h : node.at? (place ++ name :: more) = some found) :
    ∃ entries, node.at? place = some (folder entries) := by
  induction place generalizing node with
  | nil =>
    obtain ⟨entries, child, rfl, -, -⟩ := exists_of_at?_cons h
    exact ⟨entries, by rw [at?]⟩
  | cons first names ih =>
    obtain ⟨entries, child, rfl, hchild, hrest⟩ := exists_of_at?_cons h
    rw [at?_folder_cons, hchild]
    exact ih hrest

/-- Below a place where no folder is nothing is seen. -/
theorem sight_append_eq_nothing {node : Node} {place : List String} (h : node.sight place ≠ .folder)
    (name : String) (more : List String) : node.sight (place ++ name :: more) = .nothing := by
  unfold sight
  cases hb : node.at? (place ++ name :: more) with
  | none => rfl
  | some found => exact absurd (sight_eq_folder_iff.mpr (exists_folder_of_at?_append hb)) h

/-- What is kept twice is kept. -/
theorem Keeps.trans {old mid new : Node} (h : old.Keeps mid) (hm : mid.Keeps new) : old.Keeps new := by
  intro place entries hplace
  obtain ⟨between, hbetween, hnames⟩ := h place entries hplace
  obtain ⟨found, hfound, hmore⟩ := hm place between hbetween
  exact ⟨found, hfound, fun name hname => hmore name (hnames name hname)⟩

/-- Folders are kept where what changes was no folder before and is something afterwards. -/
theorem keeps_of_sight {old new : Node}
    (h : ∀ place, new.sight place ≠ old.sight place →
      old.sight place ≠ .folder ∧ new.sight place ≠ .nothing) : old.Keeps new := by
  intro place entries hplace
  have hold : old.sight place = .folder := sight_eq_folder_iff.mpr ⟨entries, hplace⟩
  have hnew : new.sight place = .folder := by
    by_cases he : new.sight place = old.sight place
    · exact he.trans hold
    · exact absurd hold (h place he).1
  obtain ⟨found, hfound⟩ := sight_eq_folder_iff.mp hnew
  refine ⟨found, hfound, fun name hname => ?_⟩
  obtain ⟨child, hchild⟩ := Option.isSome_iff_exists.mp hname
  have hseen : old.sight (place ++ [name]) ≠ .nothing := by
    rw [sight, at?_append_singleton hplace, hchild]
    cases child <;> simp [sightOf]
  have hstill : new.sight (place ++ [name]) ≠ .nothing := by
    by_cases he : new.sight (place ++ [name]) = old.sight (place ++ [name])
    · rw [he]
      exact hseen
    · exact (h _ he).2
  rw [← at?_append_singleton hfound, Option.isSome_iff_ne_none]
  intro hnone
  exact hstill (by rw [sight, hnone, sightOf])

/-- What is put into a folder under a name, a file or an empty folder, is seen there under
this name alone, unless it takes away a folder. -/
theorem sight_insert {entries : List (String × Node)} {added : Node} {name : String}
    (hf : (folder entries).sight [name] ≠ .folder) (ha : added.entries = []) {sought : List String}
    (hs : (folder (insert name added entries)).sight sought ≠ (folder entries).sight sought) :
    sought = [name] ∧ (folder (insert name added entries)).sight sought = sightOf (some added) := by
  cases sought with
  | nil =>
    simp only [sight, at?, sightOf, ne_eq, not_true_eq_false] at hs
  | cons first more =>
    simp only [sight, at?_folder_cons] at hs ⊢
    by_cases hn : first = name
    · subst hn
      rw [lookup_insert_self, Option.bind_some] at hs ⊢
      cases more with
      | nil => exact ⟨rfl, by rw [at?]⟩
      | cons second more =>
        have hnew : added.at? (second :: more) = none := by
          rw [at?, ha]
          rfl
        have hold : (folder entries).sight ([first] ++ second :: more) = .nothing :=
          sight_append_eq_nothing hf second more
        have hsame : sightOf ((entries.lookup first).bind fun node => node.at? (second :: more)) =
            .nothing := by
          rw [← hold, sight, List.singleton_append, at?_folder_cons]
        rw [hnew, hsame] at hs
        exact absurd rfl hs
    · rw [lookup_insert_of_ne hn] at hs
      exact absurd rfl hs

/-- What is put in at a place under a name, a file or an empty folder, is seen there alone,
unless it takes away a folder. -/
theorem sight_update_insert {node added : Node} {name : String} (place : List String)
    (hf : node.sight (place ++ [name]) ≠ .folder) (ha : added.entries = []) {sought : List String}
    (hs : (node.update (insert name added) place).sight sought ≠ node.sight sought) :
    sought = place ++ [name] ∧ node.sight place = .folder ∧
      (node.update (insert name added) place).sight sought = sightOf (some added) := by
  induction place generalizing node sought with
  | nil =>
    cases node with
    | file bytes =>
      rw [update] at hs
      exact absurd rfl hs
    | folder entries =>
      rw [update] at hs ⊢
      obtain ⟨hsought, hseen⟩ := sight_insert hf ha hs
      exact ⟨hsought, by rw [sight, at?, sightOf], hseen⟩
  | cons next names ih =>
    cases node with
    | file bytes =>
      rw [update] at hs
      exact absurd rfl hs
    | folder entries =>
      rw [update] at hs ⊢
      cases sought with
      | nil =>
        simp only [sight, at?, sightOf, ne_eq, not_true_eq_false] at hs
      | cons first more =>
        simp only [sight, at?_folder_cons, List.cons_append] at hs hf ⊢
        rw [lookup_map_ite next first (update (insert name added) · names)] at hs ⊢
        by_cases hn : first = next
        · subst hn
          rw [if_pos rfl] at hs ⊢
          cases hchild : entries.lookup first with
          | none =>
            rw [hchild] at hs
            exact absurd rfl hs
          | some child =>
            rw [hchild] at hs hf
            simp only [Option.map_some, Option.bind_some] at hs hf ⊢
            obtain ⟨rfl, hfolder, hseen⟩ := ih hf hs
            exact ⟨rfl, hfolder, hseen⟩
        · rw [if_neg hn] at hs
          exact absurd rfl hs

end Node

namespace FileTree

/-- What is seen at a place of a tree. -/
def sight (tree : FileTree) (place : List String) : Sight := tree.top.sight place

/-- What is seen of a tree changes at most at some places, and no folder is lost. -/
structure ChangesOnly (old new : FileTree) (touched : List String → Prop) : Prop where
  workingFolder : new.workingFolder = old.workingFolder
  /-- Every folder is still there, with all its names. -/
  keeps : old.top.Keeps new.top
  places : ∀ place, new.sight place ≠ old.sight place → touched place

/-- A file with these bytes was made, or written over another, where a path leads. -/
structure WroteFile (old new : FileTree) (path : Path) (bytes : List UInt8) (place : List String) :
    Prop where
  located : new.locate path = .ok place
  before : old.sight place ≠ .folder
  after : new.sight place = .file bytes

/-- A folder was made where nothing was, on the way to a path or at its end. -/
structure MadeFolder (old new : FileTree) (path : Path) (place : List String) : Prop where
  located : ∃ names, names <+: path.names ∧ new.locate { path with names } = .ok place
  before : old.sight place = .nothing
  after : new.sight place = .folder

namespace ChangesOnly

variable {old mid new : FileTree} {first second touched : List String → Prop}

/-- Nothing changes in a tree that stays as it is. -/
theorem refl (tree : FileTree) : tree.ChangesOnly tree touched where
  workingFolder := rfl
  keeps := .refl tree.top
  places _ h := absurd rfl h

/-- More places may be named than those that change. -/
theorem mono (h : old.ChangesOnly new first) (hw : ∀ place, first place → second place) :
    old.ChangesOnly new second where
  workingFolder := h.workingFolder
  keeps := h.keeps
  places place hp := hw place (h.places place hp)

/-- A path that leads somewhere still leads there. -/
theorem locate (h : old.ChangesOnly new touched) {path : Path} {place : List String}
    (hl : old.locate path = .ok place) : new.locate path = .ok place := by
  have hstart : new.start path = old.start path := by
    unfold start
    rw [h.workingFolder]
  unfold FileTree.locate at hl ⊢
  rw [hstart]
  exact locateFrom_of_keeps h.keeps hl

/-- Two changes one after the other: what the first changed may be seen at the end, or it
was changed again. -/
theorem trans (hf : old.ChangesOnly mid first) (hs : mid.ChangesOnly new second)
    (hfirst : ∀ place, first place → new.sight place = mid.sight place → touched place)
    (hsecond : ∀ place, second place → mid.sight place = old.sight place ∨ first place → touched place) :
    old.ChangesOnly new touched where
  workingFolder := hs.workingFolder.trans hf.workingFolder
  keeps := hf.keeps.trans hs.keeps
  places place hp := by
    by_cases hlate : new.sight place = mid.sight place
    · exact hfirst place (hf.places place fun he => hp (hlate.trans he)) hlate
    · refine hsecond place (hs.places place hlate) ?_
      by_cases hearly : mid.sight place = old.sight place
      · exact .inl hearly
      · exact .inr (hf.places place hearly)

end ChangesOnly

variable {tree changed : FileTree} {path : Path} {place : List String}

/-- Above an open folder is a folder. -/
theorem Opens.exists_find_above {entries : List (String × Node)} (h : tree.Opens path place entries) :
    ∃ above, tree.find (path.child "..") = .ok (.folder above) := by
  have hfolder : ∃ above, tree.top.at? place.dropLast = some (.folder above) := by
    rcases List.eq_nil_or_concat place with rfl | ⟨names, name, hplace⟩
    · exact ⟨entries, h.held⟩
    · rw [List.concat_eq_append] at hplace
      subst hplace
      rw [List.dropLast_concat]
      exact Node.exists_folder_of_at?_append h.held
  obtain ⟨above, habove⟩ := hfolder
  have hl : tree.locate (path.child "..") = .ok place.dropLast := by
    have hstep : tree.step place ".." = .ok place.dropLast := by
      unfold step
      rw [h.held]
      rfl
    have hlocated := h.located
    unfold locate at hlocated ⊢
    change tree.locateFrom (tree.start path) (path.names ++ [".."]) = _
    rw [locateFrom_append, hlocated]
    exact hstep
  refine ⟨above, ?_⟩
  unfold find
  rw [hl]
  dsimp only
  rw [habove]

/-- A path with a last name is that name below the path above it. -/
theorem child_parent {name : String} (hn : path.name? = some name) : path.parent.child name = path := by
  unfold Path.name? at hn
  obtain ⟨names, hnames⟩ := List.getLast?_eq_some_iff.mp hn
  cases path with
  | mk anchor all =>
    dsimp only at hnames
    subst hnames
    simp [Path.parent, Path.child]

/-- What is put in where a path leads, a file or an empty folder, changes that place alone.
Nothing changes if the folder above is not there. -/
theorem changesOnly_put {name : String} {added : Node} (hl : tree.locate path.parent = .ok place)
    (hn : path.name? = some name) (hfind : ∀ entries, tree.find path ≠ .ok (.folder entries))
    (ha : added.entries = []) :
    tree.ChangesOnly (tree.put place name added) fun sought =>
      (tree.put place name added).locate path = .ok sought ∧
        tree.sight sought = Node.sightOf (tree.find path).toOption ∧
          (tree.put place name added).sight sought = Node.sightOf (some added) := by
  rw [← child_parent hn] at hfind ⊢
  by_cases hfolder : tree.sight place = .folder
  · obtain ⟨entries, hheld⟩ := Node.sight_eq_folder_iff.mp hfolder
    have hopens : tree.Opens path.parent place entries := ⟨hl, hheld⟩
    have hd : name ≠ ".." := by
      rintro rfl
      obtain ⟨above, habove⟩ := hopens.exists_find_above
      exact hfind above habove
    have hsight : tree.sight (place ++ [name]) =
        Node.sightOf (tree.find (path.parent.child name)).toOption := by
      rw [hopens.find_child hd, sight, Node.sight, Node.at?_append_singleton hheld]
      cases entries.lookup name <;> rfl
    have hfree : ∀ held, entries.lookup name ≠ some (.folder held) := by
      intro held hlookup
      exact hfind held (by rw [hopens.find_child hd, hlookup])
    have hnot : tree.sight (place ++ [name]) ≠ .folder := by
      intro hseen
      obtain ⟨held, hlookup⟩ := Node.sight_eq_folder_iff.mp hseen
      rw [Node.at?_append_singleton hheld] at hlookup
      exact hfree held hlookup
    have hopens' := hopens.put hfree added
    have hlocate : (tree.put place name added).locate (path.parent.child name) = .ok (place ++ [name]) := by
      rw [hopens'.locate_child hd, Node.lookup_insert_self]
      rfl
    refine ⟨rfl, Node.keeps_update_insert hheld hfree added, fun sought hsought => ?_⟩
    obtain ⟨rfl, -, hseen⟩ := Node.sight_update_insert place hnot ha hsought
    exact ⟨hlocate, hsight, hseen⟩
  · have hnot : tree.top.sight (place ++ [name]) ≠ .folder := by
      rw [Node.sight_append_eq_nothing hfolder name []]
      exact Sight.noConfusion
    have hsame : ∀ sought, (tree.put place name added).sight sought = tree.sight sought := by
      intro sought
      by_cases he : (tree.put place name added).sight sought = tree.sight sought
      · exact he
      · exact absurd (Node.sight_update_insert place hnot ha he).2.1 hfolder
    exact ⟨rfl, Node.keeps_of_sight fun sought hne => absurd (hsame sought) hne,
      fun sought hne => absurd (hsame sought) hne⟩

/-- A write that succeeded put its file into the folder above, and no folder was there. -/
theorem put_of_writeBytes {bytes : List UInt8} (h : tree.writeBytes path bytes = .ok changed) :
    ∃ place name, tree.locate path.parent = .ok place ∧ path.name? = some name ∧
      (∀ entries, tree.find path ≠ .ok (.folder entries)) ∧ changed = tree.put place name (.file bytes) := by
  unfold writeBytes at h
  split at h
  · cases h
  · split at h
    · next place name hl hn => exact ⟨place, name, hl, hn, by simp_all, by cases h; rfl⟩
    · cases h
    · cases h
  · split at h
    · next place name hl hn => exact ⟨place, name, hl, hn, by simp_all, by cases h; rfl⟩
    · cases h
    · cases h
  · cases h

/-- A folder that was made was put into the folder above, and nothing was there. -/
theorem put_of_makeFolder (h : tree.makeFolder path = .ok changed) :
    ∃ place name, tree.locate path.parent = .ok place ∧ path.name? = some name ∧
      tree.find path = .error .missing ∧ changed = tree.put place name (.folder []) := by
  unfold makeFolder at h
  split at h
  · cases h
  · next hfind =>
    split at h
    · next place name hl hn => exact ⟨place, name, hl, hn, hfind, by cases h; rfl⟩
    · cases h
    · cases h
  · cases h

/-- A write changes the place of its file alone, where what the path led to was seen before. -/
theorem changesOnly_writeBytes {bytes : List UInt8} (h : tree.writeBytes path bytes = .ok changed) :
    tree.ChangesOnly changed fun place =>
      tree.WroteFile changed path bytes place ∧ tree.sight place = Node.sightOf (tree.find path).toOption := by
  obtain ⟨above, name, hl, hn, hfind, rfl⟩ := put_of_writeBytes h
  refine (changesOnly_put hl hn hfind rfl).mono fun sought ⟨hlocate, hbefore, hafter⟩ =>
    ⟨⟨hlocate, ?_, hafter⟩, hbefore⟩
  rw [hbefore]
  cases hf : tree.find path with
  | error trouble => exact Sight.noConfusion
  | ok node =>
    cases node with
    | file held => exact Sight.noConfusion
    | folder entries => exact absurd hf (hfind entries)

/-- Making a folder changes its place alone. -/
theorem changesOnly_makeFolder (h : tree.makeFolder path = .ok changed) :
    tree.ChangesOnly changed (tree.MadeFolder changed path) := by
  obtain ⟨above, name, hl, hn, hfind, rfl⟩ := put_of_makeFolder h
  have hnot : ∀ entries, tree.find path ≠ .ok (.folder entries) := by
    intro entries hf
    rw [hfind] at hf
    cases hf
  refine (changesOnly_put hl hn hnot rfl).mono fun sought ⟨hlocate, hbefore, hafter⟩ =>
    ⟨⟨path.names, List.prefix_rfl, hlocate⟩, ?_, hafter⟩
  rw [hbefore, hfind]
  rfl

/-- Making sure of a folder changes its place alone. -/
theorem changesOnly_ensureFolder (h : tree.ensureFolder path = .ok changed) :
    tree.ChangesOnly changed (tree.MadeFolder changed path) := by
  unfold ensureFolder at h
  split at h
  · next made hmade =>
    cases h
    exact changesOnly_makeFolder hmade
  · split at h
    · cases h
      exact .refl tree
    · cases h

/-- What was made on the way to the path above is on the way to the path. -/
theorem MadeFolder.of_parent (h : tree.MadeFolder changed path.parent place) :
    tree.MadeFolder changed path place where
  located := by
    obtain ⟨names, hnames, hl⟩ := h.located
    exact ⟨names, hnames.trans path.names.dropLast_prefix, hl⟩
  before := h.before
  after := h.after

/-- A folder that was made is made, if later steps leave its place as it is. -/
theorem MadeFolder.of_changesOnly {mid : FileTree} {touched : List String → Prop}
    (h : tree.MadeFolder mid path place) (hs : mid.ChangesOnly changed touched)
    (hsame : changed.sight place = mid.sight place) : tree.MadeFolder changed path place where
  located := by
    obtain ⟨names, hnames, hl⟩ := h.located
    exact ⟨names, hnames, hs.locate hl⟩
  before := h.before
  after := hsame.trans h.after

/-- A file that was written is written, if later steps leave its place as it is. -/
theorem WroteFile.of_changesOnly {mid : FileTree} {bytes : List UInt8} {touched : List String → Prop}
    (h : tree.WroteFile mid path bytes place) (hs : mid.ChangesOnly changed touched)
    (hsame : changed.sight place = mid.sight place) : tree.WroteFile changed path bytes place where
  located := hs.locate h.located
  before := h.before
  after := hsame.trans h.after

/-- Making folders changes only places on the way, where nothing was, even if it is
refused further down. -/
theorem changesOnly_makeFolders (tree : FileTree) (path : Path) :
    tree.ChangesOnly (tree.makeFolders path).1 (tree.MadeFolder (tree.makeFolders path).1 path) := by
  fun_induction makeFolders tree path with
  | case1 path made hmade => exact changesOnly_ensureFolder hmade
  | case2 path _ _ _ above _ habove ih =>
    rw [habove] at ih
    exact ih.mono fun place hp => hp.of_parent
  | case3 path _ _ _ above habove made hmade ih =>
    rw [habove] at ih
    have hlast := changesOnly_ensureFolder hmade
    refine ih.trans hlast (fun place hp hsame => hp.of_parent.of_changesOnly hlast hsame) fun place hp hearly => ?_
    refine ⟨hp.located, ?_, hp.after⟩
    -- what was made before cannot be made again
    rcases hearly with he | hearly
    · exact he.symm.trans hp.before
    · exact hearly.before
  | case4 path _ _ _ above habove _ _ ih =>
    rw [habove] at ih
    exact ih.mono fun place hp => hp.of_parent
  | case5 path _ _ _ => exact .refl tree

/-- The same for a path that may hold what no file system admits. -/
theorem changesOnly_ensureFolders (tree : FileTree) (path : Path) :
    tree.ChangesOnly (tree.ensureFolders path).1 (tree.MadeFolder (tree.ensureFolders path).1 path) := by
  have hfolders := changesOnly_makeFolders tree path
  unfold ensureFolders
  cases ha : accept path with
  | error fault => exact .refl tree
  | ok accepted =>
    have haccepted : accepted = path := by
      unfold accept at ha
      split at ha <;> cases ha
      rfl
    subst haccepted
    dsimp only
    cases hm : tree.makeFolders accepted with
    | mk made outcome =>
      rw [hm] at hfolders
      cases outcome <;> exact hfolders

end FileTree

namespace Report

open FileTree

/-- What writing a report to a folder may change: the folder and those above it are made
where nothing was, and the two files are written. -/
def Touches (old new : FileTree) (folder : Path) (place : List String) : Prop :=
  old.MadeFolder new folder place ∨
    (∃ bytes, old.WroteFile new (ReportPaths.within folder).markdown bytes place) ∨
      ∃ bytes, old.WroteFile new (ReportPaths.within folder).json bytes place

/-- A file that is written where nothing but a file of the report was before. -/
theorem not_folder_of_touches {old mid : FileTree} {folder : Path} {place : List String}
    (hb : mid.sight place ≠ .folder) (h : mid.sight place = old.sight place ∨ Touches old mid folder place) :
    old.sight place ≠ .folder := by
  rcases h with he | hm | ⟨bytes, hw⟩ | ⟨bytes, hw⟩
  · rwa [← he]
  · exact absurd hm.after hb
  · exact hw.before
  · exact hw.before

/-- What was touched is touched, if later steps leave it as it is. -/
theorem Touches.of_changesOnly {old mid new : FileTree} {folder : Path} {place : List String}
    {touched : List String → Prop} (h : Touches old mid folder place) (hs : mid.ChangesOnly new touched)
    (hsame : new.sight place = mid.sight place) : Touches old new folder place := by
  rcases h with hm | ⟨bytes, hw⟩ | ⟨bytes, hw⟩
  · exact .inl (hm.of_changesOnly hs hsame)
  · exact .inr (.inl ⟨bytes, hw.of_changesOnly hs hsame⟩)
  · exact .inr (.inr ⟨bytes, hw.of_changesOnly hs hsame⟩)

/-- Writing a report changes nothing but its two files and missing folders on the way to
them, however far it gets. -/
theorem changesOnly_writeFiles (report : Report) (tree : FileTree) (folder : Path) :
    tree.ChangesOnly (report.writeFiles tree folder).1 (Touches tree (report.writeFiles tree folder).1 folder) := by
  have hmade := changesOnly_ensureFolders tree folder
  unfold writeFiles
  dsimp only
  cases he : tree.ensureFolders folder with
  | mk made outcome =>
  rw [he] at hmade
  have hfolders : tree.ChangesOnly made (Touches tree made folder) := hmade.mono fun place hp => .inl hp
  cases outcome with
  | error fault => exact hfolders
  | ok done =>
  dsimp only
  cases hr : Markdown.render report (ReportPaths.within folder).json.toString with
  | error fault => exact hfolders
  | ok markdown =>
  dsimp only
  cases hfirst : made.writeText (ReportPaths.within folder).markdown markdown with
  | error fault => exact hfolders
  | ok first =>
  have hfile := changesOnly_writeBytes hfirst
  have hfiles : tree.ChangesOnly first (Touches tree first folder) := by
    refine hfolders.trans hfile (fun place hp hsame => hp.of_changesOnly hfile hsame) fun place ⟨hw, _⟩ hearly => ?_
    exact .inr (.inl ⟨_, hw.located, not_folder_of_touches hw.before hearly, hw.after⟩)
  dsimp only
  cases hsecond : first.writeText (ReportPaths.within folder).json (Archive.ofReport report).write with
  | error fault => exact hfiles
  | ok second =>
  have hlast := changesOnly_writeBytes hsecond
  refine hfiles.trans hlast (fun place hp hsame => hp.of_changesOnly hlast hsame) fun place ⟨hw, _⟩ hearly => ?_
  exact .inr (.inr ⟨_, hw.located, not_folder_of_touches hw.before hearly, hw.after⟩)

end Report

end Checkup
