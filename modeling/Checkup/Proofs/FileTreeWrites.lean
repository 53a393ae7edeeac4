import Checkup.FileTree

/-!
# Files written into a tree

A file that is put into a folder takes no folder away, so every path that led
somewhere before still does. In particular a folder that was found is found again
after a write into it, and holds what was written before and what was written now.
A write that succeeded was one into a folder that was found.
-/

namespace Checkup

namespace Node

/-- Every folder of one tree is a folder of the other, with all its names. -/
def Keeps (old new : Node) : Prop :=
  ∀ place entries, old.at? place = some (.folder entries) →
    ∃ found, new.at? place = some (.folder found) ∧
      ∀ name, (entries.lookup name).isSome = true → (found.lookup name).isSome = true

/-- Nothing lies below a file. -/
theorem at?_file (bytes : List UInt8) (name : String) (names : List String) :
    (file bytes).at? (name :: names) = none := by
  rw [at?]
  rfl

/-- What lies below an entry of a folder is what lies below the entry. -/
theorem at?_folder_cons (entries : List (String × Node)) (name : String) (names : List String) :
    (folder entries).at? (name :: names) = (entries.lookup name).bind fun node => node.at? names := by
  rw [at?]
  rfl

/-- A node that holds something below a name is a folder with that name. -/
theorem exists_of_at?_cons {node found : Node} {name : String} {names : List String}
    (h : node.at? (name :: names) = some found) :
    ∃ entries child, node = folder entries ∧ entries.lookup name = some child ∧
      child.at? names = some found := by
  cases node with
  | file bytes =>
    rw [at?_file] at h
    cases h
  | folder entries =>
    rw [at?_folder_cons] at h
    obtain ⟨child, hchild, hfound⟩ := Option.bind_eq_some_iff.mp h
    exact ⟨entries, child, rfl, hchild, hfound⟩

/-- One name further from a folder is an entry of it. -/
theorem at?_append_singleton {node : Node} {place : List String} {entries : List (String × Node)}
    (h : node.at? place = some (folder entries)) (name : String) :
    node.at? (place ++ [name]) = entries.lookup name := by
  induction place generalizing node with
  | nil =>
    rw [at?] at h
    cases h
    rw [List.nil_append, at?_folder_cons]
    cases entries.lookup name with
    | none => rfl
    | some node => rw [Option.bind_some, at?]
  | cons first more ih =>
    obtain ⟨given, child, rfl, hchild, hfound⟩ := exists_of_at?_cons h
    rw [List.cons_append, at?_folder_cons, hchild]
    exact ih hfound

/-- Where something lies, something lies at every place above. -/
theorem exists_of_at?_append {node found : Node} {place more : List String}
    (h : node.at? (place ++ more) = some found) : ∃ above, node.at? place = some above := by
  induction place generalizing node with
  | nil => exact ⟨node, by rw [at?]⟩
  | cons name names ih =>
    obtain ⟨entries, child, rfl, hchild, hfound⟩ := exists_of_at?_cons h
    rw [at?_folder_cons, hchild]
    exact ih hfound

/-- An entry that is changed is found changed, and every other as it was. -/
theorem lookup_map_ite (name sought : String) (change : Node → Node) (entries : List (String × Node)) :
    (entries.map fun entry => if entry.1 = name then (entry.1, change entry.2) else entry).lookup sought =
      if sought = name then (entries.lookup sought).map change else entries.lookup sought := by
  induction entries with
  | nil =>
    rw [List.map_nil, List.lookup_nil]
    split <;> rfl
  | cons entry entries ih =>
    obtain ⟨other, held⟩ := entry
    rw [List.map_cons, List.lookup_cons]
    by_cases ho : other = name
    · by_cases hs : sought = other
      · subst ho hs
        simp
      · have hb : (sought == other) = false := by simp [hs]
        simp only [if_pos ho, List.lookup_cons, hb, ih]
    · by_cases hs : sought = other
      · subst hs
        simp [ho]
      · have hb : (sought == other) = false := by simp [hs]
        simp only [if_neg ho, List.lookup_cons, hb, ih]

/-- A change of the entries at a place is found at that place. -/
theorem at?_update_self {node : Node} {place : List String} {entries : List (String × Node)}
    (h : node.at? place = some (folder entries)) (change : List (String × Node) → List (String × Node)) :
    (node.update change place).at? place = some (folder (change entries)) := by
  induction place generalizing node with
  | nil =>
    rw [at?] at h
    cases h
    rw [update, at?]
  | cons name names ih =>
    obtain ⟨held, child, rfl, hchild, hfound⟩ := exists_of_at?_cons h
    rw [update, at?_folder_cons, lookup_map_ite name name (update change · names), if_pos rfl, hchild]
    exact ih hfound

/-- A tree keeps itself. -/
theorem Keeps.refl (node : Node) : node.Keeps node :=
  fun _ entries h => ⟨entries, h, fun _ hs => hs⟩

/-- A file has no folders to keep. -/
theorem keeps_file (bytes : List UInt8) (new : Node) : (file bytes).Keeps new := by
  intro place entries h
  cases place with
  | nil =>
    rw [at?] at h
    cases h
  | cons name names =>
    rw [at?_file] at h
    cases h

/-- A folder is kept if each of its entries is. -/
theorem keeps_folder {old new : List (String × Node)}
    (h : ∀ name child, old.lookup name = some child →
      ∃ found, new.lookup name = some found ∧ child.Keeps found) :
    (folder old).Keeps (folder new) := by
  intro place entries hplace
  cases place with
  | nil =>
    rw [at?] at hplace
    cases hplace
    refine ⟨new, by rw [at?], fun name hs => ?_⟩
    obtain ⟨child, hchild⟩ := Option.isSome_iff_exists.mp hs
    obtain ⟨found, hfound, -⟩ := h name child hchild
    rw [hfound]
    rfl
  | cons name names =>
    rw [at?_folder_cons] at hplace
    obtain ⟨child, hchild, hheld⟩ := Option.bind_eq_some_iff.mp hplace
    obtain ⟨found, hfound, hkeeps⟩ := h name child hchild
    rw [at?_folder_cons, hfound]
    exact hkeeps names entries hheld

/-- An entry takes no folder away where no folder is. -/
theorem keeps_insert {entries : List (String × Node)} {name : String}
    (hf : ∀ held, entries.lookup name ≠ some (folder held)) (added : Node) :
    (folder entries).Keeps (folder (insert name added entries)) := by
  refine keeps_folder fun sought child hchild => ?_
  by_cases hn : sought = name
  · subst hn
    refine ⟨added, lookup_insert_self _ _ _, ?_⟩
    cases child with
    | file bytes => exact keeps_file bytes added
    | folder held => exact absurd hchild (hf held)
  · rw [lookup_insert_of_ne hn]
    exact ⟨child, hchild, .refl child⟩

/-- A folder is kept if the entry that is changed is. -/
theorem keeps_map_ite {entries : List (String × Node)} {name : String} {child : Node}
    (hchild : entries.lookup name = some child) (change : Node → Node) (h : child.Keeps (change child)) :
    (folder entries).Keeps
      (folder (entries.map fun entry => if entry.1 = name then (entry.1, change entry.2) else entry)) := by
  refine keeps_folder fun sought found hfound => ?_
  rw [lookup_map_ite]
  by_cases hs : sought = name
  · subst hs
    rw [hchild] at hfound
    cases hfound
    rw [if_pos rfl, hchild]
    exact ⟨change child, rfl, h⟩
  · rw [if_neg hs]
    exact ⟨found, hfound, .refl found⟩

/-- What is put in where no folder is takes no folder away. -/
theorem keeps_update_insert {node : Node} {place : List String} {entries : List (String × Node)}
    {name : String} (h : node.at? place = some (folder entries))
    (hf : ∀ held, entries.lookup name ≠ some (folder held)) (added : Node) :
    node.Keeps (node.update (insert name added) place) := by
  induction place generalizing node with
  | nil =>
    rw [at?] at h
    cases h
    rw [update]
    exact keeps_insert hf added
  | cons first more ih =>
    obtain ⟨given, child, rfl, hchild, hfound⟩ := exists_of_at?_cons h
    rw [update]
    exact keeps_map_ite hchild (update (insert name added) · more) (ih hfound)

end Node

namespace FileTree

/-- A path leads to a folder at a place, with these entries. -/
structure Opens (tree : FileTree) (path : Path) (place : List String)
    (entries : List (String × Node)) : Prop where
  located : tree.locate path = .ok place
  held : tree.top.at? place = some (.folder entries)

/-- A path that leads to a folder opens it. -/
theorem exists_opens {tree : FileTree} {path : Path} (h : tree.hasFolder path = true) :
    ∃ place entries, tree.Opens path place entries := by
  unfold hasFolder find at h
  cases hl : tree.locate path with
  | error trouble =>
    rw [hl] at h
    cases h
  | ok place =>
    rw [hl] at h
    dsimp only at h
    cases hn : tree.top.at? place with
    | none =>
      rw [hn] at h
      cases h
    | some node =>
      rw [hn] at h
      cases node with
      | file bytes => cases h
      | folder entries => exact ⟨place, entries, hl, hn⟩

/-- A name further is followed at the end of the names before it. -/
theorem locateFrom_append (tree : FileTree) (place names : List String) (name : String) :
    tree.locateFrom place (names ++ [name]) =
      (tree.locateFrom place names).bind fun found => tree.step found name := by
  induction names generalizing place with
  | nil =>
    change tree.locateFrom place [name] = tree.step place name
    rw [locateFrom]
    cases tree.step place name with
    | ok next => rfl
    | error trouble => rfl
  | cons first names ih =>
    rw [List.cons_append, locateFrom, locateFrom]
    cases tree.step place first with
    | ok next => exact ih next
    | error trouble => rfl

/-- A name that leads on where no folder was lost still does. -/
theorem step_of_keeps {tree changed : FileTree} (h : tree.top.Keeps changed.top) {place next : List String}
    {name : String} (hs : tree.step place name = .ok next) : changed.step place name = .ok next := by
  unfold step at hs ⊢
  cases hn : tree.top.at? place with
  | none =>
    rw [hn] at hs
    cases hs
  | some node =>
    rw [hn] at hs
    cases node with
    | file bytes => cases hs
    | folder entries =>
      obtain ⟨held, hheld, hnames⟩ := h place entries hn
      rw [hheld]
      dsimp only at hs ⊢
      by_cases hd : name = ".."
      · rw [if_pos hd] at hs ⊢
        exact hs
      · rw [if_neg hd] at hs ⊢
        by_cases hin : (entries.lookup name).isSome = true
        · rw [if_pos hin] at hs
          rw [if_pos (hnames name hin)]
          exact hs
        · rw [if_neg hin] at hs
          cases hs

/-- What is found where no folder was lost is found again. -/
theorem locateFrom_of_keeps {tree changed : FileTree} (h : tree.top.Keeps changed.top)
    {place names found : List String} (hl : tree.locateFrom place names = .ok found) :
    changed.locateFrom place names = .ok found := by
  induction names generalizing place with
  | nil => exact hl
  | cons name names ih =>
    rw [locateFrom] at hl ⊢
    cases hs : tree.step place name with
    | error trouble =>
      rw [hs] at hl
      cases hl
    | ok next =>
      rw [hs] at hl
      rw [step_of_keeps h hs]
      exact ih hl

variable {tree : FileTree} {path : Path} {place : List String} {entries : List (String × Node)}

/-- An entry of an open folder is one name further. -/
theorem Opens.locate_child (h : tree.Opens path place entries) {name : String} (hd : name ≠ "..") :
    tree.locate (path.child name) =
      if (entries.lookup name).isSome then .ok (place ++ [name]) else .error .missing := by
  have hstep : tree.step place name =
      if (entries.lookup name).isSome then .ok (place ++ [name]) else .error .missing := by
    unfold step
    rw [h.held]
    dsimp only
    rw [if_neg hd]
  have hl := h.located
  unfold locate at hl ⊢
  change tree.locateFrom (tree.start path) (path.names ++ [name]) = _
  rw [locateFrom_append, hl, ← hstep]
  rfl

/-- What an entry of an open folder leads to. -/
theorem Opens.find_child (h : tree.Opens path place entries) {name : String} (hd : name ≠ "..") :
    tree.find (path.child name) =
      match entries.lookup name with
      | some node => .ok node
      | none => .error .missing := by
  have hnode := Node.at?_append_singleton h.held name
  unfold find
  rw [h.locate_child hd]
  cases hn : entries.lookup name with
  | none => rfl
  | some node =>
    rw [hn] at hnode
    change (match tree.top.at? (place ++ [name]) with
      | some node => Except.ok node
      | none => Except.error FileTrouble.missing) = .ok node
    rw [hnode]

/-- A folder among the entries of an open folder is open as well. -/
theorem Opens.child (h : tree.Opens path place entries) {name : String} (hd : name ≠ "..")
    {held : List (String × Node)} (hn : entries.lookup name = some (.folder held)) :
    tree.Opens (path.child name) (place ++ [name]) held where
  located := by
    rw [h.locate_child hd, hn]
    rfl
  held := by
    rw [Node.at?_append_singleton h.held, hn]

/-- The path above an entry of a folder is that of the folder. -/
theorem parent_child (path : Path) (name : String) : (path.child name).parent = path := by
  simp only [Path.parent, Path.child, List.dropLast_concat]

/-- The last name of an entry is its own. -/
theorem name?_child (path : Path) (name : String) : (path.child name).name? = some name := by
  simp only [Path.name?, Path.child, List.getLast?_concat]

/-- What is put into an open folder where no folder is leaves the folder open. -/
theorem Opens.put (h : tree.Opens path place entries) {name : String}
    (hf : ∀ held, entries.lookup name ≠ some (.folder held)) (added : Node) :
    (tree.put place name added).Opens path place (Node.insert name added entries) where
  located := by
    have hkeeps : tree.top.Keeps (tree.put place name added).top :=
      Node.keeps_update_insert h.held hf added
    exact locateFrom_of_keeps hkeeps h.located
  held := Node.at?_update_self h.held _

/-- A file among the entries of an open folder is read. -/
theorem Opens.readBytes_child (h : tree.Opens path place entries) {name : String} (hd : name ≠ "..")
    {bytes : List UInt8} (hn : entries.lookup name = some (.file bytes)) :
    tree.readBytes (path.child name) = .ok bytes := by
  unfold readBytes
  rw [h.find_child hd, hn]

/-- What is no folder among the entries of an open folder is not found as one. -/
theorem Opens.not_folder (h : tree.Opens path place entries) {name : String} (hd : name ≠ "..")
    (hf : tree.hasFolder (path.child name) = false) (held : List (String × Node)) :
    entries.lookup name ≠ some (.folder held) := by
  intro hn
  unfold hasFolder at hf
  rw [h.find_child hd, hn] at hf
  cases hf

/-- A file is written into an open folder where no folder is, and the folder is
open again with the file among its entries. -/
theorem Opens.writeBytes_child (h : tree.Opens path place entries) {name : String} (hd : name ≠ "..")
    (hf : ∀ held, entries.lookup name ≠ some (.folder held)) (bytes : List UInt8) :
    ∃ changed, tree.writeBytes (path.child name) bytes = .ok changed ∧
      changed.Opens path place (Node.insert name (.file bytes) entries) := by
  refine ⟨tree.put place name (.file bytes), ?_, h.put hf _⟩
  unfold writeBytes
  rw [h.find_child hd, parent_child, h.located, name?_child]
  cases hn : entries.lookup name with
  | none => rfl
  | some node =>
    cases node with
    | file content => rfl
    | folder held => exact absurd hn (hf held)

/-- A folder is made in an open one where nothing is, and is open then. -/
theorem Opens.makeFolder_child (h : tree.Opens path place entries) {name : String} (hd : name ≠ "..")
    (hn : entries.lookup name = none) :
    ∃ changed, tree.makeFolder (path.child name) = .ok changed ∧
      changed.Opens (path.child name) (place ++ [name]) [] := by
  have hf : ∀ held, entries.lookup name ≠ some (.folder held) := by
    intro held he
    rw [hn] at he
    cases he
  refine ⟨tree.put place name (.folder []), ?_, (h.put hf _).child hd (Node.lookup_insert_self _ _ _)⟩
  unfold makeFolder
  rw [h.find_child hd, parent_child, h.located, name?_child, hn]

/-- An open folder is a folder. -/
theorem Opens.hasFolder (h : tree.Opens path place entries) : tree.hasFolder path = true := by
  unfold FileTree.hasFolder find
  rw [h.located]
  dsimp only
  rw [h.held]
  rfl

/-- Nothing is found in an open folder under a name that it lacks. -/
theorem Opens.find_missing (h : tree.Opens path place entries) {name : String} (hd : name ≠ "..")
    (hn : entries.lookup name = none) : tree.find (path.child name) = .error .missing := by
  rw [h.find_child hd, hn]

/-- Nothing is held by an open folder under a name that it lacks. -/
theorem Opens.holds_eq_false (h : tree.Opens path place entries) {name : String} (hd : name ≠ "..")
    (hn : entries.lookup name = none) : tree.holds (path.child name) = false := by
  unfold holds
  rw [h.find_missing hd hn]

/-- A folder is made in an open one where nothing is, unless no file system admits its path. -/
theorem Opens.ensureFolders_child (h : tree.Opens path place entries) {name : String} (hd : name ≠ "..")
    (hn : entries.lookup name = none) (hnull : (path.child name).holdsNull = false) :
    ∃ made, tree.ensureFolders (path.child name) = (made, .ok ()) ∧
      made.Opens (path.child name) (place ++ [name]) [] := by
  obtain ⟨made, hmake, hopens⟩ := h.makeFolder_child hd hn
  have hensure : tree.ensureFolder (path.child name) = .ok made := by
    unfold ensureFolder
    rw [hmake]
  have hfolders : tree.makeFolders (path.child name) = (made, .ok ()) := by
    rw [makeFolders, hensure]
  have haccept : accept (path.child name) = .ok (path.child name) := by
    unfold accept
    rw [hnull, if_neg Bool.false_ne_true]
  refine ⟨made, ?_, hopens⟩
  unfold ensureFolders
  rw [haccept]
  dsimp only
  rw [hfolders]

/-- A name leads to a place where something lies. -/
theorem exists_of_step {next : List String} {name : String} (h : tree.step place name = .ok next) :
    ∃ node, tree.top.at? next = some node := by
  unfold step at h
  cases hn : tree.top.at? place with
  | none =>
    rw [hn] at h
    cases h
  | some node =>
    rw [hn] at h
    cases node with
    | file bytes => cases h
    | folder entries =>
      dsimp only at h
      by_cases hd : name = ".."
      · rw [if_pos hd] at h
        cases h
        obtain ⟨more, hmore⟩ := place.dropLast_prefix
        rw [← hmore] at hn
        exact Node.exists_of_at?_append hn
      · rw [if_neg hd] at h
        by_cases hin : (entries.lookup name).isSome = true
        · rw [if_pos hin] at h
          cases h
          rw [Node.at?_append_singleton hn]
          exact Option.isSome_iff_exists.mp hin
        · rw [if_neg hin] at h
          cases h

/-- Names lead to a place where something lies. -/
theorem exists_of_locateFrom {names found : List String} (hne : names ≠ [])
    (h : tree.locateFrom place names = .ok found) : ∃ node, tree.top.at? found = some node := by
  rw [← List.dropLast_concat_getLast hne, locateFrom_append] at h
  cases hl : tree.locateFrom place names.dropLast with
  | error trouble =>
    rw [hl] at h
    cases h
  | ok above =>
    rw [hl] at h
    exact exists_of_step h

/-- A folder in which a file was written is open. The path without names is that of the
working folder, of which a tree need not know. -/
theorem exists_opens_of_writeBytes {changed : FileTree} {name : String} {bytes : List UInt8}
    (hempty : path.names = [] → tree.hasFolder path = true)
    (hw : tree.writeBytes (path.child name) bytes = .ok changed) :
    ∃ place entries, tree.Opens path place entries := by
  have hchild : tree.locate (path.child name) =
      (tree.locate path).bind fun found => tree.step found name :=
    locateFrom_append tree _ path.names name
  unfold writeBytes at hw
  rw [parent_child, name?_child] at hw
  cases hl : tree.locate path with
  | error trouble =>
    have hfind : tree.find (path.child name) = .error trouble := by
      unfold find
      rw [hchild, hl]
      rfl
    rw [hfind, hl] at hw
    cases trouble <;> cases hw
  | ok place =>
    cases hn : tree.top.at? place with
    | none =>
      by_cases hne : path.names = []
      · exact exists_opens (hempty hne)
      · obtain ⟨node, hnode⟩ := exists_of_locateFrom hne hl
        rw [hn] at hnode
        cases hnode
    | some node =>
      cases node with
      | folder entries => exact ⟨place, entries, hl, hn⟩
      | file held =>
        have hstep : tree.step place name = .error .notFolder := by
          unfold step
          rw [hn]
        have hlocate : tree.locate (path.child name) = .error .notFolder := by
          rw [hchild, hl]
          exact hstep
        have hfind : tree.find (path.child name) = .error .notFolder := by
          unfold find
          rw [hlocate]
        rw [hfind] at hw
        cases hw

/-- A file that was written is found in its folder, where no folder stood in its place. -/
theorem Opens.of_writeBytes (h : tree.Opens path place entries) {changed : FileTree} {name : String}
    {bytes : List UInt8} (hd : name ≠ "..") (hw : tree.writeBytes (path.child name) bytes = .ok changed) :
    (∀ held, entries.lookup name ≠ some (.folder held)) ∧
      changed.Opens path place (Node.insert name (.file bytes) entries) := by
  have hf : ∀ held, entries.lookup name ≠ some (.folder held) := by
    intro held hn
    unfold writeBytes at hw
    rw [h.find_child hd, hn] at hw
    cases hw
  obtain ⟨written, hwritten, hopens⟩ := h.writeBytes_child hd hf bytes
  rw [hwritten] at hw
  cases hw
  exact ⟨hf, hopens⟩

/-- A path without names is never made. -/
theorem exists_makeFolder_eq_error (tree : FileTree) (hn : path.names = []) :
    ∃ fault, tree.makeFolder path = .error fault := by
  have hname : path.name? = none := by
    unfold Path.name?
    rw [hn]
    rfl
  unfold makeFolder
  rw [hname]
  cases tree.find path with
  | ok node => exact ⟨_, rfl⟩
  | error trouble =>
    cases trouble with
    | missing => cases tree.locate path.parent <;> exact ⟨_, rfl⟩
    | _ => exact ⟨_, rfl⟩

/-- A path without names that need not be made is that of a folder. -/
theorem hasFolder_of_ensureFolders {made : FileTree} (hn : path.names = [])
    (h : tree.ensureFolders path = (made, .ok ())) : made.hasFolder path = true := by
  obtain ⟨fault, hfault⟩ := exists_makeFolder_eq_error tree hn
  have hensure : tree.ensureFolder path = if tree.hasFolder path then .ok tree else .error fault := by
    unfold ensureFolder
    rw [hfault]
  unfold ensureFolders at h
  cases ha : accept path with
  | error refusal =>
    rw [ha] at h
    cases h
  | ok accepted =>
    have haccepted : accepted = path := by
      unfold accept at ha
      split at ha <;> cases ha
      rfl
    rw [ha, haccepted] at h
    dsimp only at h
    rw [makeFolders, hensure] at h
    by_cases hf : tree.hasFolder path = true
    · rw [if_pos hf] at h
      cases h
      exact hf
    · rw [if_neg hf] at h
      simp only [hn, ne_eq, not_true_eq_false, and_false, if_false] at h
      cases h

end FileTree

end Checkup
