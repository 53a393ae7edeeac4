import Checkup.FileTree.Walk
import Checkup.Proofs.TreeChanges
import Mathlib.Data.List.Nodup

/-!
# Walks through trees

In a tree as file systems keep it, no folder holds two entries of one name, and the entries
stand in the order of their names. A walk through it visits every folder that only entered
names lead to, once, and in the order of the names that lead there: a folder before those
in it, and all in the first of these before all in the next.
-/

namespace Checkup

/-- A name that a file system gives an entry of a folder. -/
structure IsFileName (name : String) : Prop where
  nonempty : name ≠ ""
  dot : name ≠ "."
  dots : name ≠ ".."
  slash : '/' ∉ name.toList
  null : '\x00' ∉ name.toList

instance (name : String) : Decidable (IsFileName name) :=
  decidable_of_iff
    (name ≠ "" ∧ name ≠ "." ∧ name ≠ ".." ∧ '/' ∉ name.toList ∧ '\x00' ∉ name.toList)
    ⟨fun ⟨hempty, hdot, hdots, hslash, hnull⟩ => ⟨hempty, hdot, hdots, hslash, hnull⟩,
      fun h => ⟨h.nonempty, h.dot, h.dots, h.slash, h.null⟩⟩

namespace Node

/-- A tree as file systems keep it: the entries of every folder have names, each another,
and stand in their order. -/
inductive IsProper : Node → Prop
  | leaf (bytes : List UInt8) : IsProper (file bytes)
  | branch {entries : List (String × Node)} (sorted : entries.Pairwise (·.1 < ·.1))
      (names : ∀ entry ∈ entries, IsFileName entry.1) (held : ∀ entry ∈ entries, IsProper entry.2) :
      IsProper (folder entries)

variable {entries : List (String × Node)} {node : Node} {enters : String → Bool}

/-- Every file is a proper tree. -/
@[simp]
theorem isProper_file (bytes : List UInt8) : (file bytes).IsProper := .leaf bytes

/-- A folder is a proper tree if its entries are in order, with names and proper trees. -/
theorem isProper_folder_iff :
    (folder entries).IsProper ↔
      entries.Pairwise (·.1 < ·.1) ∧ (∀ entry ∈ entries, IsFileName entry.1) ∧
        ∀ entry ∈ entries, entry.2.IsProper := by
  constructor
  · rintro ⟨⟩
    exact ⟨‹_›, ‹_›, ‹_›⟩
  · exact fun ⟨sorted, names, held⟩ => .branch sorted names held

/-- Under a name of entries in order there is one node. -/
theorem lookup_eq_some_iff (hs : entries.Pairwise (·.1 < ·.1)) {name : String} :
    entries.lookup name = some node ↔ (name, node) ∈ entries := by
  induction entries with
  | nil => simp
  | cons entry entries ih =>
    obtain ⟨other, held⟩ := entry
    obtain ⟨hlater, hrest⟩ := List.pairwise_cons.mp hs
    rw [List.lookup_cons, List.mem_cons]
    by_cases he : name = other
    · subst he
      have hnot : (name, node) ∉ entries := fun h => String.lt_irrefl name (hlater _ h)
      simp [hnot, eq_comm]
    · have hb : (name == other) = false := by simp [he]
      simp [hb, ih hrest, he]

/-- The entries of a proper folder are proper. -/
theorem IsProper.child (hp : (folder entries).IsProper) {name : String}
    (h : entries.lookup name = some node) : node.IsProper ∧ IsFileName name := by
  cases hp with
  | branch sorted names held =>
    have hin := (lookup_eq_some_iff sorted).mp h
    exact ⟨held _ hin, names _ hin⟩

/-- All that lies in a proper tree is proper, and so are the names that lead there. -/
theorem IsProper.at? (hp : node.IsProper) {place : List String} {found : Node}
    (h : node.at? place = some found) : found.IsProper ∧ ∀ name ∈ place, IsFileName name := by
  induction place generalizing node with
  | nil =>
    rw [Node.at?] at h
    cases h
    exact ⟨hp, fun name hn => absurd hn List.not_mem_nil⟩
  | cons first names ih =>
    obtain ⟨entries, child, rfl, hchild, hfound⟩ := exists_of_at?_cons h
    obtain ⟨hproper, hname⟩ := hp.child hchild
    obtain ⟨hplace, hnames⟩ := ih hproper hfound
    exact ⟨hplace, List.forall_mem_cons.mpr ⟨hname, hnames⟩⟩

/-- What lies further below is what lies below what is found on the way. -/
theorem at?_append {place : List String} {below : Node} (h : node.at? place = some below)
    (names : List String) : node.at? (place ++ names) = below.at? names := by
  induction place generalizing node with
  | nil =>
    rw [Node.at?] at h
    cases h
    rw [List.nil_append]
  | cons first more ih =>
    obtain ⟨entries, child, rfl, hchild, hfound⟩ := exists_of_at?_cons h
    rw [List.cons_append, at?_folder_cons, hchild, Option.bind_some]
    exact ih hfound

/-- The names of some of the entries are in order. -/
theorem IsProper.sorted_names (hp : (folder entries).IsProper) (sought : String × Node → Bool) :
    ((entries.filter sought).map Prod.fst).Pairwise (· < ·) := by
  cases hp with
  | branch sorted names held =>
    rw [List.pairwise_map]
    exact sorted.filter sought

/-- The files of a proper folder are found under their names. -/
theorem IsProper.mem_fileNames_iff (hp : (folder entries).IsProper) {name : String} :
    name ∈ fileNames entries ↔ ∃ bytes, entries.lookup name = some (file bytes) := by
  cases hp with
  | branch sorted names held =>
    simp only [fileNames, List.mem_map, List.mem_filter, lookup_eq_some_iff sorted]
    constructor
    · rintro ⟨⟨name, node⟩, ⟨hin, hfile⟩, rfl⟩
      cases node with
      | file bytes => exact ⟨bytes, hin⟩
      | folder held => cases hfile
    · rintro ⟨bytes, hin⟩
      exact ⟨(name, file bytes), ⟨hin, rfl⟩, rfl⟩

/-! ## Visits -/

/-- A walk below a folder goes through the entries that are entered. -/
theorem visitsBelow_eq_flatMap (names : List String) (entries : List (String × Node)) :
    visitsBelow enters names entries =
      (entries.filter fun entry => enters entry.1).flatMap fun entry =>
        visits enters (names ++ [entry.1]) entry.2 := by
  induction entries with
  | nil => rw [visitsBelow, List.filter_nil, List.flatMap_nil]
  | cons entry entries ih =>
    obtain ⟨name, held⟩ := entry
    rw [visitsBelow, ih, List.filter_cons]
    by_cases he : enters name = true
    · rw [if_pos he, if_pos he, List.flatMap_cons]
    · rw [if_neg he, if_neg he, List.nil_append]

/-- What a walk sees in a folder. -/
def visitOf (names : List String) (held : List (String × Node)) : Visit :=
  ⟨names, fileNames held, folderNames held⟩

/-- A walk visits the folders that only entered names lead to. -/
theorem IsProper.mem_visits_iff (hp : node.IsProper) {names : List String} {visit : Visit} :
    visit ∈ node.visits enters names ↔
      ∃ place held, node.at? place = some (folder held) ∧ (∀ name ∈ place, enters name = true) ∧
        visit = visitOf (names ++ place) held := by
  induction hp generalizing names with
  | leaf bytes =>
    rw [visits]
    refine ⟨fun h => absurd h List.not_mem_nil, ?_⟩
    rintro ⟨place, held, hplace, -⟩
    cases place with
    | nil =>
      rw [Node.at?] at hplace
      cases hplace
    | cons name names =>
      rw [at?_file] at hplace
      cases hplace
  | @branch entries sorted hnames held ih =>
    rw [visits, List.mem_cons, visitsBelow_eq_flatMap]
    simp only [List.mem_flatMap, List.mem_filter]
    constructor
    · rintro (rfl | ⟨⟨name, child⟩, ⟨hin, he⟩, hvisit⟩)
      · refine ⟨[], entries, by rw [Node.at?], fun name hn => absurd hn List.not_mem_nil, ?_⟩
        rw [List.append_nil, visitOf]
      · obtain ⟨place, below, hplace, hentered, rfl⟩ := (ih _ hin).mp hvisit
        refine ⟨name :: place, below, ?_, List.forall_mem_cons.mpr ⟨he, hentered⟩, ?_⟩
        · rw [at?_folder_cons, (lookup_eq_some_iff sorted).mpr hin]
          exact hplace
        · rw [List.append_assoc, List.singleton_append]
    · rintro ⟨place, below, hplace, hentered, rfl⟩
      cases place with
      | nil =>
        rw [Node.at?] at hplace
        cases hplace
        exact .inl (by rw [List.append_nil, visitOf])
      | cons name place =>
        rw [at?_folder_cons] at hplace
        obtain ⟨child, hchild, hbelow⟩ := Option.bind_eq_some_iff.mp hplace
        have hin := (lookup_eq_some_iff sorted).mp hchild
        obtain ⟨he, hrest⟩ := List.forall_mem_cons.mp hentered
        refine .inr ⟨(name, child), ⟨hin, he⟩, (ih _ hin).mpr ⟨place, below, hbelow, hrest, ?_⟩⟩
        rw [List.append_assoc, List.singleton_append]

/-- A walk visits the folders in the order of the names that lead to them. -/
theorem IsProper.pairwise_visits (hp : node.IsProper) (enters : String → Bool) (names : List String) :
    (node.visits enters names).Pairwise (·.names < ·.names) := by
  induction hp generalizing names with
  | leaf bytes =>
    rw [visits]
    exact List.Pairwise.nil
  | @branch entries sorted hnames held ih =>
    -- All that is visited below an entry has the name of the entry on the way.
    have hbelow : ∀ entry ∈ entries, ∀ visit ∈ visits enters (names ++ [entry.1]) entry.2,
        ∃ place, visit.names = names ++ entry.1 :: place := by
      intro entry hin visit hvisit
      obtain ⟨place, below, -, -, rfl⟩ := (held entry hin).mem_visits_iff.mp hvisit
      exact ⟨place, by rw [visitOf, List.append_assoc, List.singleton_append]⟩
    rw [visits, visitsBelow_eq_flatMap, List.pairwise_cons, List.pairwise_flatMap]
    refine ⟨fun visit hvisit => ?_, fun entry hin => ?_, ?_⟩
    · obtain ⟨entry, hentry, hvisit⟩ := List.mem_flatMap.mp hvisit
      obtain ⟨place, hplace⟩ := hbelow entry (List.mem_filter.mp hentry).1 visit hvisit
      have hlt : names ++ [] < names ++ entry.1 :: place := List.append_left_lt (List.nil_lt_cons _ _)
      rw [List.append_nil] at hlt
      rw [hplace]
      exact hlt
    · exact ih entry (List.mem_filter.mp hin).1 (names ++ [entry.1])
    · refine (sorted.filter fun entry => enters entry.1).imp_of_mem fun hfirst hsecond hlt => ?_
      intro first hvisit second hother
      obtain ⟨place, hplace⟩ := hbelow _ (List.mem_filter.mp hfirst).1 first hvisit
      obtain ⟨other, hsame⟩ := hbelow _ (List.mem_filter.mp hsecond).1 second hother
      rw [hplace, hsame]
      exact List.append_left_lt (List.cons_lt_cons_iff.mpr (.inl hlt))

end Node

namespace FileTree

variable {tree : FileTree} {base : Path} {place : List String} {entries : List (String × Node)}

/-- In a proper tree a name that leads on is a double dot or the name of an entry. -/
theorem eq_or_isFileName_of_step (hp : tree.top.IsProper) {next : List String} {name : String}
    (h : tree.step place name = .ok next) : name = ".." ∨ IsFileName name := by
  unfold step at h
  cases hn : tree.top.at? place with
  | none =>
    rw [hn] at h
    cases h
  | some node =>
    rw [hn] at h
    cases node with
    | file bytes => cases h
    | folder entries =>
      dsimp only at h
      by_cases hd : name = ".."
      · exact .inl hd
      · rw [if_neg hd] at h
        by_cases hin : (entries.lookup name).isSome = true
        · obtain ⟨node, hnode⟩ := Option.isSome_iff_exists.mp hin
          exact .inr ((hp.at? hn).1.child hnode).2
        · rw [if_neg hin] at h
          cases h

/-- In a proper tree no path with the null character leads anywhere. -/
theorem not_null_of_locateFrom (hp : tree.top.IsProper) {names found : List String}
    (h : tree.locateFrom place names = .ok found) : ∀ name ∈ names, '\x00' ∉ name.toList := by
  induction names generalizing place with
  | nil => exact fun name hn => absurd hn List.not_mem_nil
  | cons name names ih =>
    rw [locateFrom] at h
    cases hs : tree.step place name with
    | error trouble =>
      rw [hs] at h
      cases h
    | ok next =>
      rw [hs] at h
      refine List.forall_mem_cons.mpr ⟨?_, ih h⟩
      rcases eq_or_isFileName_of_step hp hs with rfl | hname
      · decide
      · exact hname.null

/-- A path without the null character is accepted. -/
theorem accept_eq_ok {path : Path} (h : ∀ name ∈ path.names, '\x00' ∉ name.toList) : accept path = .ok path := by
  have hnull : path.holdsNull = false := by
    unfold Path.holdsNull
    rw [List.any_eq_false]
    intro name hn hc
    rw [String.contains_char_eq, decide_eq_true_eq] at hc
    exact h name hn hc
  unfold accept
  rw [hnull, if_neg Bool.false_ne_true]

/-- In a proper tree a path that leads to a folder is accepted. -/
theorem Opens.accept (h : tree.Opens base place entries) (hp : tree.top.IsProper) :
    FileTree.accept base = .ok base := accept_eq_ok (not_null_of_locateFrom hp h.located)

/-- The entries of an open folder are listed. -/
theorem Opens.list (h : tree.Opens base place entries) : tree.list base = .ok entries := by
  unfold FileTree.list find
  rw [h.located]
  dsimp only
  rw [h.held]

/-- A walk that starts at an open folder goes through it. -/
theorem Opens.walk (h : tree.Opens base place entries) (enters : String → Bool) :
    tree.walk enters base = .ok (Node.visits enters [] (.folder entries)) := by
  unfold FileTree.walk
  rw [h.list]

/-- A folder that lies below an open one is open as well. -/
theorem Opens.descend (h : tree.Opens base place entries) {names : List String}
    (hd : ∀ name ∈ names, name ≠ "..") {held : List (String × Node)}
    (hn : (Node.folder entries).at? names = some (.folder held)) :
    tree.Opens (base.descend names) (place ++ names) held := by
  induction names generalizing base place entries with
  | nil =>
    rw [Node.at?] at hn
    cases hn
    have hbase : base.descend [] = base := by
      unfold Path.descend
      rw [List.append_nil]
    rw [hbase, List.append_nil]
    exact h
  | cons name names ih =>
    obtain ⟨given, child, hgiven, hchild, hbelow⟩ := Node.exists_of_at?_cons hn
    cases hgiven
    obtain ⟨hname, hrest⟩ := List.forall_mem_cons.mp hd
    cases child with
    | file bytes =>
      cases names with
      | nil =>
        rw [Node.at?] at hbelow
        cases hbelow
      | cons next names =>
        rw [Node.at?_file] at hbelow
        cases hbelow
    | folder inner =>
      have hopens := ih (h.child hname hchild) hrest hbelow
      have hpath : (base.child name).descend names = base.descend (name :: names) := by
        unfold Path.descend Path.child
        rw [List.append_assoc, List.singleton_append]
      rwa [hpath, List.append_assoc, List.singleton_append] at hopens

end FileTree

end Checkup
