import Checkup.Proofs.OrphanFolders
import Checkup.Proofs.WellFormedIssues

/-!
# Paths that are related to a root

A reported path is shown with slashes, without blanks at its ends, and seen from the root folder.
Where the root is given as the file system tells it, the separators of the path do not matter, what
is below the root is shown as it is called there, and nothing else is cut, not even what is called
like the root and goes on.
-/

namespace Checkup

open Text Value Madge

variable {root : String} {names : List String}

/-! ## Roots -/

namespace Path

/-- Up to a slash reaches one piece. -/
theorem pieces_append {piece : List Char} (h : '/' ∉ piece) (rest : List Char) :
    pieces (piece ++ '/' :: rest) = piece :: pieces rest := by
  induction piece with
  | nil => rfl
  | cons c piece ih =>
    obtain ⟨hc, hpiece⟩ := not_or.mp (mt List.mem_cons.mpr h)
    rw [List.cons_append, pieces, if_neg (Ne.symm hc), ih hpiece]

/-- Without a slash there is one piece. -/
theorem pieces_of_not_mem {piece : List Char} (h : '/' ∉ piece) : pieces piece = [piece] := by
  induction piece with
  | nil => rfl
  | cons c piece ih =>
    obtain ⟨hc, hpiece⟩ := not_or.mp (mt List.mem_cons.mpr h)
    rw [pieces, if_neg (Ne.symm hc), ih hpiece]

/-- The pieces of a folder are its names. -/
theorem pieces_folderText (h : AreNames names) (hne : names ≠ []) :
    pieces (folderText names) = names.map String.toList := by
  unfold folderText
  induction names with
  | nil => exact absurd rfl hne
  | cons name names ih =>
    obtain ⟨⟨-, -, -, hslash, -⟩, hnames⟩ := List.forall_mem_cons.mp h
    cases names with
    | nil =>
      rw [List.map_singleton, List.intercalate_singleton]
      exact pieces_of_not_mem hslash
    | cons next names =>
      calc pieces (['/'].intercalate ((name :: next :: names).map String.toList))
          = pieces (name.toList ++ '/' :: ['/'].intercalate ((next :: names).map String.toList)) := by
            rw [List.map_cons, List.map_cons, List.intercalate_cons_cons, List.append_assoc]
            rfl
        _ = name.toList :: (next :: names).map String.toList := by
            rw [pieces_append hslash, ih hnames (List.cons_ne_nil next names)]

/-- The names of a folder below the top are read from its text. -/
theorem namesOf_folderText (h : AreNames names) : namesOf ('/' :: folderText names) = names := by
  have hkept : ∀ piece ∈ names.map String.toList, (piece != [] && piece != ['.']) = true := by
    intro piece hpiece
    obtain ⟨name, hname, rfl⟩ := List.mem_map.mp hpiece
    obtain ⟨hfull, hdot, -⟩ := h name hname
    have hnodot : name.toList ≠ ['.'] := fun he => hdot (String.toList_inj.mp he)
    simp only [Bool.and_eq_true, bne_iff_ne]
    exact ⟨hfull, hnodot⟩
  have hpieces : (pieces ('/' :: folderText names)).filter (fun piece => piece != [] && piece != ['.']) =
      names.map String.toList := by
    by_cases hne : names = []
    · subst hne
      rfl
    · have hall : pieces ('/' :: folderText names) = [] :: names.map String.toList := by
        rw [← pieces_folderText h hne]
        rfl
      rw [hall, List.filter_cons_of_neg (by decide), List.filter_eq_self.mpr hkept]
  rw [namesOf, hpieces, List.map_map]
  exact (List.map_congr_left fun name _ => String.ofList_toList).trans (List.map_id names)

/-- Where no double dot is followed, a folder is reached by its names. -/
theorem follow_of_areNames (h : AreNames names) (folder : List String) : follow folder names = folder ++ names := by
  induction names generalizing folder with
  | nil => rw [follow, List.append_nil]
  | cons name names ih =>
    obtain ⟨⟨-, -, hdots, -, -⟩, hnames⟩ := List.forall_mem_cons.mp h
    rw [follow, if_neg hdots, ih hnames, List.append_assoc, List.singleton_append]

/-- No slash stands in a piece of a text, and nothing else that does not stand in the text. -/
theorem of_mem_pieces {text piece : List Char} (h : piece ∈ pieces text) : '/' ∉ piece ∧ piece ⊆ text := by
  induction text generalizing piece with
  | nil =>
    obtain rfl := List.mem_singleton.mp h
    exact ⟨List.not_mem_nil, List.nil_subset _⟩
  | cons c text ih =>
    rw [pieces] at h
    split at h
    · rcases List.mem_cons.mp h with rfl | h
      · exact ⟨List.not_mem_nil, List.nil_subset _⟩
      · exact ⟨(ih h).1, List.subset_cons_of_subset c (ih h).2⟩
    · next hc =>
      cases hp : pieces text with
      | nil =>
        rw [hp] at h
        obtain rfl := List.mem_singleton.mp h
        exact ⟨fun hm => hc (List.mem_singleton.mp hm).symm, List.cons_subset_cons c (List.nil_subset text)⟩
      | cons first more =>
        rw [hp] at h ih
        rcases List.mem_cons.mp h with rfl | h
        · obtain ⟨hslash, hin⟩ := ih List.mem_cons_self
          exact ⟨List.not_mem_cons_of_ne_of_not_mem (Ne.symm hc) hslash, List.cons_subset_cons c hin⟩
        · obtain ⟨hslash, hin⟩ := ih (List.mem_cons_of_mem first h)
          exact ⟨hslash, List.subset_cons_of_subset c hin⟩

/-- The names that are followed from a folder to another are those of the folder and those that are no double dots. -/
theorem forall_mem_follow {holds : String → Prop} {folder : List String} (hf : ∀ name ∈ folder, holds name)
    (hn : ∀ name ∈ names, name ≠ ".." → holds name) : ∀ name ∈ follow folder names, holds name := by
  induction names generalizing folder with
  | nil => exact hf
  | cons name names ih =>
    obtain ⟨hname, hnames⟩ := List.forall_mem_cons.mp hn
    rw [follow]
    refine ih ?_ hnames
    split
    · exact fun other hother => hf other (List.mem_of_mem_dropLast hother)
    · next hdots => exact List.forall_mem_append.mpr ⟨hf, List.forall_mem_singleton.mpr (hname hdots)⟩

end Path

/-- A root in resolved form: a slash, and names with one slash between each two. -/
structure IsResolved (root : String) (names : List String) : Prop where
  /-- The names are not empty, no dots, and without separators. -/
  named : AreNames names
  /-- The root is told by the names alone. -/
  text : root = Path.absoluteText names
  /-- No name holds the character that no file system admits; a root with that has no resolved form. -/
  admitted : ∀ name ∈ names, '\x00' ∉ name.toList

namespace IsResolved

/-- A root in resolved form is read as the slash and the names. -/
theorem toList_eq (h : IsResolved root names) : root.toList = '/' :: folderText names := by
  rw [h.text, Path.absoluteText, String.toList_append, String.toList_intercalate]
  rfl

/-- It has slashes alone. -/
theorem not_mem (h : IsResolved root names) : '\\' ∉ root.toList := by
  rw [h.toList_eq]
  exact List.not_mem_cons_of_ne_of_not_mem (by decide) h.named.not_mem_folderText

/-- It leads to the root from the top. -/
theorem isRoot (h : IsResolved root names) : IsRoot root names :=
  ⟨h.named, (slashed_eq_self h.not_mem).trans h.toList_eq⟩

/-- A file system may admit it. -/
theorem isBadRoot_eq (h : IsResolved root names) : isBadRoot (some root) = false := by
  rw [isBadRoot, Option.any_some, String.contains_char_eq, h.toList_eq]
  exact decide_eq_false
    (List.not_mem_cons_of_ne_of_not_mem (by decide) (not_mem_folderText (by decide) h.admitted))

/-- It is read as a path from the top. -/
theorem ofString_eq (h : IsResolved root names) : Path.ofString root = ⟨"/", names⟩ := by
  have hanchor : Path.anchorOf ('/' :: folderText names) = "/" := by
    by_cases hne : names = []
    · subst hne
      rfl
    · obtain ⟨hfull, hstart, -, -⟩ := h.named.folderText hne
      obtain ⟨c, rest, hc⟩ := List.exists_cons_of_ne_nil hfull
      rw [hc] at hstart ⊢
      have hslash : c ≠ '/' := of_decide_eq_false (hstart c rfl)
      simp [Path.anchorOf, hslash]
  rw [Path.ofString, h.toList_eq, hanchor, Path.namesOf_folderText h.named]

/-- It stays as it is when it is resolved, wherever it is seen from. -/
theorem absolute_eq (h : IsResolved root names) (workingFolder : List String) :
    (Path.ofString root).absolute workingFolder = root := by
  have hnull : (⟨"/", names⟩ : Path).holdsNull = false := by
    refine List.any_eq_false.mpr fun name hname => ?_
    rw [String.contains_char_eq, decide_eq_true_eq]
    exact h.admitted name hname
  rw [h.ofString_eq, Path.absolute, hnull, if_neg Bool.false_ne_true, h.text]
  exact congrArg Path.absoluteText (Path.follow_of_areNames h.named [])

end IsResolved

/-- What a root is resolved to is in resolved form, if neither the root nor the working folder holds a separator of
the other kind or the character that no file system admits. -/
theorem exists_isResolved {workingFolder : List String} (hw : AreNames workingFolder)
    (hwn : ∀ name ∈ workingFolder, '\x00' ∉ name.toList) (hs : '\\' ∉ root.toList) (hn : '\x00' ∉ root.toList) :
    ∃ names, IsResolved ((Path.ofString root).absolute workingFolder) names := by
  have hread : ∀ name ∈ (Path.ofString root).names, name.toList ≠ [] ∧ name ≠ "." ∧ '/' ∉ name.toList ∧
      '\\' ∉ name.toList ∧ '\x00' ∉ name.toList := by
    intro name hname
    obtain ⟨piece, hpiece, rfl⟩ := List.mem_map.mp hname
    obtain ⟨hin, hkept⟩ := List.mem_filter.mp hpiece
    obtain ⟨hslash, hsubset⟩ := Path.of_mem_pieces hin
    simp only [Bool.and_eq_true, bne_iff_ne] at hkept
    rw [String.toList_ofList]
    refine ⟨hkept.1, fun hdot => hkept.2 ?_, hslash, fun hm => hs (hsubset hm), fun hm => hn (hsubset hm)⟩
    rw [← String.toList_ofList (l := piece), hdot]
    rfl
  have hnull : (Path.ofString root).holdsNull = false := by
    refine List.any_eq_false.mpr fun name hname => ?_
    rw [String.contains_char_eq, decide_eq_true_eq]
    exact (hread name hname).2.2.2.2
  have hall : ∀ name ∈ (Path.ofString root).resolve workingFolder,
      (name.toList ≠ [] ∧ name ≠ "." ∧ name ≠ ".." ∧ '/' ∉ name.toList ∧ '\\' ∉ name.toList) ∧
        '\x00' ∉ name.toList := by
    refine Path.forall_mem_follow (fun name hname => ?_) fun name hname hdots => ?_
    · split at hname
      · cases hname
      · exact ⟨hw name hname, hwn name hname⟩
    · obtain ⟨hfull, hdot, hslash, hback, hadmitted⟩ := hread name hname
      exact ⟨⟨hfull, hdot, hdots, hslash, hback⟩, hadmitted⟩
  refine ⟨_, fun name hname => (hall name hname).1, ?_, fun name hname => (hall name hname).2⟩
  rw [Path.absolute, hnull, if_neg Bool.false_ne_true]

/-! ## Paths -/

/-- A path that a tool reports, as it is related to a root folder that is seen from the working folder. -/
def relatedPath (workingFolder : List String) (root path : String) : Outcome Value :=
  (Value.text path).toPath (some ((Path.ofString root).absolute workingFolder))

/-- What stands in front of the paths below a root in resolved form: the root and a slash, which for the top is one. -/
def slashEnded (root : String) : String := if root = "/" then "/" else root ++ "/"

/-- One text is another with backslashes for some of the slashes. -/
def IsRespelled (path other : List Char) : Prop := List.Forall₂ (fun c d => d = c ∨ (c = '/' ∧ d = '\\')) path other

/-- Texts that differ in the kinds of separators alone are the same with slashes. -/
theorem IsRespelled.slashed_eq {path other : List Char} (h : IsRespelled path other) :
    slashed other = slashed path := by
  unfold IsRespelled at h
  induction h with
  | nil => rfl
  | cons hc _ ih =>
    refine List.cons_eq_cons.mpr ⟨?_, ih⟩
    rcases hc with rfl | ⟨rfl, rfl⟩ <;> rfl

/-- A text that ends in no blank does not do so with slashes either. -/
theorem isBlank_of_getLast_slashed {path : List Char} (h : ∀ c ∈ path.getLast?, isBlank c = false) :
    ∀ c ∈ (slashed path).getLast?, isBlank c = false := by
  intro c hc
  rw [slashed, List.getLast?_map] at hc
  obtain ⟨d, hd, rfl⟩ := Option.map_eq_some_iff.mp hc
  split
  · decide
  · exact h d hd

namespace IsResolved

/-- What stands in front of a path below the root is what is looked for there. -/
theorem toList_slashEnded (h : IsResolved root names) : (slashEnded root).toList = rootStart root := by
  rw [h.isRoot.rootStart_eq, slashEnded]
  by_cases hne : names = []
  · have htop : root = "/" := by
      rw [h.text, hne]
      rfl
    rw [if_pos htop, if_pos hne]
    rfl
  · have htop : root ≠ "/" := by
      rintro rfl
      have hnames : folderText names = [] := (List.cons_eq_cons.mp h.toList_eq.symm).2
      exact (h.named.folderText hne).1 hnames
    rw [if_neg htop, if_neg hne, String.toList_append, h.toList_eq]
    rfl

/-- With slashes a path below the root starts as the root does. -/
theorem slashed_below (h : IsResolved root names) (path : String) :
    slashed (slashEnded root ++ path).toList = rootStart root ++ slashed path.toList := by
  have hslash : '\\' ∉ rootStart root := by
    rw [← h.toList_slashEnded, slashEnded]
    split
    · decide
    · rw [String.toList_append]
      exact List.not_mem_append h.not_mem (by decide)
  rw [String.toList_append, h.toList_slashEnded, slashed, List.map_append]
  exact congrArg (· ++ _) (slashed_eq_self hslash)

/-- A path is shown as what is left of it below the root. -/
theorem relatedPath_eq (h : IsResolved root names) (workingFolder : List String) (path : String) :
    relatedPath workingFolder root path =
      .ok (shownPath (withoutRoot (some root) (trim (slashed path.toList)))) := by
  rw [relatedPath, h.absolute_eq, toPath_text h.isBadRoot_eq]

/-- No blank stands before a path below the root, nor behind it if the path ends in none. -/
theorem trim_below (h : IsResolved root names) {below : List Char} (hl : ∀ c ∈ below.getLast?, isBlank c = false) :
    trim (rootStart root ++ below) = rootStart root ++ below := by
  have hstart : Stops isBlank (rootStart root ++ below) := by
    rw [h.isRoot.rootStart_eq]
    split <;> exact stops_cons (by decide) _
  obtain ⟨c, hc, hblank⟩ : ∃ c, (rootStart root ++ below).getLast? = some c ∧ isBlank c = false := by
    by_cases hne : below = []
    · refine ⟨'/', ?_, by decide⟩
      rw [hne, List.append_nil, rootStart, List.getLast?_concat]
    · have hlast := List.getLast?_eq_some_getLast hne
      exact ⟨_, (getLast?_append_of_ne_nil _ hne).trans hlast, hl _ hlast⟩
  rw [trim, trimStart_eq_self hstart, trimEnd_eq_self hc hblank]

/-- Of a path below the root that ends in no blank the root is taken away. -/
theorem withoutRoot_below (h : IsResolved root names) {path : String}
    (hl : ∀ c ∈ path.toList.getLast?, isBlank c = false) :
    withoutRoot (some root) (trim (slashed (slashEnded root ++ path).toList)) = slashed path.toList := by
  have hafter : after? (rootStart root) (rootStart root ++ slashed path.toList) = some (slashed path.toList) :=
    after?_eq_some.mpr rfl
  rw [h.slashed_below, h.trim_below (isBlank_of_getLast_slashed hl)]
  change afterOptional (rootStart root) _ = _
  rw [afterOptional, hafter, Option.getD_some]

/-- Below the root a path that ends in no blank is shown with slashes. -/
theorem relatedPath_below (h : IsResolved root names) (workingFolder : List String) {path : String} {c : Char}
    (hlast : path.toList.getLast? = some c) (hblank : isBlank c = false) :
    relatedPath workingFolder root (slashEnded root ++ path) = .ok (.text (String.ofList (slashed path.toList))) := by
  have hfull : slashed path.toList ≠ [] := by
    refine mt List.map_eq_nil_iff.mp fun hnil => ?_
    rw [hnil] at hlast
    cases hlast
  have hends : ∀ d ∈ path.toList.getLast?, isBlank d = false := by
    intro d hd
    rw [Option.mem_unique hd hlast]
    exact hblank
  rw [h.relatedPath_eq, h.withoutRoot_below hends, (shownPath_eq_text_iff hfull).mpr rfl]

/-- What does not start as the paths below the root do is not cut. -/
theorem relatedPath_beside (h : IsResolved root names) (workingFolder : List String) {path : String}
    (hstart : ¬(slashEnded root).toList <+: trim (slashed path.toList)) :
    relatedPath workingFolder root path = .ok (shownPath (trim (slashed path.toList))) := by
  have hleft := (exists_withoutRoot root (trim (slashed path.toList))).resolve_right fun hcut =>
    hstart ⟨_, h.toList_slashEnded ▸ hcut.symm⟩
  rw [h.relatedPath_eq, hleft]

/-- What is called like the root and goes on does not start as the paths below the root do. -/
theorem trim_sibling (h : IsResolved root names) (htop : root ≠ "/") {c : Char} (hslash : c ≠ '/') (hback : c ≠ '\\')
    (more : List Char) :
    trim (slashed (root.toList ++ c :: more)) ≠ [] ∧
      ¬(slashEnded root).toList <+: trim (slashed (root.toList ++ c :: more)) := by
  have hslashed : slashed (root.toList ++ c :: more) = root.toList ++ c :: slashed more := by
    rw [slashed, List.map_append, List.map_cons, if_neg hback]
    exact congrArg (· ++ _) (slashed_eq_self h.not_mem)
  have htrim : trim (slashed (root.toList ++ c :: more)) = trimEnd (root.toList ++ c :: slashed more) := by
    have hstart : Stops isBlank (root.toList ++ c :: slashed more) := by
      rw [h.toList_eq]
      exact stops_cons (by decide) _
    rw [hslashed, trim, trimStart_eq_self hstart]
  rw [htrim]
  constructor
  · rw [h.toList_eq, List.cons_append, trimEnd_cons (by decide)]
    exact List.cons_ne_nil _ _
  · intro hprefix
    have hwhole := hprefix.trans (trimEnd_isPrefix _)
    rw [slashEnded, if_neg htop, String.toList_append, List.prefix_append_right_inj] at hwhole
    exact hslash (List.cons_prefix_cons.mp hwhole).1.symm

end IsResolved

/-- How the paths that are reported are shown below a root. -/
structure RelatesPaths (relate : String → Outcome Value) (root : String) : Prop where
  /-- Every path is shown as a text with slashes alone that is not empty, or as none. -/
  shown : ∀ path, ∃ value, relate path = .ok value ∧ value.IsPath
  /-- The kinds of the separators do not matter. -/
  respelled : ∀ path other : String, IsRespelled path.toList other.toList → relate other = relate path
  /-- Below the root a path that ends in no blank is shown with slashes. -/
  below : ∀ (path : String) (c : Char), path.toList.getLast? = some c → isBlank c = false →
    relate (slashEnded root ++ path) = .ok (.text (String.ofList (slashed path.toList)))
  /-- What does not start as the paths below the root do is shown as it is, with slashes and without the blanks at
  its ends. -/
  beside : ∀ path : String, ¬(slashEnded root).toList <+: trim (slashed path.toList) →
    relate path =
      .ok (if trim (slashed path.toList) = [] then .null else .text (String.ofList (trim (slashed path.toList))))
  /-- So is what is called like the root and goes on. -/
  siblings : ∀ (c : Char) (more : List Char), root ≠ "/" → c ≠ '/' → c ≠ '\\' →
    relate (root ++ String.ofList (c :: more)) =
      .ok (.text (String.ofList (trim (slashed (root.toList ++ c :: more)))))

/-- Below a root in resolved form paths are related to the root, wherever it is seen from. -/
theorem relatesPaths (h : IsResolved root names) (workingFolder : List String) :
    RelatesPaths (relatedPath workingFolder root) root := by
  refine
    { shown := fun path => ?_
      respelled := fun path other hother => ?_
      below := fun path c hlast hblank => h.relatedPath_below workingFolder hlast hblank
      beside := fun path hstart => ?_
      siblings := fun c more htop hslash hback => ?_ }
  · have hpath := toPath_isPath (some root) (Value.text path)
    rw [toPath_text h.isBadRoot_eq] at hpath
    exact ⟨_, h.relatedPath_eq workingFolder path, hpath _ rfl⟩
  · rw [h.relatedPath_eq, h.relatedPath_eq, hother.slashed_eq]
  · rw [h.relatedPath_beside workingFolder hstart, shownPath]
    simp only [List.isEmpty_iff]
  · obtain ⟨hfull, hstart⟩ := h.trim_sibling htop hslash hback more
    have htext : (root ++ String.ofList (c :: more)).toList = root.toList ++ c :: more := by
      rw [String.toList_append, String.toList_ofList]
    rw [← htext] at hfull hstart ⊢
    rw [h.relatedPath_beside workingFolder hstart, (shownPath_eq_text_iff hfull).mpr rfl]

/-- Below a root with a blank in its name a path is related to it, and a sibling is not. -/
theorem relatesPaths_repository :
    IsResolved "/home/my repo" ["home", "my repo"] ∧
      relatedPath ["tmp"] "/home/my repo" "/home/my repo/src\\a.ts" = .ok (.text "src/a.ts") ∧
        relatedPath ["tmp"] "/home/my repo" "/home/my repox/a.ts " = .ok (.text "/home/my repox/a.ts") := by
  have h : IsResolved "/home/my repo" ["home", "my repo"] := ⟨by decide, by decide, by decide⟩
  have hrelates := relatesPaths h ["tmp"]
  refine ⟨h, ?_, ?_⟩
  · exact hrelates.below "src\\a.ts" 's' (by decide) (by decide)
  · exact hrelates.siblings 'x' "/a.ts ".toList (by decide) (by decide) (by decide)

end Checkup
