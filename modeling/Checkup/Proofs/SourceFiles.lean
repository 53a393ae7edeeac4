import Checkup.Proofs.AddedFiles
import Checkup.Proofs.Attempts
import Checkup.Proofs.EncodedTexts
import Checkup.Proofs.TextPassages
import Checkup.Run
import Mathlib.Data.List.Sort

/-!
# Source files of a walk

The source files below a folder are those that their names and the names on the way to them
say, whatever lies beside them. They are found folder by folder in the order of the walk,
and profiled if their bytes are those of a text.
-/

namespace Checkup.Source

/-- A name of a file or folder that is passed over: it holds one of the marks. -/
def IsLeftOut (name : String) : Prop :=
  ∃ mark ∈ ["node_modules", "_generated", ".test.", ".spec.", "routeTree.gen"],
    mark.toList <:+: name.toList

/-- A name that ends like that of a source file, and is not passed over. -/
def IsSourceName (name : String) : Prop :=
  (".ts".toList <:+ name.toList ∨ ".tsx".toList <:+ name.toList) ∧ ¬ IsLeftOut name

/-- Where a file lies below a folder: the folders on the way, and its name in the last. -/
structure Spot where
  folders : List String
  file : String
  deriving DecidableEq

namespace Spot

variable (spot : Spot)

/-- All names on the way, with that of the file. -/
def names : List String := spot.folders ++ [spot.file]

/-- The path of the file. -/
def path (base : Path) : Path := (base.descend spot.folders).child spot.file

/-- The names are those of a source file. -/
def IsSource : Prop := (∀ name ∈ spot.folders, ¬ IsLeftOut name) ∧ IsSourceName spot.file

/-- One file is found before another: the folder comes first, or they lie in one folder and
the name comes first. A folder comes before all that lie in it. -/
def Before (first second : Spot) : Prop :=
  first.folders < second.folders ∨ first.folders = second.folders ∧ first.file < second.file

/-- No file is found before itself. -/
theorem not_before_self : ¬ spot.Before spot := by
  rintro (h | ⟨-, h⟩)
  · exact List.lt_irrefl _ h
  · exact String.lt_irrefl _ h

instance : Std.Irrefl Before := ⟨not_before_self⟩

/-- Of two files one is found before the other. -/
theorem Before.asymm {first second : Spot} (h : first.Before second) : ¬ second.Before first := by
  rintro (hother | ⟨he, hother⟩)
  · rcases h with h | ⟨he, -⟩
    · exact List.lt_asymm h hother
    · exact List.lt_irrefl _ (he ▸ hother)
  · rcases h with h | ⟨-, h⟩
    · exact List.lt_irrefl _ (he ▸ h)
    · exact String.lt_asymm h hother

end Spot

/-- The names that are passed over are those that hold a mark. -/
theorem isIgnored_iff (name : String) : isIgnored name = true ↔ IsLeftOut name := by
  simp only [isIgnored, List.any_eq_true, Folder.holds, Text.occurs_iff]
  rfl

/-- The names of source files are told by their ends. -/
theorem isSourceName_iff (name : String) : isSourceName name = true ↔ IsSourceName name := by
  simp only [isSourceName, IsSourceName, Folder.endsWith, Bool.and_eq_true, Bool.or_eq_true,
    List.isSuffixOf_iff_suffix, Bool.not_eq_true', ← Bool.not_eq_true, isIgnored_iff]

/-- The spots of the source files that some visits find. -/
def spotsOf (visits : List Visit) : List Spot :=
  visits.flatMap fun visit => (visit.files.filter isSourceName).map (Spot.mk visit.names)

/-- The spots of the source files below a folder with some entries. -/
def spots (entries : List (String × Node)) : List Spot :=
  spotsOf (Node.visits (fun name => !isIgnored name) [] (.folder entries))

variable {entries : List (String × Node)}

/-- The source files of some visits lie at their spots. -/
theorem filesOfVisits_eq_map (base : Path) (visits : List Visit) :
    filesOfVisits base visits = (spotsOf visits).map (Spot.path · base) := by
  unfold filesOfVisits spotsOf
  rw [List.map_flatMap]
  simp only [List.map_map]
  rfl

/-- The spots of a walk are those of files with the names of a source file. -/
theorem mem_spots_iff (hp : (Node.folder entries).IsProper) {spot : Spot} :
    spot ∈ spots entries ↔
      spot.IsSource ∧ ∃ bytes, (Node.folder entries).at? spot.names = some (.file bytes) := by
  unfold spots spotsOf Spot.IsSource Spot.names
  simp only [List.mem_flatMap, List.mem_map, List.mem_filter, hp.mem_visits_iff, List.nil_append,
    isSourceName_iff, Bool.not_eq_true', ← Bool.not_eq_true, isIgnored_iff]
  constructor
  · rintro ⟨visit, ⟨place, held, hplace, hentered, rfl⟩, file, ⟨hfile, hsource⟩, rfl⟩
    refine ⟨⟨hentered, hsource⟩, ?_⟩
    obtain ⟨bytes, hbytes⟩ := (hp.at? hplace).1.mem_fileNames_iff.mp hfile
    exact ⟨bytes, (Node.at?_append_singleton hplace file).trans hbytes⟩
  · rintro ⟨⟨hentered, hsource⟩, bytes, hbytes⟩
    obtain ⟨held, hheld⟩ := Node.exists_folder_of_at?_append hbytes
    rw [Node.at?_append_singleton hheld] at hbytes
    refine ⟨_, ⟨spot.folders, held, hheld, hentered, rfl⟩, spot.file, ⟨?_, hsource⟩, rfl⟩
    exact (hp.at? hheld).1.mem_fileNames_iff.mpr ⟨bytes, hbytes⟩

/-- The spots of a walk are in order. -/
theorem pairwise_spots (hp : (Node.folder entries).IsProper) : (spots entries).Pairwise Spot.Before := by
  unfold spots spotsOf
  rw [List.pairwise_flatMap]
  refine ⟨fun visit hvisit => ?_, (hp.pairwise_visits _ []).imp fun hlt first hfirst second hsecond => ?_⟩
  · obtain ⟨place, held, hplace, -, rfl⟩ := hp.mem_visits_iff.mp hvisit
    rw [List.pairwise_map]
    have hsorted : (Node.fileNames held).Pairwise (· < ·) := (hp.at? hplace).1.sorted_names _
    exact (hsorted.filter isSourceName).imp fun hlt => .inr ⟨rfl, hlt⟩
  · obtain ⟨file, -, rfl⟩ := List.mem_map.mp hfirst
    obtain ⟨other, -, rfl⟩ := List.mem_map.mp hsecond
    exact .inl hlt

variable {tree : FileTree} {base : Path} {place : List String}

/-- The source files below an open folder lie at the spots. -/
theorem files_eq (hp : tree.top.IsProper) (h : tree.Opens base place entries) :
    files tree base = .ok ((spots entries).map (Spot.path · base)) := by
  unfold files
  refine bind_eq_ok_iff.mpr ⟨base, h.accept hp, ?_⟩
  rw [h.walk]
  exact congrArg Except.ok (filesOfVisits_eq_map base _)

/-- A file at a spot below an open folder has a text if its bytes are those of a text. -/
theorem readText_path (hp : tree.top.IsProper) (h : tree.Opens base place entries) {spot : Spot}
    {bytes : List UInt8} (hs : (Node.folder entries).at? spot.names = some (.file bytes)) :
    tree.readText (spot.path base) =
      ((Text.decode bytes).map Text.unifyLineEnds).mapError Fault.notUtf8 := by
  have hnames : ∀ name ∈ spot.names, IsFileName name := ((hp.at? h.held).1.at? hs).2
  have hfolders : ∀ name ∈ spot.folders, name ≠ ".." := fun name hn =>
    (hnames name (List.mem_append_left _ hn)).dots
  have hfile : spot.file ≠ ".." := (hnames spot.file (List.mem_append_right _ List.mem_cons_self)).dots
  obtain ⟨held, hheld⟩ := Node.exists_folder_of_at?_append hs
  have hopens := h.descend hfolders hheld
  have hlookup : held.lookup spot.file = some (.file bytes) :=
    (Node.at?_append_singleton hheld spot.file).symm.trans hs
  have hlocate : tree.locate (spot.path base) = .ok (place ++ spot.folders ++ [spot.file]) := by
    rw [Spot.path, hopens.locate_child hfile, hlookup]
    rfl
  have haccept : FileTree.accept (spot.path base) = .ok (spot.path base) :=
    FileTree.accept_eq_ok (FileTree.not_null_of_locateFrom hp hlocate)
  have hread : tree.readBytes (spot.path base) = .ok bytes := hopens.readBytes_child hfile hlookup
  unfold FileTree.readText
  rw [haccept, ok_bind, hread]
  dsimp only
  cases Text.decode bytes <;> rfl

/-- The text of the file at a spot, if its bytes are those of one. -/
def textAt? (entries : List (String × Node)) (spot : Spot) : Option (List Char) :=
  match (Node.folder entries).at? spot.names with
  | some (.file bytes) => (Text.decode bytes).toOption
  | _ => none

/-- A file has the text whose bytes it holds. -/
theorem textAt?_eq_some_iff {spot : Spot} {text : List Char} :
    textAt? entries spot = some text ↔
      (Node.folder entries).at? spot.names = some (.file (Text.encode (String.ofList text))) := by
  unfold textAt?
  split
  · next bytes hbytes =>
    rw [hbytes, Option.some_inj, Node.file.injEq, ← Text.decode_eq_ok_iff]
    cases Text.decode bytes <;> simp [Except.toOption]
  · next hnot =>
    constructor
    · intro h
      cases h
    · exact fun h => absurd h (hnot _)

/-- The source files below a folder that can be read, with their texts. -/
def readables (entries : List (String × Node)) : List (Spot × List Char) :=
  (spots entries).filterMap fun spot => (textAt? entries spot).map (Prod.mk spot)

/-- The profile of a source file is that of its text. -/
def profileAt (tree : FileTree) (root base : Path) (found : Spot × List Char) : Profile :=
  .ofText (Path.shown tree.workingFolder root (found.1.path base)) (Text.unifyLineEnds found.2)

/-- The files that are profiled are those source files that can be read. -/
theorem survey_eq (hp : tree.top.IsProper) (h : tree.Opens base place entries) (root : Path) :
    survey tree root base = .ok ((readables entries).map (profileAt tree root base)) := by
  have hprofile : ∀ spot ∈ spots entries, (profileOf tree root (spot.path base)).toOption =
      (textAt? entries spot).map fun text => profileAt tree root base (spot, text) := by
    intro spot hspot
    obtain ⟨-, bytes, hbytes⟩ := (mem_spots_iff (hp.at? h.held).1).mp hspot
    unfold profileOf textAt?
    rw [readText_path hp h hbytes, hbytes]
    dsimp only
    cases Text.decode bytes <;> rfl
  unfold survey profiles
  rw [files_eq hp h]
  change Except.ok (((spots entries).map (Spot.path · base)).filterMap _) = _
  unfold readables
  rw [List.filterMap_map, List.map_filterMap]
  refine congrArg Except.ok (List.filterMap_congr fun spot hspot => ?_)
  rw [Option.map_map]
  exact hprofile spot hspot

/-- The files that can be read are those with the names of a source file and the bytes of a text. -/
theorem mem_readables_iff (hp : (Node.folder entries).IsProper) {spot : Spot} {text : List Char} :
    (spot, text) ∈ readables entries ↔
      spot.IsSource ∧
        (Node.folder entries).at? spot.names = some (.file (Text.encode (String.ofList text))) := by
  unfold readables
  simp only [List.mem_filterMap, Option.map_eq_some_iff, Prod.mk.injEq, textAt?_eq_some_iff]
  constructor
  · rintro ⟨spot, hspot, text, htext, rfl, rfl⟩
    exact ⟨((mem_spots_iff hp).mp hspot).1, htext⟩
  · rintro ⟨hsource, htext⟩
    exact ⟨spot, (mem_spots_iff hp).mpr ⟨hsource, _, htext⟩, text, htext, rfl, rfl⟩

/-- The files that can be read stand in the order in which all are found. -/
theorem pairwise_readables (hp : (Node.folder entries).IsProper) :
    (readables entries).Pairwise fun first second => first.1.Before second.1 := by
  refine List.Pairwise.filterMap _ (fun first second hbefore one hone other hother => ?_) (pairwise_spots hp)
  obtain ⟨text, -, rfl⟩ := Option.map_eq_some_iff.mp hone
  obtain ⟨more, -, rfl⟩ := Option.map_eq_some_iff.mp hother
  exact hbefore

/-! ## Other files -/

/-- A file at a place matters to the profiles: it is a source file below the base folder, and
its bytes are those of a text. -/
def IsProfiled (tree : FileTree) (base : Path) (place : List String) (bytes : List UInt8) : Prop :=
  ∃ above entries spot text, tree.Opens base above entries ∧ place = above ++ spot.names ∧
    Spot.IsSource spot ∧ bytes = Text.encode (String.ofList text)

variable {old new : FileTree} {added : List String} {bytes : List UInt8} {inner : List (String × Node)}

/-- A readable source file below an open folder is seen at its place. -/
theorem mem_readables_iff_sight (hp : tree.top.IsProper) (h : tree.Opens base place entries) {spot : Spot}
    {text : List Char} :
    (spot, text) ∈ readables entries ↔
      spot.IsSource ∧ tree.sight (place ++ spot.names) = .file (Text.encode (String.ofList text)) := by
  rw [mem_readables_iff (hp.at? h.held).1, FileTree.sight, Node.sight_append h.held, Node.sight_eq_file_iff]

/-- The same source files can be read with a file more that does not matter. -/
theorem readables_eq_of_addsFile (hpo : old.top.IsProper) (hpn : new.top.IsProper)
    (ha : old.AddsFile new added bytes) (ho : old.Opens base place entries)
    (hn : new.Opens base place inner) (hnot : ¬ IsProfiled old base added bytes) :
    readables inner = readables entries := by
  have hirrefl : Std.Irrefl fun first second : Spot × List Char => first.1.Before second.1 :=
    ⟨fun found => found.1.not_before_self⟩
  have hantisymm : Std.Antisymm fun first second : Spot × List Char => first.1.Before second.1 :=
    ⟨fun first second hfirst hsecond => absurd hsecond hfirst.asymm⟩
  refine (pairwise_readables (hpn.at? hn.held).1).eq_of_mem_iff (pairwise_readables (hpo.at? ho.held).1) ?_
  rintro ⟨spot, text⟩
  rw [mem_readables_iff_sight hpn hn, mem_readables_iff_sight hpo ho]
  refine and_congr_right fun hsource => ?_
  by_cases he : place ++ spot.names = added
  · -- At the place of the new file nothing was, and what is there now is not read.
    rw [he, ha.before, ha.after]
    constructor
    · intro hbytes
      exact absurd ⟨place, entries, spot, text, ho, he.symm, hsource, Sight.file.inj hbytes⟩ hnot
    · intro hnothing
      cases hnothing
  · rw [ha.others _ he]

/-- Where no folder is nothing is profiled. -/
theorem survey_of_not_opens (h : ¬ ∃ place entries, tree.Opens base place entries) (root : Path) :
    survey tree root base = (FileTree.accept base).map fun _ => [] := by
  have hlist : ∃ fault, tree.list base = .error fault := by
    unfold FileTree.list
    split
    · next found hfind =>
      have hfolder : tree.hasFolder base = true := by
        unfold FileTree.hasFolder
        rw [hfind]
        rfl
      exact absurd (FileTree.exists_opens hfolder) h
    · exact ⟨_, rfl⟩
    · exact ⟨_, rfl⟩
  obtain ⟨fault, hfault⟩ := hlist
  have hwalk : ∀ enters, tree.walk enters base = .error fault := by
    intro enters
    unfold FileTree.walk
    rw [hfault]
  have hfiles : files tree base = (FileTree.accept base).map fun _ => [] := by
    unfold files
    cases ha : FileTree.accept base with
    | error refusal => rfl
    | ok accepted =>
      have haccepted : accepted = base := by
        unfold FileTree.accept at ha
        split at ha <;> cases ha
        rfl
      rw [haccepted, ok_bind, hwalk]
      rfl
  unfold survey
  rw [hfiles]
  cases FileTree.accept base <;> rfl

/-- The source files have the same profiles with a file more that does not matter. -/
theorem survey_eq_of_addsFile (hpo : old.top.IsProper) (hpn : new.top.IsProper)
    (ha : old.AddsFile new added bytes) (hnot : ¬ IsProfiled old base added bytes) (root : Path) :
    survey new root base = survey old root base := by
  by_cases h : ∃ place entries, old.Opens base place entries
  · obtain ⟨place, entries, ho⟩ := h
    obtain ⟨inner, hn⟩ := ha.exists_opens_iff.mpr ⟨entries, ho⟩
    have hprofile : profileAt new root base = profileAt old root base := by
      funext found
      unfold profileAt
      rw [ha.workingFolder]
    rw [survey_eq hpo ho, survey_eq hpn hn, readables_eq_of_addsFile hpo hpn ha ho hn hnot, hprofile]
  · have hnew : ¬ ∃ place entries, new.Opens base place entries := fun ⟨place, hopens⟩ =>
      h ⟨place, ha.exists_opens_iff.mp hopens⟩
    rw [survey_of_not_opens h, survey_of_not_opens hnew]

/-- Whether a file matters does not depend on whether it is there. -/
theorem IsProfiled.of_addsFile (ha : old.AddsFile new added bytes) (h : IsProfiled old base place bytes) :
    IsProfiled new base place bytes := by
  obtain ⟨above, entries, spot, text, hopens, hrest⟩ := h
  obtain ⟨held, hheld⟩ := ha.exists_opens_iff.mpr ⟨entries, hopens⟩
  exact ⟨above, held, spot, text, hheld, hrest⟩

end Checkup.Source

namespace Checkup

/-- What a check found, however long it took. -/
def Check.findings (check : Check) : List Issue × Status × String :=
  (check.issues, check.status, check.summary)

/-- The check of the source files is the one over their profiles. -/
theorem Workplace.result_measureSource (place : Workplace) (settings : Settings) :
    (place.measureSource settings).result =
      (Source.survey place.tree settings.rootPath settings.sourcePath).map
        (Source.check · place.elapsed) := by
  unfold measureSource Source.survey
  cases h : Source.files place.tree settings.sourcePath with
  | error fault => rfl
  | ok files => rfl

namespace Source

/-- What a walk finds below a folder with some entries: the source files, where they lie and in
their order, and those that can be read, with their texts. -/
structure Finds (tree : FileTree) (root base : Path) (entries : List (String × Node)) (found : List Spot)
    (readable : List (Spot × List Char)) : Prop where
  mem_found : ∀ spot, spot ∈ found ↔
    spot.IsSource ∧ ∃ bytes, (Node.folder entries).at? spot.names = some (.file bytes)
  once : found.Nodup
  order : found.Pairwise Spot.Before
  files : Source.files tree base = .ok (found.map fun spot => (base.descend spot.folders).child spot.file)
  /-- A file can be read if its bytes are those of a text. -/
  mem_readable : ∀ spot text, (spot, text) ∈ readable ↔ spot ∈ found ∧
    (Node.folder entries).at? spot.names = some (.file (Text.encode (String.ofList text)))
  readableOrder : readable.Pairwise fun first second => first.1.Before second.1
  profiles : survey tree root base = .ok (readable.map fun found =>
    .ofText (Path.shown tree.workingFolder root ((base.descend found.1.folders).child found.1.file))
      (Text.unifyLineEnds found.2))

end Source

end Checkup
