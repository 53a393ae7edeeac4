import Checkup.Proofs.Outcomes
import Checkup.Proofs.YamlSupply
import Checkup.Proofs.YamlValues
import Checkup.Settings.Load

/-!
# Settings that cannot be loaded

What is wrong with a configuration is told by a configuration fault, but not all that can
go wrong with its file is: the path may lead to a folder, the bytes may be no text, an
escape may stand for no character, a scalar may not fit its kind, and a number may be too
long to be shown. These are all the cases, and settings are loaded or refused in all others.
-/

namespace Checkup

/-- Every fault of an outcome has a cause. -/
def CausedBy {α : Type} (outcome : Outcome α) (cause : Fault → Prop) : Prop :=
  ∀ fault, outcome = .error fault → cause fault

namespace CausedBy

variable {α β : Type} {cause : Fault → Prop}

theorem ok (value : α) : CausedBy (.ok value) cause := fun fault h => by cases h

theorem error {fault : Fault} (h : cause fault) : CausedBy (.error fault : Outcome α) cause := by
  intro found hf
  cases hf
  exact h

/-- One step after another. -/
theorem bind {first : Outcome α} {next : α → Outcome β} (h : CausedBy first cause)
    (hn : ∀ value, CausedBy (next value) cause) : CausedBy (first >>= next) cause := by
  cases first with
  | ok value => exact hn value
  | error fault =>
    intro found hf
    cases hf
    exact h fault rfl

/-- What is made of a result brings in no fault. -/
theorem map {outcome : Outcome α} (h : CausedBy outcome cause) (f : α → β) : CausedBy (f <$> outcome) cause := by
  rw [← bind_pure_comp]
  exact h.bind fun _ => .ok _

/-- Steps on the members of a list. -/
theorem mapM {step : α → Outcome β} {items : List α} (h : ∀ item ∈ items, CausedBy (step item) cause) :
    CausedBy (items.mapM step) cause := by
  induction items with
  | nil => exact .ok []
  | cons item items ih =>
    rw [List.mapM_cons]
    refine (h item List.mem_cons_self).bind fun first => ?_
    exact (ih fun each he => h each (List.mem_cons_of_mem item he)).bind fun more => .ok _

end CausedBy

namespace Yaml

/-! ## Scalars -/

/-- A fault that is not one of the configuration. -/
def IsForeign (fault : Fault) : Prop := ∀ message, fault ≠ .config message

theorem decimalValue_foreign (text : List Char) : CausedBy (decimalValue text) IsForeign := by
  unfold decimalValue
  split
  · exact .ok _
  · exact .error fun _ h => by cases h

theorem basedValue_foreign (base : Nat) (letter : Char) (text : List Char) :
    CausedBy (basedValue base letter text) IsForeign := by
  unfold basedValue
  split
  · exact .ok _
  · exact .error fun _ h => by cases h

theorem wholeValue_foreign (text : List Char) : CausedBy (wholeValue text) IsForeign := by
  unfold wholeValue
  split
  · exact .error fun _ h => by cases h
  · exact .ok _
  · exact basedValue_foreign 2 'b' _
  · exact basedValue_foreign 16 'x' _
  · exact basedValue_foreign 8 'o' _
  · split
    · exact (CausedBy.mapM fun part _ => decimalValue_foreign part).map _
    · exact decimalValue_foreign _

theorem intValue_foreign (text : List Char) : CausedBy (intValue text) IsForeign := by
  unfold intValue
  split
  · exact .error fun _ h => by cases h
  · exact (wholeValue_foreign _).map _
  · exact (wholeValue_foreign _).map _
  · exact (wholeValue_foreign _).map _

theorem binaryValue_foreign (text : List Char) : CausedBy (binaryValue text) IsForeign := by
  unfold binaryValue
  split
  · exact .ok _
  · exact .error fun _ h => by cases h

theorem sixtieths_foreign (base : Nat) (sum : Binary64) (digits : List Binary64) :
    CausedBy (sixtieths base sum digits) IsForeign := by
  induction digits generalizing base sum with
  | nil => exact .ok sum
  | cons digit digits ih =>
    unfold sixtieths
    split
    · exact ih _ _
    · exact .error fun _ h => by cases h

theorem magnitudeValue_foreign (text : List Char) : CausedBy (magnitudeValue text) IsForeign := by
  unfold magnitudeValue
  split
  · exact .ok _
  · split
    · exact .ok _
    · split
      · exact (CausedBy.mapM fun part _ => binaryValue_foreign part).bind fun digits => sixtieths_foreign _ _ _
      · exact binaryValue_foreign text

theorem floatValue_foreign (text : List Char) : CausedBy (floatValue text) IsForeign := by
  unfold floatValue
  split
  · exact .error fun _ h => by cases h
  · exact (magnitudeValue_foreign _).map _
  · exact (magnitudeValue_foreign _).map _
  · exact (magnitudeValue_foreign _).map _

theorem boolValue_foreign (text : List Char) : CausedBy (boolValue text) IsForeign := by
  unfold boolValue
  dsimp only
  split
  · exact .ok _
  · exact .error fun _ h => by cases h

theorem momentValue_foreign (text : List Char) : CausedBy (momentValue text) IsForeign := by
  unfold momentValue
  split
  · exact .error fun _ h => by cases h
  · split
    · exact .ok _
    · exact .error fun _ h => by cases h

/-- A fault keeps its cause among the flaws. -/
theorem faulty_blames {α : Type} {outcome : Outcome α} {cause : Fault → Prop} (h : CausedBy outcome cause) :
    Blames (faulty outcome) cause := by
  cases outcome with
  | ok value => exact .ok value
  | error fault => exact .fault (h fault rfl)

/-- A scalar that cannot be built is no fault of the configuration. -/
theorem scalarValue_foreign (kind : Kind) (text : String) : Blames (scalarValue kind text) IsForeign := by
  unfold scalarValue
  dsimp only
  split
  · exact .ok _
  · exact .ok _
  · exact faulty_blames (boolValue_foreign _)
  · exact faulty_blames (intValue_foreign _)
  · exact faulty_blames (floatValue_foreign _)
  · exact faulty_blames (momentValue_foreign _)
  · unfold binaryScalar
    split
    · split
      · exact .ok _
      · exact .malformed
    · exact .malformed
  · exact .malformed

/-- A document that cannot be built for a scalar is no fault of the configuration. -/
theorem Unbuildable.foreign {document : Graph} {fault : Fault} (h : Unbuildable document fault) :
    IsForeign fault := by
  cases h with
  | scalar _ hvalue => exact scalarValue_foreign _ _ fault hvalue
  | standIn _ _ hvalue => exact scalarValue_foreign _ _ fault hvalue
  | time _ _ => exact fun _ h => by cases h

/-- Nor is a wrong escape. -/
theorem HasWrongEscape.foreign {text : List Char} {fault : Fault} (h : HasWrongEscape text fault) :
    IsForeign fault := by
  obtain ⟨digits, code, rest, -, -, -, hfault⟩ := h
  unfold charOfCode at hfault
  split at hfault
  · cases hfault
    exact fun _ h => by cases h
  · split at hfault
    · cases hfault
      exact fun _ h => by cases h
    · split at hfault
      · cases hfault
      · cases hfault

/-- A text that cannot be had at all is not read. -/
theorem read_of_no_text (flaw : Flaw) : read ⟨[], some flaw⟩ = .error flaw := by
  have htokens : tokens ⟨[], some flaw⟩ = [.broken flaw] := by
    unfold tokens
    rw [Lexer.run]
    rfl
  unfold read
  rw [htokens]
  rfl

/-- A file of one chunk whose bytes are no text is not read. -/
theorem read_of_decode_error {bytes : List UInt8} {fault : Text.Utf8Fault}
    (hl : bytes.length ≤ chunkSize) (hd : Text.decode bytes = .error fault) (hf : fault.flaw ≠ .cutShort) :
    read (.ofBytes bytes) = .error (.fault (.notUtf8 fault)) := by
  rw [Supply.ofBytes_of_decode_error hl hd hf]
  exact read_of_no_text _

/-! ## Numbers that are too long -/

/-- The scalars of a value itself. -/
def Cell.scalars : Cell → List Scalar
  | scalar value => [value]
  | list _ | pairs _ => []
  | mapping entries => entries.map Prod.fst
  | set members => members

namespace Item

/-- A document holds a whole number with too many digits to be written. -/
def HoldsLongNumber (item : Item) : Prop :=
  ∃ cell ∈ item.cells, ∃ n, .int n ∈ cell.scalars ∧ isWritable n = false

/-- What an item cannot be shown for. -/
def IsTooLong (item : Item) (fault : Fault) : Prop := fault = .tooLongNumber ∧ item.HoldsLongNumber

theorem literalOfScalar_causedBy {item : Item} {cell : Cell} (hc : cell ∈ item.cells) {scalar : Scalar}
    (hs : scalar ∈ cell.scalars) : CausedBy (literalOfScalar scalar) item.IsTooLong := by
  unfold literalOfScalar
  split
  · next n =>
    unfold writeWhole
    split
    · exact .ok _
    · next hlong => exact .error ⟨rfl, cell, hc, n, hs, by simpa using hlong⟩
  · exact .ok _

/-- The cell of an item is one of its document, unless it is the absent value. -/
theorem cell_mem_or (item : Item) : item.cell ∈ item.cells ∨ item.cell = .null := by
  unfold cell
  cases hcell : item.cells[item.number]? with
  | none => exact .inr rfl
  | some found => exact .inl (Array.mem_of_getElem? hcell)

/-- Only a number that is too long cannot be shown. -/
theorem literalIn_causedBy (fuel : Nat) (around : List Nat) (item : Item) :
    CausedBy (literalIn fuel around item) item.IsTooLong := by
  induction fuel generalizing around item with
  | zero => exact .ok _
  | succ fuel ih =>
    have hinner (number : Nat) : CausedBy (literalIn fuel (item.number :: around) (item.part number))
        item.IsTooLong := ih _ (item.part number)
    unfold literalIn
    split
    · exact .ok _
    · extract_lets inner
      rcases item.cell_mem_or with hmem | hnull
      · split
        · next value hcell => 
          exact literalOfScalar_causedBy hmem (by rw [hcell]; exact List.mem_singleton.mpr rfl)
        · exact (CausedBy.mapM fun number _ => hinner number).bind fun shown => .ok _
        · refine (CausedBy.mapM fun entry _ => ?_).bind fun shown => .ok _
          exact (hinner entry.1).bind fun key => (hinner entry.2).bind fun value => .ok _
        · next entries hcell =>
          refine (CausedBy.mapM fun entry he => ?_).bind fun shown => .ok _
          have hkey : entry.1 ∈ item.cell.scalars := by
            rw [hcell]
            exact List.mem_map_of_mem he
          exact (literalOfScalar_causedBy hmem hkey).bind fun key => (hinner entry.2).bind fun value => .ok _
        · exact .ok _
        · next members hcell =>
          refine (CausedBy.mapM fun member hm => ?_).bind fun shown => .ok _
          exact literalOfScalar_causedBy hmem (by rw [hcell]; exact hm)
      · rw [hnull]
        exact .ok _

/-- Only a number that is too long cannot be shown in a message. -/
theorem display_causedBy (item : Item) : CausedBy item.display item.IsTooLong := by
  unfold display
  split
  · exact .ok _
  · exact .ok _
  · exact literalIn_causedBy _ _ item

end Item

end Yaml

namespace Settings

/-! ## Drafts -/

/-- The sections of a configuration. -/
def sectionNames : List String := ["paths", "tools", "duplicates", "dependencies", "architecture"]

/-- A variable that takes precedence over the file. -/
def isSet (text? : Option String) : Bool := text?.any fun text => !text.isEmpty

/-- The entries of which the text is taken, each by its section and its key. -/
def shownEntries (environment : Variables) : List (String × String) :=
  [("paths", "root")] ++
    (if isSet environment.source then [] else [("paths", "source")]) ++
    (if isSet environment.reportFolder then [] else [("paths", "report_dir")]) ++
    [("duplicates", "stats_file"), ("dependencies", "target"), ("architecture", "config"),
      ("architecture", "target")]

/-- Every section that is given is a mapping. -/
def HasSections (mapping : Option Yaml.Item) : Prop :=
  ∀ name ∈ sectionNames, Succeeds (section? mapping name)

/-- The text of an entry is a number that is too long, or a collection with one. -/
def IsLong (part : Option Yaml.Item) (key : String) : Prop :=
  ∃ item, entry? part key = some item ∧ item.display = .error .tooLongNumber

/-- One of the entries of which the text is taken is too long. -/
def ShowsLong (mapping : Option Yaml.Item) (environment : Variables) : Prop :=
  ∃ entry ∈ shownEntries environment, ∃ part, section? mapping entry.1 = .ok part ∧ IsLong part entry.2

/-- A section is refused with a fault of the configuration. -/
theorem section?_causedBy (mapping : Option Yaml.Item) (name : String) :
    CausedBy (section? mapping name) fun fault => ∃ message, fault = .config message := by
  unfold section?
  split
  · exact .ok _
  · split
    · exact .ok _
    · split
      · exact .ok _
      · exact .error ⟨_, rfl⟩

/-- An entry has no text exactly if it is too long. -/
theorem textOr_failsBy (part : Option Yaml.Item) (key default : String) :
    FailsBy (textOr part key default) fun fault => fault = .tooLongNumber ∧ IsLong part key := by
  unfold textOr IsLong
  cases entry? part key with
  | none => exact (FailsBy.of_succeeds (.ok default)).congr fun fault => by simp
  | some item =>
    constructor
    · intro fault hf
      obtain ⟨rfl, -⟩ := item.display_causedBy fault hf
      exact ⟨rfl, item, rfl, hf⟩
    · rintro fault ⟨-, found, hfound, hf⟩
      cases hfound
      exact ⟨_, hf⟩

/-- A variable that is set makes up for an entry. -/
theorem override_failsBy {outcome : Outcome String} {cause : Fault → Prop} (h : FailsBy outcome cause)
    (text? : Option String) :
    FailsBy (override text? outcome) fun fault => isSet text? = false ∧ cause fault := by
  cases text? with
  | none => exact h.congr fun fault => by simp [isSet]
  | some text =>
    by_cases hempty : text.isEmpty = true
    · have hoverride : override (some text) outcome = outcome := if_pos hempty
      rw [hoverride]
      exact h.congr fun fault => by simp [isSet, hempty]
    · have hoverride : override (some text) outcome = .ok text := if_neg hempty
      rw [hoverride]
      exact (FailsBy.of_succeeds (.ok text)).congr fun fault => by simp [isSet, hempty]

/-- If every section that is given is a mapping, a draft fails exactly for an entry that is
too long. -/
theorem draft_failsBy {mapping : Option Yaml.Item} (h : HasSections mapping) (environment : Variables) :
    FailsBy (draft mapping environment) fun fault => fault = .tooLongNumber ∧ ShowsLong mapping environment := by
  obtain ⟨paths, hpaths⟩ := h "paths" (by decide)
  obtain ⟨tools, htools⟩ := h "tools" (by decide)
  obtain ⟨duplicates, hduplicates⟩ := h "duplicates" (by decide)
  obtain ⟨dependencies, hdependencies⟩ := h "dependencies" (by decide)
  obtain ⟨architecture, harchitecture⟩ := h "architecture" (by decide)
  unfold draft
  rw [hpaths, htools, hduplicates, hdependencies, harchitecture]
  simp only [ok_bind]
  refine FailsBy.congr ((textOr_failsBy paths "root" _).bind fun root _ =>
    (override_failsBy (textOr_failsBy paths "source" _) _).bind fun source _ =>
    (override_failsBy (textOr_failsBy paths "report_dir" _) _).bind fun folder _ =>
    (textOr_failsBy duplicates "stats_file" _).bind fun statistics _ =>
    (textOr_failsBy dependencies "target" _).bind fun dependency _ =>
    (textOr_failsBy architecture "config" _).bind fun config _ =>
    (textOr_failsBy architecture "target" _).bind_succeeds fun target => .ok _) fun fault => ?_
  constructor
  · rintro (⟨rfl, hl⟩ | ⟨hs, rfl, hl⟩ | ⟨hs, rfl, hl⟩ | ⟨rfl, hl⟩ | ⟨rfl, hl⟩ | ⟨rfl, hl⟩ | ⟨rfl, hl⟩)
    · exact ⟨rfl, ("paths", "root"), by simp [shownEntries], paths, hpaths, hl⟩
    · exact ⟨rfl, ("paths", "source"), by simp [shownEntries, hs], paths, hpaths, hl⟩
    · exact ⟨rfl, ("paths", "report_dir"), by simp [shownEntries, hs], paths, hpaths, hl⟩
    · exact ⟨rfl, ("duplicates", "stats_file"), by simp [shownEntries], duplicates, hduplicates, hl⟩
    · exact ⟨rfl, ("dependencies", "target"), by simp [shownEntries], dependencies, hdependencies, hl⟩
    · exact ⟨rfl, ("architecture", "config"), by simp [shownEntries], architecture, harchitecture, hl⟩
    · exact ⟨rfl, ("architecture", "target"), by simp [shownEntries], architecture, harchitecture, hl⟩
  · rintro ⟨rfl, entry, hentry, part, hpart, hl⟩
    simp only [shownEntries, List.mem_append, List.mem_cons, List.mem_ite_nil_left, List.not_mem_nil,
      or_false, Bool.not_eq_true] at hentry
    rcases hentry with ((rfl | ⟨hs, rfl⟩) | ⟨hs, rfl⟩) | rfl | rfl | rfl | rfl
    · cases hpaths.symm.trans hpart
      exact .inl ⟨rfl, hl⟩
    · cases hpaths.symm.trans hpart
      exact .inr (.inl ⟨hs, rfl, hl⟩)
    · cases hpaths.symm.trans hpart
      exact .inr (.inr (.inl ⟨hs, rfl, hl⟩))
    · cases hduplicates.symm.trans hpart
      exact .inr (.inr (.inr (.inl ⟨rfl, hl⟩)))
    · cases hdependencies.symm.trans hpart
      exact .inr (.inr (.inr (.inr (.inl ⟨rfl, hl⟩))))
    · cases harchitecture.symm.trans hpart
      exact .inr (.inr (.inr (.inr (.inr (.inl ⟨rfl, hl⟩)))))
    · cases harchitecture.symm.trans hpart
      exact .inr (.inr (.inr (.inr (.inr (.inr ⟨rfl, hl⟩)))))

/-- With a section that is no mapping a draft is refused as a configuration. -/
theorem draft_of_not_hasSections {mapping : Option Yaml.Item} (h : ¬HasSections mapping)
    (environment : Variables) : ∃ message, draft mapping environment = .error (.config message) := by
  have hsection := section?_causedBy mapping
  unfold draft
  cases hpaths : section? mapping "paths" with
  | error fault =>
    obtain ⟨message, rfl⟩ := hsection _ fault hpaths
    exact ⟨message, rfl⟩
  | ok paths =>
  cases htools : section? mapping "tools" with
  | error fault =>
    obtain ⟨message, rfl⟩ := hsection _ fault htools
    exact ⟨message, rfl⟩
  | ok tools =>
  cases hduplicates : section? mapping "duplicates" with
  | error fault =>
    obtain ⟨message, rfl⟩ := hsection _ fault hduplicates
    exact ⟨message, rfl⟩
  | ok duplicates =>
  cases hdependencies : section? mapping "dependencies" with
  | error fault =>
    obtain ⟨message, rfl⟩ := hsection _ fault hdependencies
    exact ⟨message, rfl⟩
  | ok dependencies =>
  cases harchitecture : section? mapping "architecture" with
  | error fault =>
    obtain ⟨message, rfl⟩ := hsection _ fault harchitecture
    exact ⟨message, rfl⟩
  | ok architecture =>
    refine absurd (fun name hname => ?_) h
    simp only [sectionNames, List.mem_cons, List.not_mem_nil, or_false] at hname
    rcases hname with rfl | rfl | rfl | rfl | rfl
    · exact ⟨paths, hpaths⟩
    · exact ⟨tools, htools⟩
    · exact ⟨duplicates, hduplicates⟩
    · exact ⟨dependencies, hdependencies⟩
    · exact ⟨architecture, harchitecture⟩

/-! ## Files -/

/-- What goes wrong with the file of a configuration that is no fault of the configuration. -/
inductive Stumbles (tree : FileTree) (environment : Variables) (file : String) : Fault → Prop
  /-- The path leads to a folder. -/
  | folder {entries : List (String × Node)} (hfind : tree.find (.ofString file) = .ok (.folder entries)) :
    Stumbles tree environment file (.file ⟨.isFolder, (Path.ofString file).toString⟩)
  /-- The file is not UTF-8, and nothing else is wrong with it before that. -/
  | bytes {bytes : List UInt8} {fault : Fault} (hfind : tree.find (.ofString file) = .ok (.file bytes))
    (hread : Yaml.read (.ofBytes bytes) = .error (.fault fault)) (hfault : ∃ flaw, fault = .notUtf8 flaw)
    (hbytes : ¬Text.IsUtf8 bytes) : Stumbles tree environment file fault
  /-- An escape in the file stands for no character. -/
  | escape {bytes : List UInt8} {fault : Fault} (hfind : tree.find (.ofString file) = .ok (.file bytes))
    (hread : Yaml.read (.ofBytes bytes) = .error (.fault fault))
    (hescape : Yaml.HasWrongEscape (Yaml.Supply.ofBytes bytes).text fault) :
    Stumbles tree environment file fault
  /-- The document in the file holds a scalar that cannot be built. -/
  | scalar {bytes : List UInt8} {fault : Fault} (hfind : tree.find (.ofString file) = .ok (.file bytes))
    (hread : Yaml.read (.ofBytes bytes) = .error (.fault fault)) {document : Yaml.Composed}
    (hdocument : Yaml.document? (Yaml.tokens (.ofBytes bytes)) = .ok (some document))
    (hscalar : Yaml.Unbuildable document.graph fault) : Stumbles tree environment file fault
  /-- Every section is a mapping, and an entry of which the text is taken has a number that
  is too long to be written. -/
  | number {bytes : List UInt8} {item : Yaml.Item} (hfind : tree.find (.ofString file) = .ok (.file bytes))
    (hread : Yaml.read (.ofBytes bytes) = .ok (some item)) (hmapping : item.isMapping = true)
    (hsections : HasSections (some item)) (hshown : ShowsLong (some item) environment)
    (hnumber : item.HoldsLongNumber) : Stumbles tree environment file .tooLongNumber

/-- What is checked of a draft is a fault of the configuration. -/
theorem check_causedBy (draft : Draft) :
    CausedBy draft.check fun fault => ∃ message, fault = .config message := by
  unfold Draft.check
  split
  · exact .ok _
  · exact .error ⟨_, rfl⟩

variable {tree : FileTree} {environment : Variables} {file : String} {fault : Fault}

/-- What a file stumbles over is no fault of the configuration. -/
theorem Stumbles.foreign (h : Stumbles tree environment file fault) : Yaml.IsForeign fault := by
  cases h with
  | folder _ => exact fun _ h => by cases h
  | bytes _ _ hfault _ =>
    obtain ⟨flaw, rfl⟩ := hfault
    exact fun _ h => by cases h
  | escape _ _ hescape => exact hescape.foreign
  | scalar _ _ _ hscalar => exact hscalar.foreign
  | number _ _ _ _ _ _ => exact fun _ h => by cases h

/-- The sections of a document and their entries are parts of it. -/
theorem cells_of_section {item part : Yaml.Item} {name : String} (h : section? (some item) name = .ok (some part)) :
    part.cells = item.cells := by
  unfold section? at h
  split at h
  · cases h
  · next found hfound =>
    have hcells : found.cells = item.cells := by
      have hfind : item.find? name = some found := hfound
      unfold Yaml.Item.find? at hfind
      split at hfind
      · obtain ⟨number, -, rfl⟩ := Option.map_eq_some_iff.mp hfind
        rfl
      · cases hfind
    split at h
    · cases h
    · split at h
      · cases h
        exact hcells
      · cases h

theorem cells_of_entry {part item : Yaml.Item} {key : String} (h : entry? (some part) key = some item) :
    item.cells = part.cells := by
  have hfind : part.find? key = some item := h
  unfold Yaml.Item.find? at hfind
  split at hfind
  · obtain ⟨number, -, rfl⟩ := Option.map_eq_some_iff.mp hfind
    rfl
  · cases hfind

/-- An entry that is too long has its number from the document. -/
theorem ShowsLong.holdsLongNumber {item : Yaml.Item} (h : ShowsLong (some item) environment) :
    item.HoldsLongNumber := by
  obtain ⟨entry, -, part, hpart, found, hfound, hlong⟩ := h
  cases part with
  | none => cases hfound
  | some part =>
    obtain ⟨-, cell, hcell, hnumber⟩ := found.display_causedBy _ hlong
    rw [cells_of_entry hfound, cells_of_section hpart] at hcell
    exact ⟨cell, hcell, hnumber⟩

/-- A mapping is refused for something else than the configuration only if it shows a number
that is too long. -/
theorem showsLong_of_draft {mapping : Option Yaml.Item}
    (h : (draft mapping environment >>= Draft.check) = .error fault) (hf : Yaml.IsForeign fault) :
    fault = .tooLongNumber ∧ HasSections mapping ∧ ShowsLong mapping environment := by
  by_cases hsections : HasSections mapping
  · cases hdraft : draft mapping environment with
    | error found =>
      rw [hdraft] at h
      cases h
      obtain ⟨rfl, hlong⟩ := (draft_failsBy hsections environment).caused fault hdraft
      exact ⟨rfl, hsections, hlong⟩
    | ok found =>
      rw [hdraft] at h
      obtain ⟨message, rfl⟩ := check_causedBy found fault h
      exact absurd rfl (hf message)
  · obtain ⟨message, hdraft⟩ := draft_of_not_hasSections hsections environment
    rw [hdraft] at h
    cases h
    exact absurd rfl (hf message)

/-- Without a file nothing is refused for something else. -/
theorem draft_none_ne (h : (draft none environment >>= Draft.check) = .error fault) : ¬Yaml.IsForeign fault := by
  intro hf
  obtain ⟨-, -, entry, -, part, hpart, item, hitem, -⟩ := showsLong_of_draft h hf
  cases hpart
  cases hitem

/-- What a folder gives. -/
theorem readMapping_of_folder {entries : List (String × Node)}
    (hfind : tree.find (.ofString file) = .ok (.folder entries)) :
    readMapping tree file = .error (.file ⟨.isFolder, (Path.ofString file).toString⟩) := by
  unfold readMapping FileTree.holds FileTree.readBytes
  dsimp only
  rw [hfind]
  rfl

/-- What a file gives. -/
theorem readMapping_of_file {bytes : List UInt8} (hfind : tree.find (.ofString file) = .ok (.file bytes)) :
    readMapping tree file =
      match Yaml.read (.ofBytes bytes) with
      | .error (.fault fault) => .error fault
      | .error _ => .error (.config (malformedMessage file))
      | .ok none => .ok none
      | .ok (some item) =>
        if item.isMapping then .ok (some item)
        else if item.isNull then .ok none
        else .error (.config (noMappingMessage file)) := by
  unfold readMapping FileTree.holds FileTree.readBytes
  dsimp only
  rw [hfind]
  rfl

/-- What a path that leads nowhere gives. -/
theorem readMapping_of_missing {trouble : FileTrouble} (hfind : tree.find (.ofString file) = .error trouble) :
    readMapping tree file = .error (.config (missingMessage file)) := by
  unfold readMapping FileTree.holds
  dsimp only
  rw [hfind]
  rfl

/-- With a file the mapping is read first. -/
theorem load_some (tree : FileTree) (file : String) (environment : Variables) :
    load tree (some file) environment =
      readMapping tree file >>= fun mapping => draft mapping environment >>= Draft.check := rfl

/-- A fault that is not of the configuration makes the file stumble. -/
theorem stumbles_of_load (h : load tree (some file) environment = .error fault) (hf : Yaml.IsForeign fault) :
    Stumbles tree environment file fault := by
  rw [load_some] at h
  cases hfind : tree.find (.ofString file) with
  | error trouble =>
    rw [readMapping_of_missing hfind] at h
    cases h
    exact absurd rfl (hf _)
  | ok node =>
    cases node with
    | folder entries =>
      rw [readMapping_of_folder hfind] at h
      cases h
      exact .folder hfind
    | file bytes =>
      rw [readMapping_of_file hfind] at h
      cases hread : Yaml.read (.ofBytes bytes) with
      | error flaw =>
        rw [hread] at h
        cases flaw with
        | malformed =>
          cases h
          exact absurd rfl (hf _)
        | unfinished =>
          cases h
          exact absurd rfl (hf _)
        | fault found =>
          cases h
          rcases Yaml.read_blames _ _ hread with hwall | hescape | ⟨document, hdocument, hscalar⟩
          · obtain ⟨hbytes, hfault⟩ := Yaml.Supply.not_isUtf8_of_wall hwall
            exact .bytes hfind hread hfault hbytes
          · exact .escape hfind hread hescape
          · exact .scalar hfind hread hdocument hscalar
      | ok item? =>
        rw [hread] at h
        cases item? with
        | none => exact absurd hf (draft_none_ne h)
        | some item =>
          dsimp only at h
          split at h
          · next hmapping =>
            obtain ⟨rfl, hsections, hshown⟩ := showsLong_of_draft h hf
            exact .number hfind hread hmapping hsections hshown hshown.holdsLongNumber
          · split at h
            · exact absurd hf (draft_none_ne h)
            · cases h
              exact absurd rfl (hf _)

/-- A file that stumbles makes loading fail. -/
theorem Stumbles.load (h : Stumbles tree environment file fault) :
    load tree (some file) environment = .error fault := by
  rw [load_some]
  cases h with
  | folder hfind =>
    rw [readMapping_of_folder hfind]
    rfl
  | bytes hfind hread _ _ =>
    rw [readMapping_of_file hfind, hread]
    rfl
  | escape hfind hread _ =>
    rw [readMapping_of_file hfind, hread]
    rfl
  | scalar hfind hread _ _ =>
    rw [readMapping_of_file hfind, hread]
    rfl
  | number hfind hread hmapping hsections hshown _ =>
    rw [readMapping_of_file hfind, hread]
    dsimp only
    rw [if_pos hmapping, ok_bind]
    have hfails := draft_failsBy hsections environment
    obtain ⟨found, hfound⟩ := hfails.fails .tooLongNumber ⟨rfl, hshown⟩
    obtain ⟨rfl, -⟩ := hfails.caused found hfound
    rw [hfound]
    rfl

end Settings

end Checkup
