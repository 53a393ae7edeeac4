import Mathlib
import Checkup.Proofs.SettingsFaults
import Checkup.Proofs.TextPassages

/-!
# Settings that are accepted

Six parts of the settings have to meet a condition each. What is accepted meets them all,
but for a timeout that is not a number, which no comparison refuses. What does not meet
them is refused, and the message names the parts in question and no others, each once.
-/

namespace Checkup

open Text

/-! ## Names in a message -/

namespace Text

/-- How often a mark occurs in a text. -/
def occurrences (mark : List Char) : List Char → Nat
  | [] => mark.isEmpty.toNat
  | c :: rest => (mark.isPrefixOf (c :: rest)).toNat + occurrences mark rest

/-- Occurrences are counted in the characters that make up two texts. -/
theorem occurrences_ofList {mark text : List Char} {n : Nat} (h : occurrences mark text = n) :
    occurrences (String.ofList mark).toList (String.ofList text).toList = n := by
  rw [String.toList_ofList, String.toList_ofList]
  exact h

/-- A mark without a character occurs on one side of it or the other. -/
theorem occurrences_append_cons {mark : List Char} {c : Char} (hne : mark ≠ []) (hc : c ∉ mark)
    (front back : List Char) :
    occurrences mark (front ++ c :: back) = occurrences mark front + occurrences mark back := by
  have hempty : mark.isEmpty = false := List.isEmpty_eq_false_iff.mpr hne
  induction front with
  | nil =>
    have hno : mark.isPrefixOf (c :: back) = false := by
      rw [Bool.eq_false_iff, ne_eq, List.isPrefixOf_iff_prefix]
      intro hp
      rcases List.prefix_cons_iff.mp hp with rfl | ⟨more, rfl, -⟩
      · exact hne rfl
      · exact hc List.mem_cons_self
    rw [List.nil_append, occurrences, occurrences, hno, hempty]
  | cons d front ih =>
    have hsame : mark.isPrefixOf (d :: front ++ c :: back) = mark.isPrefixOf (d :: front) := by
      rw [Bool.eq_iff_iff, List.isPrefixOf_iff_prefix, List.isPrefixOf_iff_prefix]
      refine ⟨fun hp => ?_, fun hp => hp.trans (List.prefix_append _ _)⟩
      rcases List.prefix_or_prefix_of_prefix hp (List.prefix_append (d :: front) (c :: back)) with h | ⟨more, rfl⟩
      · exact h
      · -- A longer mark would hold the character.
        have hmore := (List.prefix_append_right_inj (d :: front)).mp hp
        rcases List.prefix_cons_iff.mp hmore with rfl | ⟨rest, rfl, -⟩
        · exact (List.append_nil (d :: front)).symm ▸ List.prefix_refl _
        · exact absurd (List.mem_append_right (d :: front) List.mem_cons_self) hc
    rw [List.cons_append] at hsame ⊢
    rw [occurrences, occurrences, hsame, ih, Nat.add_assoc]

/-- A mark without a line end occurs as often as it does in all lines together. -/
theorem occurrences_intercalate {mark : List Char} (hne : mark ≠ []) (hc : '\n' ∉ mark) (lines : List String) :
    occurrences mark (String.intercalate "\n" lines).toList =
      (lines.map fun line => occurrences mark line.toList).sum := by
  induction lines with
  | nil =>
    have hempty : mark.isEmpty = false := List.isEmpty_eq_false_iff.mpr hne
    change occurrences mark [] = 0
    rw [occurrences, hempty]
    rfl
  | cons line lines ih =>
    cases lines with
    | nil => simp
    | cons next lines =>
      have htext : (String.intercalate "\n" (line :: next :: lines)).toList =
          line.toList ++ '\n' :: (String.intercalate "\n" (next :: lines)).toList := by
        rw [String.intercalate_cons_of_ne_nil (List.cons_ne_nil next lines), String.toList_append,
          String.toList_append, List.append_assoc]
        rfl
      rw [htext, occurrences_append_cons hne hc, ih, List.map_cons (a := line), List.sum_cons]

end Text

namespace Settings

/-- The name of a part in messages. -/
def Part.field : Part → String
  | source => "paths.source"
  | reportFolder => "paths.report_dir"
  | launcher => "tools.launcher"
  | timeout => "tools.timeout"
  | duplicateTargets => "duplicates.targets"
  | duplicateMinLines => "duplicates.min_lines"

/-- How often a message names a part. -/
def Part.mentions (part : Part) (message : String) : Nat := occurrences part.field.toList message.toList

/-- What is said about a part names it once and no other. -/
theorem Part.mentions_complaint (part other : Part) : part.mentions other.complaint = if other = part then 1 else 0 := by
  cases part <;> cases other <;> exact occurrences_ofList (by decide)

/-- The message about some parts is a heading with a line for each. -/
theorem toList_invalidMessage (parts : List Part) : (invalidMessage parts).toList =
    "Invalid configuration:".toList ++ '\n' :: (String.intercalate "\n" (parts.map Part.complaint)).toList := by
  have hheader : "Invalid configuration:\n".toList = "Invalid configuration:".toList ++ ['\n'] := by simp
  unfold invalidMessage
  rw [String.toList_append, hheader, List.append_assoc, List.singleton_append]

/-- A message about some parts names each as often as it is one of them. -/
theorem Part.mentions_invalidMessage (part : Part) (parts : List Part) :
    part.mentions (invalidMessage parts) = parts.count part := by
  have hne : part.field.toList ≠ [] := by cases part <;> decide
  have hc : '\n' ∉ part.field.toList := by cases part <;> decide
  have hstart : occurrences part.field.toList "Invalid configuration:".toList = 0 := by
    cases part <;> exact occurrences_ofList (by decide)
  unfold mentions
  rw [toList_invalidMessage, occurrences_append_cons hne hc, hstart, Nat.zero_add,
    occurrences_intercalate hne hc, List.map_map]
  induction parts with
  | nil => rfl
  | cons other parts ih =>
    have hother : occurrences part.field.toList other.complaint.toList = if other = part then 1 else 0 :=
      part.mentions_complaint other
    rw [List.map_cons, List.sum_cons, ih, Function.comp_apply, hother, List.count_cons, Nat.add_comm]
    simp only [beq_iff_eq]

/-! ## What the parts have to be -/

/-- A text holds a character that is no blank. -/
def HasInk (text : String) : Prop := ∃ c ∈ text.toList, isBlank c = false

/-- A text is filled if it holds such a character. -/
theorem isFilled_iff {text : String} : isFilled text = true ↔ HasInk text := by
  unfold isFilled allBlank HasInk
  rw [Bool.not_eq_true', List.all_eq_false]
  simp only [Bool.not_eq_true]

/-- A floating-point number lies above zero; one that is no number does not. -/
inductive IsAboveZero : Binary64 → Prop
  /-- It is infinite and not negative. -/
  | infinite : IsAboveZero (.infinite false)
  /-- It has digits that are not all zero, and no sign. -/
  | finite {mantissa : Nat} (exponent : Int) (h : 0 < mantissa) : IsAboveZero (.finite false mantissa exponent)

/-- A floating-point number is positive if it lies above zero. -/
theorem isPositive_iff {number : Binary64} : number.isPositive = true ↔ IsAboveZero number := by
  constructor
  · intro h
    unfold Binary64.isPositive at h
    split at h
    · exact .finite _ (Nat.pos_of_ne_zero (by simpa using h))
    · exact .infinite
    · cases h
  · rintro (_ | ⟨_, hpos⟩)
    · rfl
    · simpa [Binary64.isPositive] using Nat.ne_of_gt hpos

/-- An item is a list of these texts. -/
def Lists (item : Yaml.Item) (texts : List String) : Prop :=
  ∃ items, item.items? = some items ∧ items.map Yaml.Item.text? = texts.map some

/-- Steps that may give nothing give some values exactly if each gives its own. -/
theorem mapM_eq_some_iff {α β : Type} {step : α → Option β} {items : List α} {values : List β} :
    items.mapM step = some values ↔ items.map step = values.map some := by
  induction items generalizing values with
  | nil =>
    rw [List.mapM_nil, List.map_nil, eq_comm (a := []), List.map_eq_nil_iff]
    exact Option.some_inj.trans eq_comm
  | cons item items ih =>
    rw [List.mapM_cons]
    cases hitem : step item with
    | none => cases values <;> simp [hitem]
    | some value =>
      cases hitems : items.mapM step with
      | none =>
        have hnone : ∀ more : List β, items.map step ≠ more.map some := fun more hmore => by
          rw [ih.mpr hmore] at hitems
          cases hitems
        cases values <;> simp [hitem, hnone]
      | some more =>
        have hmore := ih.mp hitems
        cases values with
        | nil => simp [hitem]
        | cons first rest => simp [hitem, hmore, List.map_inj_right]

/-- Reading a list of texts gives the texts that an item lists. -/
theorem texts?_eq_some_iff {item : Yaml.Item} {texts : List String} :
    texts? item = some texts ↔ Lists item texts := by
  unfold texts? Lists
  rw [Option.bind_eq_some_iff]
  exact exists_congr fun items => and_congr_right fun _ => mapM_eq_some_iff

namespace Part

/-- What a part has to be. What is not given is a standard value. -/
def IsMet (draft : Draft) : Part → Prop
  | source => HasInk draft.source
  | reportFolder => HasInk draft.reportFolder
  | launcher => ∀ item, draft.launcher = some item →
      (∃ text, item.text? = some text) ∨ ∃ texts, Lists item texts
  | timeout => ∀ item, draft.timeout = some item → item.scalar? = some .null ∨
      (∃ n, item.scalar? = some (.int n) ∧ 0 < n) ∨ ∃ number, item.scalar? = some (.float number) ∧ IsAboveZero number
  | duplicateTargets => ∀ item, draft.duplicateTargets = some item →
      ∃ texts, Lists item texts ∧ texts ≠ [] ∧ ∀ text ∈ texts, HasInk text
  | duplicateMinLines => ∀ item, draft.duplicateMinLines = some item → ∃ n, item.scalar? = some (.int n) ∧ 1 ≤ n

/-- A timeout that is not a number. -/
def IsNoNumber (draft : Draft) (part : Part) : Prop :=
  part = timeout ∧ ∃ item, draft.timeout = some item ∧ item.scalar? = some (.float .nan)

/-- What is accepted as a part: what it has to be, and a timeout that is not a number. -/
def IsAccepted (draft : Draft) (part : Part) : Prop := part.IsMet draft ∨ part.IsNoNumber draft

/-- A launcher is read if it is what it has to be. -/
theorem isUsable_launcher (draft : Draft) : launcher.isUsable draft = true ↔ launcher.IsMet draft := by
  unfold isUsable IsMet launcher?
  cases draft.launcher with
  | none => simp
  | some item =>
    cases htext : item.text? with
    | none => simp [htext, Option.isSome_iff_exists, texts?_eq_some_iff]
    | some text => simp [htext]

/-- A timeout is read if it is what it has to be, or no number. -/
theorem isUsable_timeout (draft : Draft) :
    timeout.isUsable draft = true ↔ timeout.IsMet draft ∨ timeout.IsNoNumber draft := by
  unfold isUsable IsMet IsNoNumber timeout?
  cases draft.timeout with
  | none => simp
  | some item =>
    cases hscalar : item.scalar? with
    | none => simp [hscalar]
    | some scalar =>
      cases scalar with
      | int n => by_cases hpos : 0 < n <;> simp [hscalar, hpos]
      | float number =>
        by_cases hpos : number.isPositive = true ∨ number = .nan <;>
          simp [hscalar, hpos, ← isPositive_iff]
      | _ => simp [hscalar]

/-- Targets are read if they are what they have to be. -/
theorem isUsable_duplicateTargets (draft : Draft) :
    duplicateTargets.isUsable draft = true ↔ duplicateTargets.IsMet draft := by
  unfold isUsable IsMet targets?
  cases draft.duplicateTargets with
  | none => simp
  | some item =>
    cases htexts : texts? item with
    | none => simp [← texts?_eq_some_iff, htexts]
    | some texts => simp [← texts?_eq_some_iff, htexts, isFilled_iff]

/-- A least number of lines is read if it is what it has to be. -/
theorem isUsable_duplicateMinLines (draft : Draft) :
    duplicateMinLines.isUsable draft = true ↔ duplicateMinLines.IsMet draft := by
  unfold isUsable IsMet minLines?
  cases draft.duplicateMinLines with
  | none => simp
  | some item =>
    cases hscalar : item.scalar? with
    | none => simp [hscalar]
    | some scalar =>
      cases scalar with
      | int n =>
        have hle : 1 ≤ n ↔ 0 < n := by omega
        by_cases hpos : 0 < n <;> simp [hscalar, hpos, hle]
      | _ => simp [hscalar]

/-- A part is usable if it is accepted. -/
theorem isUsable_iff (draft : Draft) (part : Part) : part.isUsable draft = true ↔ part.IsAccepted draft := by
  have hother : part ≠ timeout → (part.IsAccepted draft ↔ part.IsMet draft) := fun hne =>
    or_iff_left fun h => hne h.1
  cases part with
  | source => exact isFilled_iff.trans (hother nofun).symm
  | reportFolder => exact isFilled_iff.trans (hother nofun).symm
  | launcher => exact (isUsable_launcher draft).trans (hother nofun).symm
  | timeout => exact isUsable_timeout draft
  | duplicateTargets => exact (isUsable_duplicateTargets draft).trans (hother nofun).symm
  | duplicateMinLines => exact (isUsable_duplicateMinLines draft).trans (hother nofun).symm

end Part

/-! ## What is accepted and what is refused -/

/-- A number of seconds lies above zero. -/
def SecondsAboveZero : Seconds → Prop
  | .whole n => 0 < n
  | .fraction number => IsAboveZero number

/-- Settings that can be worked with. -/
structure IsValid (settings : Settings) : Prop where
  /-- The folder with the sources has a name, -/
  source : HasInk settings.source
  /-- and that for the reports. -/
  reportFolder : HasInk settings.reportFolder
  /-- A timeout lies above zero, unless it is not a number. -/
  timeout : ∀ seconds, settings.timeout = some seconds → SecondsAboveZero seconds ∨ seconds = .fraction .nan
  /-- There are targets, -/
  targets : settings.duplicateTargets ≠ []
  /-- and all of them have names. -/
  filled : ∀ target ∈ settings.duplicateTargets, HasInk target
  /-- The least number of lines is one at least. -/
  minLines : 1 ≤ settings.duplicateMinLines

/-- A timeout that is read lies above zero, unless it is not a number. -/
theorem aboveZero_of_timeout? {item : Option Yaml.Item} {seconds : Seconds}
    (h : timeout? item = some (some seconds)) : SecondsAboveZero seconds ∨ seconds = .fraction .nan := by
  unfold timeout? at h
  split at h
  · cases h
  · split at h
    · cases h
    · split at h
      · next hpos =>
        cases h
        exact .inl hpos
      · cases h
    · split at h
      · next number hscalar hpos =>
        cases h
        rcases (Bool.or_eq_true _ _).mp hpos with hpos | hnan
        · exact .inl (isPositive_iff.mp hpos)
        · exact .inr (congrArg _ (of_decide_eq_true hnan))
      · cases h
    · cases h

/-- Targets that are read are not empty, and all have names. -/
theorem filled_of_targets? {item : Option Yaml.Item} {targets : List String} (h : targets? item = some targets) :
    targets ≠ [] ∧ ∀ target ∈ targets, HasInk target := by
  unfold targets? at h
  split at h
  · cases h
    have hfilled : ∀ target ∈ ({} : Settings).duplicateTargets, isFilled target = true := by decide
    exact ⟨by decide, fun target ht => isFilled_iff.mp (hfilled target ht)⟩
  · split at h
    · split at h
      · next hgood =>
        cases h
        rw [Bool.and_eq_true, Bool.not_eq_true', List.isEmpty_eq_false_iff, List.all_eq_true] at hgood
        exact ⟨hgood.1, fun target ht => isFilled_iff.mp (hgood.2 target ht)⟩
      · cases h
    · cases h

/-- A least number of lines that is read is one at least. -/
theorem one_le_of_minLines? {item : Option Yaml.Item} {n : Int} (h : minLines? item = some n) : 1 ≤ n := by
  unfold minLines? at h
  split at h
  · cases h
    decide
  · split at h
    · split at h
      · next hpos =>
        cases h
        exact hpos
      · cases h
    · cases h

/-- A part of a draft is unusable if it is not accepted. -/
theorem Draft.count_unusable (given : Draft) (part : Part) :
    (part.IsAccepted given → given.unusable.count part = 0) ∧
      (¬part.IsAccepted given → given.unusable.count part = 1) := by
  have hone : Part.all.count part = 1 := by cases part <;> decide
  unfold unusable
  rw [← part.isUsable_iff given]
  constructor
  · intro h
    exact List.count_eq_zero.mpr fun hin => by simp [h] at hin
  · intro h
    rw [List.count_filter (by simp [h]), hone]

/-- A draft is accepted if all of its parts are, and makes valid settings. -/
theorem Draft.check_of_accepted {given : Draft} (h : ∀ part : Part, part.IsAccepted given) :
    ∃ settings, given.check = .ok settings ∧ settings.IsValid := by
  have husable : ∀ part : Part, part.isUsable given = true := fun part => (part.isUsable_iff given).mpr (h part)
  have hnone : given.unusable = [] :=
    List.filter_eq_nil_iff.mpr fun part _ => by rw [husable part]; decide
  obtain ⟨launcher, hlauncher⟩ := Option.isSome_iff_exists.mp (husable .launcher)
  obtain ⟨timeout, htimeout⟩ := Option.isSome_iff_exists.mp (husable .timeout)
  obtain ⟨targets, htargets⟩ := Option.isSome_iff_exists.mp (husable .duplicateTargets)
  obtain ⟨lines, hlines⟩ := Option.isSome_iff_exists.mp (husable .duplicateMinLines)
  unfold check
  rw [hnone, hlauncher, htimeout, htargets, hlines]
  obtain ⟨hsome, hfilled⟩ := filled_of_targets? htargets
  have habove : ∀ seconds, timeout = some seconds → SecondsAboveZero seconds ∨ seconds = .fraction .nan := by
    rintro seconds rfl
    exact aboveZero_of_timeout? htimeout
  exact ⟨_, rfl, {
    source := isFilled_iff.mp (husable .source)
    reportFolder := isFilled_iff.mp (husable .reportFolder)
    timeout := habove
    targets := hsome
    filled := hfilled
    minLines := one_le_of_minLines? hlines }⟩

/-- A draft with a part that is not accepted is refused, and the message names such parts once
and no others. -/
theorem Draft.check_of_not_accepted {given : Draft} {part : Part} (h : ¬part.IsAccepted given) :
    ∃ message, given.check = .error (.config message) ∧ ∀ part : Part,
      (part.IsAccepted given → part.mentions message = 0) ∧ (¬part.IsAccepted given → part.mentions message = 1) := by
  have hsome : given.unusable ≠ [] := by
    intro hnone
    have hone := (given.count_unusable part).2 h
    rw [hnone] at hone
    cases hone
  have hcheck : given.check = .error (.config (invalidMessage given.unusable)) := by
    unfold check
    split
    · next hnone _ _ _ _ => exact absurd hnone hsome
    · rfl
  refine ⟨_, hcheck, fun part => ?_⟩
  rw [part.mentions_invalidMessage]
  exact given.count_unusable part

/-- The mapping that is loaded: that of a file, or none without one. -/
def mappingOf (tree : FileTree) : Option String → Outcome (Option Yaml.Item)
  | some file => readMapping tree file
  | none => .ok none

/-- Loading is checking a draft of the mapping. -/
theorem load_eq (tree : FileTree) (file : Option String) (environment : Variables) :
    load tree file environment = mappingOf tree file >>= fun mapping => draft mapping environment >>= Draft.check := by
  cases file <;> rfl

/-- Settings that are loaded can be worked with, but for a timeout that is not a number. A mapping
whose sections are mappings, and whose texts can be shown, is loaded if all six parts are accepted;
otherwise it is refused, and the message names those that are not, each once, and no others. -/
theorem load_valid (tree : FileTree) (file : Option String) (environment : Variables) :
    (∀ settings, load tree file environment = .ok settings → settings.IsValid) ∧
      ∀ mapping, mappingOf tree file = .ok mapping → HasSections mapping →
        (ShowsLong mapping environment → load tree file environment = .error .tooLongNumber) ∧
        (¬ShowsLong mapping environment → ∃ given, draft mapping environment = .ok given ∧
          ((∀ part : Part, part.IsAccepted given) → ∃ settings, load tree file environment = .ok settings) ∧
          ((∃ part : Part, ¬part.IsAccepted given) →
            ∃ message, load tree file environment = .error (.config message) ∧ ∀ part : Part,
              (part.IsAccepted given → part.mentions message = 0) ∧
                (¬part.IsAccepted given → part.mentions message = 1))) := by
  refine ⟨fun settings h => ?_, fun mapping hmapping hsections => ⟨fun hlong => ?_, fun hshort => ?_⟩⟩
  · rw [load_eq] at h
    obtain ⟨mapping, -, h⟩ := bind_eq_ok_iff.mp h
    obtain ⟨given, -, h⟩ := bind_eq_ok_iff.mp h
    by_cases hall : ∀ part : Part, part.IsAccepted given
    · obtain ⟨found, hfound, hvalid⟩ := Draft.check_of_accepted hall
      cases h.symm.trans hfound
      exact hvalid
    · obtain ⟨part, hpart⟩ := not_forall.mp hall
      obtain ⟨message, hmessage, -⟩ := Draft.check_of_not_accepted hpart
      cases h.symm.trans hmessage
  · obtain ⟨fault, hfault⟩ := (draft_failsBy hsections environment).fails .tooLongNumber ⟨rfl, hlong⟩
    obtain ⟨rfl, -⟩ := (draft_failsBy hsections environment).caused fault hfault
    rw [load_eq, hmapping, ok_bind, hfault]
    rfl
  · cases hdraft : draft mapping environment with
    | error fault => exact absurd ((draft_failsBy hsections environment).caused fault hdraft).2 hshort
    | ok given =>
      have hload : load tree file environment = given.check := by
        rw [load_eq, hmapping, ok_bind, hdraft]
        rfl
      rw [hload]
      refine ⟨given, rfl, fun hall => ?_, fun ⟨part, hpart⟩ => Draft.check_of_not_accepted hpart⟩
      obtain ⟨settings, hsettings, -⟩ := Draft.check_of_accepted hall
      exact ⟨settings, hsettings⟩

/-- A blank variable for the folder with the sources is refused, and nothing else is named. -/
theorem load_valid_blank_source :
    HasSections none ∧ ¬ShowsLong none { source := some " " } ∧
      ∃ message, load ⟨.folder [], []⟩ none { source := some " " } = .error (.config message) ∧
        Part.source.mentions message = 1 ∧ ∀ part : Part, part ≠ .source → part.mentions message = 0 := by
  have hsections : HasSections none := fun name _ => ⟨none, rfl⟩
  have hshort : ¬ShowsLong none { source := some " " } := by
    rintro ⟨entry, -, part, hpart, item, hitem, -⟩
    cases hpart
    cases hitem
  obtain ⟨given, hgiven, -, hrefused⟩ := ((load_valid ⟨.folder [], []⟩ none { source := some " " }).2 none rfl
    hsections).2 hshort
  have husable : ∀ part : Part, part.isUsable given = (part != .source) := by
    cases hgiven
    intro part
    cases part <;> decide
  have hblank : ¬Part.source.IsAccepted given := by
    rw [← Part.isUsable_iff, husable]
    decide
  obtain ⟨message, hload, hmentions⟩ := hrefused ⟨.source, hblank⟩
  refine ⟨hsections, hshort, message, hload, (hmentions .source).2 hblank, fun part hne => ?_⟩
  have haccepted : part.IsAccepted given := by
    rw [← Part.isUsable_iff, husable]
    exact bne_iff_ne.mpr hne
  exact (hmentions part).1 haccepted

/-- A file that gives a timeout that is not a number is accepted, although that does not lie above zero. -/
theorem load_timeout_no_number :
    load ⟨.folder [("c.yaml", .file [0x74, 0x6f, 0x6f, 0x6c, 0x73, 0x3a, 0x0a, 0x20, 0x20, 0x74, 0x69, 0x6d, 0x65,
        0x6f, 0x75, 0x74, 0x3a, 0x20, 0x2e, 0x6e, 0x61, 0x6e, 0x0a])], []⟩ (some "c.yaml") {} =
      .ok { timeout := some (.fraction .nan) } ∧ ¬SecondsAboveZero (.fraction .nan) := by
  refine ⟨?_, nofun⟩
  generalize hbytes : [0x74, 0x6f, 0x6f, 0x6c, 0x73, 0x3a, 0x0a, 0x20, 0x20, 0x74, 0x69, 0x6d, 0x65, 0x6f, 0x75,
    0x74, 0x3a, 0x20, 0x2e, 0x6e, 0x61, 0x6e, (0x0a : UInt8)] = bytes
  have hpath : Path.ofString "c.yaml" = ⟨"", ["c.yaml"]⟩ := by decide
  have hfind : FileTree.find ⟨.folder [("c.yaml", .file bytes)], []⟩ (.ofString "c.yaml") = .ok (.file bytes) := by
    rw [hpath]
    simp [FileTree.find, FileTree.locate, FileTree.locateFrom, FileTree.step, FileTree.start, Path.isAbsolute,
      Node.at?, Node.entries]
  have hsupply : Yaml.Supply.ofBytes bytes = ⟨"tools:\n  timeout: .nan\n".toList, none⟩ := by
    rw [← hbytes]
    cbv
  have htokens : Yaml.tokens ⟨"tools:\n  timeout: .nan\n".toList, none⟩ =
      [.blockMapping, .key, .scalar "tools" true, .value, .blockMapping, .key, .scalar "timeout" true, .value,
        .scalar ".nan" true, .blockEnd, .blockEnd, .done] := by cbv
  rw [load_some, readMapping_of_file hfind, hsupply]
  unfold Yaml.read
  rw [htokens]
  decide +kernel

end Settings

end Checkup
