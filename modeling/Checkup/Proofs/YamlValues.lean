import Checkup.Proofs.YamlNodes
import Checkup.Yaml.Reader

/-!
# Faults of values

Building the values of a document changes its nodes only in that mappings take the entries
of others and that a key becomes a text. So a document cannot be built for a fault only if
it holds a text from which a value of the kind it is marked with cannot be built.
-/

namespace Checkup.Yaml

variable {α β : Type}

/-- A document holds a scalar that cannot be built, with the fault that this is. -/
inductive Unbuildable (document : Graph) : Fault → Prop
  /-- The text of a scalar does not fit its kind. -/
  | scalar {tag : TagName} {isPlain : Bool} {text : String} {fault : Fault}
    (hnode : .scalar tag isPlain text ∈ document)
    (hvalue : scalarValue (Node.scalar tag isPlain text).kind text = .error (.fault fault)) :
    Unbuildable document fault
  /-- The text that a mapping stands for does not fit the kind of the mapping. -/
  | standIn {tag own : TagName} {isPlain : Bool} {text : String} {entries : List (Nat × Nat)} {fault : Fault}
    (hnode : .mapping tag entries ∈ document) (htext : .scalar own isPlain text ∈ document)
    (hvalue : scalarValue (Node.mapping tag entries).kind text = .error (.fault fault)) :
    Unbuildable document fault
  /-- A mapping is marked as a time. -/
  | time {tag : TagName} {entries : List (Nat × Nat)} (hnode : .mapping tag entries ∈ document)
    (hkind : (Node.mapping tag entries).kind = .moment) :
    Unbuildable document (.wrongKind "expected string or bytes-like object, got 'list'")

/-! ## Nodes while values are built -/

/-- A node keeps its kind or becomes a text. -/
def Node.KeepsKind (original node : Node) : Prop := node.kind = original.kind ∨ node.kind = .text

/-- A node as it was, but for its entries and for becoming a text. -/
inductive Node.Alike : Node → Node → Prop
  | scalar {tag own : TagName} {isPlain wasPlain : Bool} {text : String}
    (hk : KeepsKind (.scalar own wasPlain text) (.scalar tag isPlain text)) :
    Alike (.scalar own wasPlain text) (.scalar tag isPlain text)
  | sequence {tag own : TagName} {items : List Nat}
    (hk : KeepsKind (.sequence own items) (.sequence tag items)) :
    Alike (.sequence own items) (.sequence tag items)
  | mapping {tag own : TagName} {entries held : List (Nat × Nat)}
    (hk : KeepsKind (.mapping own held) (.mapping tag entries)) :
    Alike (.mapping own held) (.mapping tag entries)

namespace Node

variable {first second third : Node}

theorem KeepsKind.trans (h : KeepsKind first second) (hn : KeepsKind second third) : KeepsKind first third := by
  rcases hn with hsame | htext
  · rcases h with h | h
    · exact .inl (hsame.trans h)
    · exact .inr (hsame.trans h)
  · exact .inr htext

theorem Alike.refl (node : Node) : Alike node node := by
  cases node with
  | scalar tag isPlain text => exact .scalar (.inl rfl)
  | sequence tag items => exact .sequence (.inl rfl)
  | mapping tag entries => exact .mapping (.inl rfl)

theorem Alike.trans (h : Alike first second) (hn : Alike second third) : Alike first third := by
  cases h with
  | scalar hk => cases hn with | scalar hkn => exact .scalar (hk.trans hkn)
  | sequence hk => cases hn with | sequence hkn => exact .sequence (hk.trans hkn)
  | mapping hk => cases hn with | mapping hkn => exact .mapping (hk.trans hkn)

/-- Entries do not decide the kind of a mapping. -/
theorem kind_mapping (tag : TagName) (entries held : List (Nat × Nat)) :
    (mapping tag entries).kind = (mapping tag held).kind := by
  cases tag with
  | none => rfl
  | named name => rfl

/-- A key that becomes a text. -/
theorem alike_retag (node : Node) : Alike node (node.retag (.named "tag:yaml.org,2002:str")) := by
  have htext : kindOfTag "tag:yaml.org,2002:str" = .text := by decide
  cases node with
  | scalar tag isPlain text => exact .scalar (.inr htext)
  | sequence tag items => exact .sequence (.inr htext)
  | mapping tag entries => exact .mapping (.inr htext)

end Node

/-- The nodes of a document are as they were, but for entries and for becoming texts. -/
def Keeps (document graph : Graph) : Prop :=
  ∀ (number : Nat) (node : Node), graph[number]? = some node →
    ∃ held : Node, document[number]? = some held ∧ held.Alike node

namespace Keeps

variable {document graph later : Graph}

theorem refl (graph : Graph) : Keeps graph graph := fun _ node h => ⟨node, h, .refl node⟩

theorem trans (h : Keeps document graph) (hl : Keeps graph later) : Keeps document later := by
  intro number node hnode
  obtain ⟨between, hbetween, hlast⟩ := hl number node hnode
  obtain ⟨held, hheld, hfirst⟩ := h number between hbetween
  exact ⟨held, hheld, hfirst.trans hlast⟩

/-- A change to one node that leaves it alike. -/
theorem modify (h : Keeps document graph) (number : Nat) {change : Node → Node}
    (hc : ∀ node : Node, node.Alike (change node)) : Keeps document (graph.modify number change) := by
  refine h.trans fun place node hnode => ?_
  rw [Array.getElem?_modify] at hnode
  split at hnode
  · obtain ⟨held, hheld, rfl⟩ := Option.map_eq_some_iff.mp hnode
    exact ⟨held, hheld, hc held⟩
  · exact ⟨node, hnode, .refl node⟩

theorem setEntries (h : Keeps document graph) (number : Nat) (entries : List (Nat × Nat)) :
    Keeps document (Building.setEntries graph number entries) := by
  refine h.modify number fun node => ?_
  cases node with
  | scalar tag isPlain text => exact .refl _
  | sequence tag items => exact .refl _
  | mapping tag held => exact .mapping (.inl (Node.kind_mapping tag entries held))

end Keeps

/-- A step that builds on a document: its nodes are kept, and only a scalar that cannot be
built is a fault. -/
structure BuildsOn (document : Graph) (graphOf : α → Graph) (result : Except Flaw α) : Prop where
  blames : Blames result (Unbuildable document)
  keeps : ∀ value, result = .ok value → Keeps document (graphOf value)

namespace BuildsOn

variable {document : Graph} {graphOf : α → Graph} {graphOfNext : β → Graph}

theorem ok {value : α} (h : Keeps document (graphOf value)) : BuildsOn document graphOf (.ok value) where
  blames := .ok _
  keeps other hf := by
    cases hf
    exact h

theorem malformed : BuildsOn document graphOf (.error .malformed) where
  blames := .malformed
  keeps value hf := by cases hf

/-- One step after another. -/
theorem bind {first : Except Flaw α} {next : α → Except Flaw β} (h : BuildsOn document graphOf first)
    (hn : ∀ value, Keeps document (graphOf value) → BuildsOn document graphOfNext (next value)) :
    BuildsOn document graphOfNext (first >>= next) := by
  cases first with
  | error flaw => exact ⟨h.blames.error, fun value hf => by cases hf⟩
  | ok value => exact hn value (h.keeps value rfl)

/-- Steps on the members of a list, one after the other. -/
theorem foldlM {γ : Type} {step : α → γ → Except Flaw α}
    (hs : ∀ state member, Keeps document (graphOf state) → BuildsOn document graphOf (step state member))
    (members : List γ) {state : α} (h : Keeps document (graphOf state)) :
    BuildsOn document graphOf (members.foldlM step state) := by
  induction members generalizing state with
  | nil => exact .ok h
  | cons member members ih =>
    rw [List.foldlM_cons]
    exact (hs state member h).bind fun next hnext => ih hnext

end BuildsOn

namespace Building

variable {document : Graph}

/-! ## Merging -/

/-- All that merges with some fuel keeps the nodes, and is never a fault. -/
structure Mergers (fuel : Nat) : Prop where
  merge : ∀ {document graph} number index inherited, Keeps document graph →
    BuildsOn document id (merge fuel graph number index inherited)
  source : ∀ {document graph} number, Keeps document graph →
    BuildsOn document Prod.fst (mergeSource fuel graph number)
  mapping : ∀ {document graph} number, Keeps document graph →
    BuildsOn document Prod.fst (mergeMapping fuel graph number)
  all : ∀ {document graph} numbers, Keeps document graph →
    BuildsOn document Prod.fst (mergeAll fuel graph numbers)

namespace Mergers

variable {fuel : Nat} {graph : Graph}

/-- Without fuel nothing is merged. -/
theorem zero : Mergers 0 where
  merge number index inherited _ := by rw [Building.merge]; exact .malformed
  source number _ := by rw [mergeSource]; exact .malformed
  mapping number _ := by rw [mergeMapping]; exact .malformed
  all numbers _ := by rw [mergeAll]; exact .malformed

theorem merge_succ (h : Mergers fuel) (number index : Nat) (inherited : List (Nat × Nat))
    (hg : Keeps document graph) : BuildsOn document id (Building.merge (fuel + 1) graph number index inherited) := by
  unfold Building.merge
  split
  · exact .malformed
  · next entries _ =>
    split
    · split
      · exact .ok hg
      · exact .ok (hg.setEntries number _)
    · next key value _ =>
      split
      · have herased := hg.setEntries number (entries.eraseIdx index)
        exact (h.source value herased).bind fun merged hmerged => h.merge number index _ hmerged
      · exact h.merge number (index + 1) inherited (hg.modify key Node.alike_retag)
      · exact h.merge number (index + 1) inherited hg

theorem mergeSource_succ (h : Mergers fuel) (number : Nat) (hg : Keeps document graph) :
    BuildsOn document Prod.fst (mergeSource (fuel + 1) graph number) := by
  unfold mergeSource
  split
  · exact h.mapping number hg
  · next items _ => exact h.all items hg
  · exact .malformed

theorem mergeMapping_succ (h : Mergers fuel) (number : Nat) (hg : Keeps document graph) :
    BuildsOn document Prod.fst (mergeMapping (fuel + 1) graph number) := by
  unfold mergeMapping
  split
  · exact .malformed
  · exact (h.merge number 0 [] hg).bind fun merged hmerged => .ok hmerged

theorem mergeAll_succ (h : Mergers fuel) (numbers : List Nat) (hg : Keeps document graph) :
    BuildsOn document Prod.fst (mergeAll (fuel + 1) graph numbers) := by
  cases numbers with
  | nil =>
    unfold mergeAll
    exact .ok hg
  | cons number rest =>
    rw [mergeAll]
    refine (h.mapping number hg).bind fun first hfirst => ?_
    exact (h.all rest hfirst).bind fun more hmore => .ok hmore

/-- With any fuel the nodes are kept. -/
theorem any (fuel : Nat) : Mergers fuel := by
  induction fuel with
  | zero => exact zero
  | succ fuel ih => exact ⟨ih.merge_succ, ih.mergeSource_succ, ih.mergeMapping_succ, ih.mergeAll_succ⟩

end Mergers

/-! ## Filling -/

/-- The text of a node is that of a scalar. -/
theorem exists_scalar_of_standInText? {fuel : Nat} {graph : Graph} {number : Nat} {text : String}
    (h : standInText? fuel graph number = some text) :
    ∃ (place : Nat) (tag : TagName) (isPlain : Bool), graph[place]? = some (.scalar tag isPlain text) := by
  induction fuel generalizing number with
  | zero =>
    unfold standInText? at h
    split at h
    · next tag isPlain found hnode =>
      cases h
      exact ⟨number, tag, isPlain, hnode⟩
    · contradiction
    · cases h
  | succ fuel ih =>
    unfold standInText? at h
    split at h
    · next tag isPlain found hnode =>
      cases h
      exact ⟨number, tag, isPlain, hnode⟩
    · next hfuel hnode =>
      split at h
      · next value _ =>
        cases hfuel
        exact ih h
      · cases h
    · cases h

/-- A scalar is its own text. -/
theorem standInText?_scalar (fuel : Nat) {graph : Graph} {number : Nat} {tag : TagName} {isPlain : Bool}
    {text : String} (h : graph[number]? = some (.scalar tag isPlain text)) :
    standInText? fuel graph number = some text := by
  cases fuel with
  | zero =>
    unfold standInText?
    rw [h]
  | succ fuel =>
    unfold standInText?
    rw [h]

/-- A sequence stands for no text. -/
theorem standInText?_sequence (fuel : Nat) {graph : Graph} {number : Nat} {tag : TagName} {items : List Nat}
    (h : graph[number]? = some (.sequence tag items)) : standInText? fuel graph number = none := by
  cases fuel with
  | zero =>
    unfold standInText?
    rw [h]
  | succ fuel =>
    unfold standInText?
    rw [h]

/-- A text is always a text. -/
theorem scalarValue_text (text : String) : scalarValue .text text = .ok (.text text) := rfl

/-- A kind that a text does not fit is not that of texts. -/
theorem ne_text_of_scalarValue {kind : Kind} {text : String} {fault : Fault}
    (h : scalarValue kind text = .error (.fault fault)) : kind ≠ .text := by
  rintro rfl
  rw [scalarValue_text] at h
  cases h

/-- Only a text that does not fit its kind is a fault of a scalar. -/
theorem scalarAt_blames {building : Building} (hb : Keeps document building.graph) {number : Nat} {node : Node}
    (hnode : building.graph[number]? = some node) :
    Blames (building.scalarAt number node.kind) (Unbuildable document) := by
  obtain ⟨held, hheld, halike⟩ := hb number node hnode
  intro fault hf
  unfold scalarAt at hf
  rw [hnode] at hf
  cases htext : standInText? (building.size + 1) building.graph number with
  | none =>
    rw [htext] at hf
    cases hf
  | some text =>
    rw [htext] at hf
    cases halike with
    | scalar hk =>
      rw [standInText?_scalar _ hnode] at htext
      cases htext
      have hkind := hk.resolve_right (ne_text_of_scalarValue hf)
      rw [hkind] at hf
      exact .scalar (Array.mem_of_getElem? hheld) hf
    | sequence hk =>
      rw [standInText?_sequence _ hnode] at htext
      cases htext
    | mapping hk =>
      obtain ⟨place, tag, isPlain, hplace⟩ := exists_scalar_of_standInText? htext
      obtain ⟨source, hsource, hscalar⟩ := hb place _ hplace
      cases hscalar with
      | scalar hks =>
        dsimp only at hf
        split at hf
        · next hmoment =>
          cases hf
          have hkind := hk.resolve_right (by rw [hmoment]; decide)
          exact .time (Array.mem_of_getElem? hheld) (hkind.symm.trans hmoment)
        · have hkind := hk.resolve_right (ne_text_of_scalarValue hf)
          rw [hkind] at hf
          exact .standIn (Array.mem_of_getElem? hheld) (Array.mem_of_getElem? hsource) hf

theorem visit_buildsOn {building : Building} (hb : Keeps document building.graph) (number : Nat) :
    BuildsOn document Building.graph (building.visit number) := by
  unfold visit
  split
  · next node _ hnode =>
    split
    · exact .ok hb
    · have hscalar := scalarAt_blames hb hnode
      cases hread : building.scalarAt number node.kind with
      | error flaw =>
        rw [hread] at hscalar
        exact ⟨hscalar.error, fun value hf => by cases hf⟩
      | ok value => exact .ok hb
  · exact .ok hb

theorem visitAll_buildsOn {building : Building} (hb : Keeps document building.graph) (numbers : List Nat) :
    BuildsOn document Building.graph (building.visitAll numbers) :=
  .foldlM (fun _ number hs => visit_buildsOn hs number) numbers hb

theorem addEntry_buildsOn {state : Building × List (Scalar × Nat)} (hb : Keeps document state.1.graph)
    (entry : Nat × Nat) : BuildsOn document (fun state => state.1.graph) (addEntry state entry) := by
  unfold addEntry
  refine (visit_buildsOn hb entry.1).bind fun building hbuilding => ?_
  split
  · exact (visit_buildsOn hbuilding entry.2).bind fun later hlater => .ok hlater
  · exact .malformed

theorem mappingEntries_buildsOn {building : Building} (hb : Keeps document building.graph) (number : Nat) :
    BuildsOn document (fun state => state.1.graph) (building.mappingEntries number) := by
  unfold mappingEntries
  refine ((Mergers.any _).merge number 0 [] hb).bind fun graph hgraph => ?_
  exact .foldlM (fun _ entry hs => addEntry_buildsOn hs entry) _ hgraph

theorem addPair_buildsOn {state : Building × List (Nat × Nat)} (hb : Keeps document state.1.graph) (number : Nat) :
    BuildsOn document (fun state => state.1.graph) (addPair state number) := by
  unfold addPair
  dsimp only
  split
  · next key value _ => exact (visitAll_buildsOn hb [key, value]).bind fun later hlater => .ok hlater
  · exact .malformed

theorem fill_buildsOn {building : Building} (hb : Keeps document building.graph) (number : Nat) :
    BuildsOn document Building.graph (building.fill number) := by
  unfold fill
  split
  · exact .ok hb
  · split
    · next items _ _ => exact (visitAll_buildsOn hb items).bind fun later hlater => .ok hlater
    · next items _ _ =>
      have hstart : Keeps document ((building, []) : Building × List (Nat × Nat)).1.graph := hb
      have hpairs := BuildsOn.foldlM (fun _ number hs => addPair_buildsOn hs number) items hstart
      exact hpairs.bind fun later hlater => .ok hlater
    · exact (mappingEntries_buildsOn hb number).bind fun later hlater => .ok hlater
    · exact (mappingEntries_buildsOn hb number).bind fun later hlater => .ok hlater
    · exact .malformed

theorem fillAll_buildsOn (fuel : Nat) {building : Building} (hb : Keeps document building.graph) :
    BuildsOn document Building.graph (building.fillAll fuel) := by
  induction fuel generalizing building with
  | zero =>
    unfold fillAll
    split
    · exact .ok hb
    · exact .ok hb
    · contradiction
  | succ fuel ih =>
    unfold fillAll
    split
    · exact .ok hb
    · contradiction
    · next hfuel _ =>
      cases hfuel
      have hstart : Keeps document ({ building with waiting := [] } : Building).graph := hb
      have hround := BuildsOn.foldlM (fun _ number hs => fill_buildsOn hs number) building.waiting.reverse hstart
      exact hround.bind fun later hlater => ih hlater

end Building

/-- A document cannot be built for a fault only if it holds a scalar that cannot be built. -/
theorem Composed.build_blames (document : Composed) : Blames document.build (Unbuildable document.graph) := by
  let building : Building :=
    { graph := document.graph, cells := Array.replicate document.graph.size none }
  have hkeeps : Keeps document.graph building.graph := .refl _
  have hstart := Building.visit_buildsOn hkeeps document.root
  refine hstart.blames.bind fun building hbuilding => ?_
  exact (Building.fillAll_buildsOn _ (hstart.keeps building hbuilding)).blames.bind fun _ _ => .ok _

/-- A text cannot be read for a fault only if the fault is met behind it, or a wrong escape
is to blame, or a scalar of the document that cannot be built. -/
theorem read_blames (supply : Supply) :
    Blames (read supply) fun fault =>
      supply.wall = some (.fault fault) ∨ HasWrongEscape supply.text fault ∨
        ∃ document, document? (tokens supply) = .ok (some document) ∧ Unbuildable document.graph fault := by
  have hdocument := (document?_blames (tokens supply)).mono fun _ hf => broken_mem_tokens hf
  refine (hdocument.mono fun _ hf => ?_).bind fun found hfound => ?_
  · exact hf.elim .inl fun hescape => .inr (.inl hescape)
  · cases found with
    | none => exact .ok _
    | some document =>
      have hbuild := (document.build_blames.map some).mono fun fault hf => hf
      exact hbuild.mono fun _ hf => .inr (.inr ⟨document, hfound, hf⟩)

end Checkup.Yaml
