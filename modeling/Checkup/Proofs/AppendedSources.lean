import Checkup.Proofs.DeclarationShapes
import Checkup.Source.Profile

/-!
# Sources that are added to

What is written behind the last line of a source takes nothing away from what was found in
it. A shape that stands in the source still stands there, and a word that ended before a
line feed still does, so all that was recognised is recognised in the longer source. The
tracker of functions reads line by line and forgets no function.
-/

namespace Checkup.Text

/-- The text ends with a line feed. -/
def EndsLine (text : List Char) : Prop := text.getLast? = some '\n'

variable {α : Type} {recognise : Recogniser α} {text : List Char}

/-- What is left of a text ends where the text ends. -/
theorem EndsLine.of_append (front : List Char) {back : List Char} (h : EndsLine (front ++ back)) (hne : back ≠ []) :
    EndsLine back := by
  unfold EndsLine at h ⊢
  rw [List.getLast?_append, List.getLast?_eq_some_getLast hne, Option.some_or] at h
  rw [List.getLast?_eq_some_getLast hne, h]

/-- Behind a word that ends in another character than a line feed, a word end stays one. -/
theorem EndsLine.wordEnds_append {part back : List Char} {last : Char} (h : EndsLine (part ++ back))
    (hlast : part.getLast? = some last) (hne : last ≠ '\n') (he : wordEnds back = true) (more : List Char) :
    wordEnds (back ++ more) = true := by
  cases back with
  | nil =>
    unfold EndsLine at h
    rw [List.append_nil, hlast] at h
    exact absurd (Option.some.inj h) hne
  | cons c back => exact he

/-- What is recognised in a text that ends with a line feed is recognised when text is added. -/
def Persists (recognise : Recogniser α) : Prop :=
  ∀ ⦃before text found⦄, EndsLine text → recognise before text = some found →
    ∀ more, recognise before (text ++ more) = some found

/-- What has a shape is recognised when text is added, if it has the shape then. -/
theorem Recognises.persists {shape : Shape α} (hf : Recognises recognise shape)
    (hs : ∀ ⦃before found part back⦄, shape before found part back → EndsLine (part ++ back) →
      ∀ more, shape before found part (back ++ more)) : Persists recognise := by
  intro before text found h hfound more
  obtain ⟨part, back, hshape, rfl⟩ := (hf before text found).mp hfound
  exact (hf before _ found).mpr ⟨part, back ++ more, hs hshape h more, List.append_assoc part back more⟩

/-- All that is sighted in a text is sighted, in the same order, when text is added. -/
theorem Persists.sightings_sublist (hp : Persists recognise) (h : EndsLine text)
    (before : Option Char) (more : List Char) :
    (sightings recognise before text).Sublist (sightings recognise before (text ++ more)) := by
  induction text generalizing before with
  | nil => exact List.nil_sublist _
  | cons c text ih =>
    have hhere : (recognise before (c :: text)).toList.Sublist
        (recognise before (c :: (text ++ more))).toList := by
      cases hr : recognise before (c :: text) with
      | none => exact List.nil_sublist _
      | some found =>
        have hstill : recognise before (c :: (text ++ more)) = some found := hp h hr more
        simp only [hstill, List.Sublist.refl]
    have hlater : (sightings recognise (some c) text).Sublist
        (sightings recognise (some c) (text ++ more)) := by
      by_cases hnil : text = []
      · rw [hnil]
        exact List.nil_sublist _
      · have hends : EndsLine text := EndsLine.of_append [c] h hnil
        exact ih hends (some c)
    exact hhere.append hlater

/-- Where something is found, something is found when text is added. -/
theorem Persists.isSome_firstSighting (hp : Persists recognise) (h : EndsLine text)
    (hf : (firstSighting recognise none text).isSome = true) (more : List Char) :
    (firstSighting recognise none (text ++ more)).isSome = true := by
  have hsub := hp.sightings_sublist h none more
  rw [firstSighting_eq_head?, List.isSome_head?] at hf ⊢
  intro hnil
  rw [hnil] at hsub
  exact hf (List.sublist_nil.mp hsub)

end Checkup.Text

namespace Checkup.Source

open Checkup.Text

variable {text : List Char}

/-! ## What stays recognised -/

/-- The call of a hook stays one. -/
theorem persists_hookCall : Persists hookCall := recognises_hookCall.persists fun _ _ _ _ h _ _ => h

/-- A call stays one. -/
theorem persists_call (name : String) : Persists (call name) :=
  (recognises_call name).persists fun _ _ _ _ h _ _ => h

/-- A condition stays one. -/
theorem persists_condition : Persists condition := recognises_condition.persists fun _ _ _ _ h _ _ => h

/-- A pair of nested tags stays one. -/
theorem persists_nestedTags : Persists nestedTags := by
  refine recognises_nestedTags.persists ?_
  rintro before - part back ⟨hfirst, blanks, second, rest, hblanks, hsecond, rfl⟩ - more
  exact ⟨hfirst, blanks, second, rest ++ more, hblanks, hsecond, by simp only [List.append_assoc]⟩

/-- A tag stays one. -/
theorem persists_anyTag : Persists anyTag := recognises_anyTag.persists fun _ _ _ _ h _ _ => h

/-- An exported component stays one. -/
theorem persists_exportedComponent : Persists exportedComponent :=
  recognises_exportedComponent.persists fun _ _ _ _ h _ _ => h

/-- A boundary of errors stays one. -/
theorem persists_errorBoundary : Persists errorBoundary := by
  refine recognises_errorBoundary.persists ?_
  rintro before - part back ⟨hpart, hends⟩ h more
  have hlast : part.getLast? = some 't' := by
    obtain ⟨gap, name, second, third, react, pure, -, -, -, -, -, -, -, rfl⟩ := hpart
    simp [List.getLast?_cons, List.getLast?_append]
  exact ⟨hpart, h.wordEnds_append hlast (by decide) hends more⟩

/-- A declaration stays one when text is added behind a line feed. -/
theorem IsDeclaration.append {name part back : List Char} (hd : IsDeclaration name part back)
    (h : EndsLine (part ++ back)) (more : List Char) : IsDeclaration name part (back ++ more) := by
  cases hd with
  | @function gap _ hg hn he =>
    have hlast : ("function".toList ++ (gap ++ name)).getLast? = some (name.getLast hn.1) := by
      rw [← List.append_assoc, List.getLast?_append, List.getLast?_eq_some_getLast hn.1, Option.some_or]
    have hne : name.getLast hn.1 ≠ '\n' := by
      intro hfeed
      have hword := hn.2 _ (List.getLast_mem hn.1)
      rw [hfeed] at hword
      revert hword
      decide
    exact .function hg hn (h.wordEnds_append hlast hne he more)
  | parameters ha ho => exact .parameters ha ho
  | @memo part memo _ ha hm he =>
    have hlast : (part ++ memo).getLast? = some 'o' := by
      obtain ⟨react, -, rfl⟩ := hm
      simp
    exact .memo ha hm (h.wordEnds_append hlast (by decide) he more)

/-- The declaration of a function stays one, with the same name. -/
theorem persists_declaration : Persists declaration :=
  recognises_declaration.persists fun _ _ _ _ hd h more => hd.append h more

/-- What is counted in a text is counted at least as often when text is added. -/
theorem countOf_le {recognise : Recogniser Unit} (hp : Persists recognise) (h : EndsLine text)
    (more : List Char) : countOf recognise text ≤ countOf recognise (text ++ more) :=
  (hp.sightings_sublist h none more).length_le

/-- A text keeps its patterns when text is added. -/
theorem Pattern.isIn_append {pattern : Pattern} (h : EndsLine text) (hp : pattern.isIn text = true)
    (more : List Char) : pattern.isIn (text ++ more) = true := by
  cases pattern with
  | inlineErrorBoundary =>
    obtain ⟨hboundary, hdeclared⟩ := Bool.and_eq_true_iff.mp hp
    exact Bool.and_eq_true_iff.mpr ⟨persists_errorBoundary.isSome_firstSighting h hboundary more,
      persists_declaration.isSome_firstSighting h hdeclared more⟩
  | multipleComponents =>
    have hmany : 2 < countOf exportedComponent text := of_decide_eq_true hp
    have hle := countOf_le persists_exportedComponent h more
    exact decide_eq_true (by omega)
  | deepNesting =>
    have hmany : nestedPairsLimit < countOf nestedTags text := of_decide_eq_true hp
    have hle := countOf_le persists_nestedTags h more
    exact decide_eq_true (by omega)
  | mixedConcerns =>
    have hmaps := countOf_le (persists_call ".map") h more
    have hfilters := countOf_le (persists_call ".filter") h more
    have hconditions := countOf_le persists_condition h more
    simp only [Pattern.isIn, mixesConcerns, Bool.and_eq_true, Bool.or_eq_true, decide_eq_true_eq] at hp ⊢
    refine ⟨persists_anyTag.isSome_firstSighting h hp.1 more, ?_⟩
    omega

/-! ## What the tracker keeps -/

/-- No line makes the tracker forget a function. -/
theorem Tracker.long_prefix_feed (limit : Int) (tracker : Tracker) (index : Int) (line : List Char) :
    tracker.long <+: (tracker.feed limit index line).long := by
  have hadvance : ∀ other : Tracker, other.long <+: (other.advance limit index line).long := by
    intro other
    unfold Tracker.advance
    dsimp only
    split
    · dsimp only
      split
      · exact List.prefix_append other.long _
      · exact List.prefix_refl other.long
    · exact List.prefix_refl other.long
  unfold Tracker.feed
  split
  · exact hadvance tracker
  · cases declared? line with
    | none => exact List.prefix_refl tracker.long
    | some name => exact hadvance (tracker.openAt index name)

/-- No lines make the tracker forget a function. -/
theorem Tracker.long_prefix_run (limit : Int) (tracker : Tracker) (index : Int) (lines : List (List Char)) :
    tracker.long <+: (tracker.run limit index lines).long := by
  induction lines generalizing tracker index with
  | nil => exact List.prefix_refl tracker.long
  | cons line lines ih =>
    exact (tracker.long_prefix_feed limit index line).trans (ih (tracker.feed limit index line) (index + 1))

/-- Lines are read one after the other. -/
theorem Tracker.run_append (limit : Int) (tracker : Tracker) (index : Int) (lines more : List (List Char)) :
    tracker.run limit index (lines ++ more) =
      (tracker.run limit index lines).run limit (index + lines.length) more := by
  induction lines generalizing tracker index with
  | nil => simp [Tracker.run]
  | cons line lines ih =>
    have hindex : index + 1 + (lines.length : Int) = index + ((line :: lines).length : Int) := by
      rw [List.length_cons]
      omega
    rw [List.cons_append, Tracker.run, ih, hindex, Tracker.run]

/-- The long functions of a source are the first ones when lines are added. -/
theorem longFunctions_append (limit : Int) (lines more : List (List Char)) :
    longFunctions limit lines <+: longFunctions limit (lines ++ more) := by
  unfold longFunctions
  rw [Tracker.run_append]
  exact Tracker.long_prefix_run limit _ _ more

/-! ## Profiles -/

/-- Cutting into lines composes over a text without an open line. -/
theorem sourceLines_append_of_closed (h : text = [] ∨ EndsLine text) (more : List Char) :
    sourceLines (text ++ more) = sourceLines text ++ sourceLines more := by
  rcases h with rfl | h
  · rfl
  · obtain ⟨front, rfl⟩ := List.getLast?_eq_some_iff.mp h
    rw [List.append_assoc, List.singleton_append, sourceLines_append]

/-- All that a profile shows is shown by another: as many hook calls of each kind, the same
patterns and more maybe, and the same long functions before all others. -/
structure Profile.IsKeptIn (profile larger : Profile) : Prop where
  markers : ∀ kind, profile.count kind ≤ larger.count kind
  patterns : ∀ pattern ∈ profile.patterns, pattern ∈ larger.patterns
  longFunctions : profile.longFunctions <+: larger.longFunctions

/-- Text that is added behind the last line of a source adds its lines, and hides nothing. -/
theorem Profile.ofText_append (path : String) (h : text = [] ∨ EndsLine text) (more : List Char) :
    sourceLines (text ++ more) = sourceLines text ++ sourceLines more ∧
      (ofText path (text ++ more)).lineCount = (ofText path text).lineCount + (ofText path more).lineCount ∧
        (ofText path text).IsKeptIn (ofText path (text ++ more)) := by
  have hlines := sourceLines_append_of_closed h more
  refine ⟨hlines, ?_, ?_, ?_, ?_⟩
  · change (sourceLines (text ++ more)).length = (sourceLines text).length + (sourceLines more).length
    rw [hlines, List.length_append]
  · intro kind
    rcases h with rfl | h
    · exact Nat.zero_le _
    · exact ((persists_hookCall.sightings_sublist h none more).map MarkerKind.ofHook).count_le kind
  · intro pattern hm
    obtain ⟨hall, hin⟩ := List.mem_filter.mp hm
    refine List.mem_filter.mpr ⟨hall, ?_⟩
    rcases h with rfl | h
    · have hnone : pattern.isIn [] = false := by cases pattern <;> rfl
      rw [hnone] at hin
      cases hin
    · exact pattern.isIn_append h hin more
  · change Source.longFunctions functionLimit (sourceLines text) <+: _
    change _ <+: Source.longFunctions functionLimit (sourceLines (text ++ more))
    rw [hlines]
    exact longFunctions_append functionLimit _ _

/-- A call whose bracket comes with the added text counts from then on, next to the one before it. -/
theorem Profile.ofText_append_bracket :
    let text := "useRef(0)\nuseState\n".toList
    let more := "(0)\n".toList
    EndsLine text ∧ (ofText "a.ts" text).IsKeptIn (ofText "a.ts" (text ++ more)) ∧
      (ofText "a.ts" text).markers = [.ref] ∧ (ofText "a.ts" (text ++ more)).markers = [.ref, .state] := by
  intro text more
  have hends : EndsLine text := rfl
  exact ⟨hends, (ofText_append "a.ts" (.inr hends) more).2.2, by decide, by decide⟩

end Checkup.Source
