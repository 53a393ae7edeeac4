import Checkup.Proofs.TextSpans
import Checkup.Source.Marker
import Checkup.Source.Pattern

/-!
# Shapes of calls and tags

What the recognisers of calls and tags look for, said as the text that has to stand at a
position: fixed words, names, and the blanks between them. Each finds something exactly
where a text of its shape stands.
-/

namespace Checkup.Text

variable {α : Type} {recognise : Recogniser α}

/-- What is found at a position: told by the character before it, the part of the text that
is taken, and the text behind that. -/
abbrev Shape (α : Type) := Option Char → α → List Char → List Char → Prop

/-- A recogniser finds the parts of a text that have a shape. -/
def Recognises (recognise : Recogniser α) (shape : Shape α) : Prop :=
  ∀ before text item, recognise before text = some item ↔
    ∃ part back, shape before item part back ∧ text = part ++ back

/-- What is told by the start of a text is a part of it. -/
theorem recognises_of_prefix {IsPart : Option Char → α → List Char → Prop}
    (h : ∀ before text item, recognise before text = some item ↔
      ∃ part, IsPart before item part ∧ part <+: text) :
    Recognises recognise fun before item part _ => IsPart before item part := by
  intro before text item
  rw [h]
  constructor
  · rintro ⟨part, hpart, back, rfl⟩
    exact ⟨part, back, hpart, rfl⟩
  · rintro ⟨part, back, hpart, rfl⟩
    exact ⟨part, hpart, List.prefix_append part back⟩

end Checkup.Text

namespace Checkup.Source

open Checkup.Text

variable {before : Option Char} {text rest : List Char}

/-! ## Calls -/

/-- A word, blanks maybe, and an opening bracket. -/
def IsCall (name : String) (part : List Char) : Prop :=
  ∃ blanks, allBlank blanks = true ∧ part = name.toList ++ (blanks ++ ['('])

/-- A call is found where one stands. -/
theorem call_eq_some_iff {name : String} :
    call name before text = some () ↔ ∃ part, IsCall name part ∧ part <+: text := by
  unfold call
  constructor
  · intro h
    obtain ⟨back, hback, h⟩ := Option.bind_eq_some_iff.mp h
    obtain ⟨last, hlast, -⟩ := Option.bind_eq_some_iff.mp h
    obtain ⟨-, blanks, hb, rfl⟩ := trimStart_eq_iff.mp (after?_eq_some.mp hlast)
    obtain rfl := after?_eq_some.mp hback
    exact ⟨_, ⟨blanks, hb, rfl⟩, last, by simp⟩
  · rintro ⟨part, ⟨blanks, hb, rfl⟩, last, rfl⟩
    have hname : after? name.toList (name.toList ++ (blanks ++ ['(']) ++ last) =
        some (blanks ++ '(' :: last) := after?_eq_some.mpr (by simp)
    have htrim : trimStart (blanks ++ '(' :: last) = '(' :: last :=
      trimStart_eq_iff.mpr ⟨stops_cons (by decide) last, blanks, hb, rfl⟩
    rw [hname]
    change ((after? ['('] (trimStart (blanks ++ '(' :: last))).bind fun _ => some ()) = some ()
    rw [htrim]
    rfl

/-- The calls of a name are found. -/
theorem recognises_call (name : String) : Recognises (call name) fun _ _ part _ => IsCall name part :=
  recognises_of_prefix fun _ _ _ => call_eq_some_iff

/-- A condition is found where the call of one stands at the start of a word. -/
theorem condition_eq_some_iff :
    condition before text = some () ↔ wordStarts before = true ∧ ∃ part, IsCall "if" part ∧ part <+: text := by
  unfold condition
  by_cases hb : wordStarts before = true
  · rw [if_pos hb, call_eq_some_iff, and_iff_right hb]
  · rw [if_neg hb]
    simp [hb]

/-- The start of a condition, at the start of a word. -/
def ConditionAt : Shape Unit := fun before _ part _ => wordStarts before = true ∧ IsCall "if" part

/-- The starts of conditions are found. -/
theorem recognises_condition : Recognises condition ConditionAt := recognises_of_prefix fun before text _ => by
  rw [condition_eq_some_iff]
  simp only [and_assoc, exists_and_left]

/-- A name that starts with a capital letter. -/
def IsCapitalName (name : List Char) : Prop :=
  ∃ c letters, c.isUpper = true ∧ (∀ d ∈ letters, isNameChar d = true) ∧ name = c :: letters

/-- All of a name that starts with a capital letter are letters and digits. -/
theorem IsCapitalName.isNameChar {name : List Char} (h : IsCapitalName name) : ∀ c ∈ name, isNameChar c = true := by
  obtain ⟨c, letters, hc, hletters, rfl⟩ := h
  have hcapital : Source.isNameChar c = true := by
    change ((c.isUpper || c.isLower) || c.isDigit) = true
    rw [hc]
    rfl
  exact List.forall_mem_cons.mpr ⟨hcapital, hletters⟩

/-- The call of a hook: the name of the hook, blanks maybe, and an opening bracket. -/
structure IsHookCall (hook part : List Char) : Prop where
  named : ∃ name, IsCapitalName name ∧ hook = "use".toList ++ name
  opened : ∃ blanks bracket, allBlank blanks = true ∧ (bracket = '<' ∨ bracket = '(') ∧
    part = hook ++ (blanks ++ [bracket])

/-- No blank is a letter or digit of a name. -/
theorem isBlank_of_isNameChar (c : Char) (h : isNameChar c = true) : isBlank c = false :=
  isBlank_of_isWord (isWord_of_isAlphanum h)

/-- What opens the arguments of a hook ends its name. -/
theorem stops_bracket {bracket : Char} (h : bracket = '<' ∨ bracket = '(') (text : List Char) :
    Stops isNameChar (bracket :: text) ∧ Stops isBlank (bracket :: text) := by
  rcases h with rfl | rfl
  · exact ⟨stops_cons (by decide) text, stops_cons (by decide) text⟩
  · exact ⟨stops_cons (by decide) text, stops_cons (by decide) text⟩

/-- The call of a hook is found where one stands at the start of a word. -/
theorem hookCall_eq_some_iff {hook : List Char} :
    hookCall before text = some hook ↔
      wordStarts before = true ∧ ∃ part, IsHookCall hook part ∧ part <+: text := by
  unfold hookCall
  by_cases hb : wordStarts before = true
  · rw [and_iff_right hb]
    simp only [hb, if_true, Option.bind_eq_bind]
    constructor
    · intro h
      obtain ⟨behind, hbehind, hfound⟩ := Option.bind_eq_some_iff.mp h
      obtain rfl := after?_eq_some.mp hbehind
      split at hfound
      · cases hfound
      · next c rest =>
        split at hfound
        · next hc =>
          split at hfound
          · next bracket last htrim =>
            split at hfound
            · next hbracket =>
              obtain ⟨-, blanks, hblank, hrest⟩ := trimStart_eq_iff.mp htrim
              have hsplit : rest.takeWhile isNameChar ++ (blanks ++ bracket :: last) = rest := by
                rw [← hrest, List.takeWhile_append_dropWhile]
              cases hfound
              refine ⟨_, ⟨⟨_, ⟨c, _, hc, List.all_eq_true.mp List.all_takeWhile, rfl⟩, rfl⟩,
                blanks, bracket, hblank, by simpa using hbracket, rfl⟩, last, ?_⟩
              calc _ = "use".toList ++ c :: (rest.takeWhile isNameChar ++ (blanks ++ bracket :: last)) := by simp
                _ = "use".toList ++ c :: rest := by rw [hsplit]
            · cases hfound
          · cases hfound
        · cases hfound
    · rintro ⟨part, ⟨⟨-, ⟨c, name, hc, hname, rfl⟩, rfl⟩, blanks, bracket, hblank, hbracket, rfl⟩, last, rfl⟩
      have hbehind : after? "use".toList ("use".toList ++ c :: name ++ (blanks ++ [bracket]) ++ last) =
          some (c :: (name ++ (blanks ++ bracket :: last))) := after?_eq_some.mpr (by simp)
      obtain ⟨hstop, hnoblank⟩ := stops_bracket hbracket last
      obtain ⟨htake, hdrop⟩ := span_append hname (stops_blanks_append isBlank_of_isNameChar hblank hstop)
      have htrim : trimStart (blanks ++ bracket :: last) = bracket :: last :=
        trimStart_eq_iff.mpr ⟨hnoblank, blanks, hblank, rfl⟩
      rw [hbehind]
      simp only [Option.bind_some, if_pos hc, htake, hdrop, htrim]
      rw [if_pos (by simpa using hbracket)]
  · simp [hb]

/-- The call of a hook, at the start of a word. -/
def HookCallAt : Shape (List Char) := fun before hook part _ => wordStarts before = true ∧ IsHookCall hook part

/-- The calls of hooks are found. -/
theorem recognises_hookCall : Recognises hookCall HookCallAt := recognises_of_prefix fun before text hook => by
  rw [hookCall_eq_some_iff]
  simp only [and_assoc, exists_and_left]

/-! ## Tags -/

/-- What stands in a tag behind its name: nothing, or a blank and no angle bracket behind it. -/
def IsAttributes (text : List Char) : Prop :=
  text = [] ∨ ∃ c rest, text = c :: rest ∧ isBlank c = true ∧ ∀ d ∈ rest, d ≠ '<' ∧ d ≠ '>'

/-- The name of a grouping element, which may be missing. -/
def IsGroupingName (name : List Char) : Prop := name = [] ∨ ∃ known ∈ groupingNames, name = known.toList

/-- An opening tag of a grouping element. -/
def IsOpenTag (tag : List Char) : Prop :=
  ∃ name attributes, IsGroupingName name ∧ IsAttributes attributes ∧ tag = '<' :: (name ++ (attributes ++ ['>']))

/-- Before what stands behind the name of a grouping element stands the name. -/
theorem exists_groupingName (text : List Char) :
    ∃ name, IsGroupingName name ∧ text = name ++ afterGroupingName text := by
  unfold afterGroupingName
  cases hf : groupingNames.findSome? fun name => after? name.toList text with
  | none => exact ⟨[], .inl rfl, rfl⟩
  | some behind =>
    obtain ⟨known, hknown, hbehind⟩ := List.exists_of_findSome?_eq_some hf
    exact ⟨known.toList, .inr ⟨known, hknown, rfl⟩, after?_eq_some.mp hbehind⟩

/-- The name of a grouping element is read up to a blank or a bracket. -/
theorem afterGroupingName_append {name : List Char} (hn : IsGroupingName name) {c : Char}
    (hc : isBlank c = true ∨ c = '>') (text : List Char) :
    afterGroupingName (name ++ c :: text) = c :: text := by
  have hne : 'd' ≠ c ∧ 'F' ≠ c ∧ 'R' ≠ c := by
    refine ⟨?_, ?_, ?_⟩ <;> rintro rfl <;> revert hc <;> decide
  unfold afterGroupingName groupingNames
  rcases hn with rfl | ⟨known, hknown, rfl⟩
  · have hdiv : after? "div".toList (c :: text) = none := after?_cons_of_ne hne.1 _ _
    have hfragment : after? "Fragment".toList (c :: text) = none := after?_cons_of_ne hne.2.1 _ _
    have hreact : after? "React.Fragment".toList (c :: text) = none := after?_cons_of_ne hne.2.2 _ _
    simp only [List.nil_append, List.findSome?_cons, List.findSome?_nil, hdiv, hfragment, hreact,
      Option.getD_none]
  · have hown : ∀ start : List Char, after? start (start ++ c :: text) = some (c :: text) :=
      fun start => after?_eq_some.mpr rfl
    simp only [groupingNames, List.mem_cons, List.not_mem_nil, or_false] at hknown
    rcases hknown with rfl | rfl | rfl
    · simp only [List.findSome?_cons, hown, Option.getD_some]
    · have hdiv : after? "div".toList ("Fragment".toList ++ c :: text) = none := rfl
      simp only [List.findSome?_cons, hdiv, hown, Option.getD_some]
    · have hdiv : after? "div".toList ("React.Fragment".toList ++ c :: text) = none := rfl
      have hfragment : after? "Fragment".toList ("React.Fragment".toList ++ c :: text) = none := rfl
      simp only [List.findSome?_cons, hdiv, hfragment, hown, Option.getD_some]

/-- An opening tag is read where one stands. -/
theorem afterOpenTag?_eq_some_iff : afterOpenTag? text = some rest ↔ ∃ tag, IsOpenTag tag ∧ text = tag ++ rest := by
  unfold afterOpenTag?
  constructor
  · intro h
    obtain ⟨inner, hinner, hfound⟩ := Option.bind_eq_some_iff.mp h
    obtain rfl := after?_eq_some.mp hinner
    obtain ⟨name, hname, hsplit⟩ := exists_groupingName inner
    split at hfound
    · next behind hbehind =>
      cases hfound
      rw [hbehind] at hsplit
      exact ⟨_, ⟨name, [], hname, .inl rfl, rfl⟩, by simp [hsplit]⟩
    · next c behind _ hbehind =>
      rw [hbehind] at hsplit
      split at hfound
      · next hc =>
        have hclose := after?_eq_some.mp hfound
        have hattributes := List.all_eq_true.mp
          (List.all_takeWhile (p := fun d => d != '<' && d != '>') (l := behind))
        refine ⟨_, ⟨name, c :: behind.takeWhile fun d => d != '<' && d != '>', hname,
          .inr ⟨c, _, rfl, hc, fun d hd => by simpa using hattributes d hd⟩, rfl⟩, ?_⟩
        have hwhole : behind.takeWhile (fun d => d != '<' && d != '>') ++ ('>' :: rest) = behind := by
          rw [← List.singleton_append, ← hclose, List.takeWhile_append_dropWhile]
        calc _ = '<' :: (name ++ c :: behind) := by rw [hsplit]; rfl
          _ = '<' :: (name ++ c :: (behind.takeWhile (fun d => d != '<' && d != '>') ++ ('>' :: rest))) := by
            rw [hwhole]
          _ = _ := by simp
      · cases hfound
    · cases hfound
  · rintro ⟨tag, ⟨name, attributes, hname, hattributes, rfl⟩, rfl⟩
    have hinner : after? ['<'] ('<' :: (name ++ (attributes ++ ['>'])) ++ rest) =
        some (name ++ (attributes ++ '>' :: rest)) := after?_eq_some.mpr (by simp)
    rw [hinner]
    rcases hattributes with rfl | ⟨c, inside, rfl, hc, hinside⟩
    · have hbehind : afterGroupingName (name ++ '>' :: rest) = '>' :: rest :=
        afterGroupingName_append hname (.inr rfl) rest
      simp only [Option.bind_eq_bind, Option.bind_some, List.nil_append, hbehind]
    · have hbehind : afterGroupingName (name ++ (c :: inside ++ '>' :: rest)) = c :: (inside ++ '>' :: rest) :=
        afterGroupingName_append hname (.inl hc) _
      have hrun : ∀ d ∈ inside, (d != '<' && d != '>') = true := by simpa using hinside
      have hdrop : (inside ++ '>' :: rest).dropWhile (fun d => d != '<' && d != '>') = '>' :: rest :=
        (span_append hrun (stops_cons (by decide) rest)).2
      have hne : c ≠ '>' := by
        rintro rfl
        revert hc
        decide
      simp only [Option.bind_eq_bind, Option.bind_some, hbehind]
      rw [if_pos hc, hdrop]
      rfl

/-- An opening tag with another one behind it, and blanks maybe between the two. -/
def IsNestedPair (part : List Char) : Prop :=
  ∃ first blanks second, IsOpenTag first ∧ allBlank blanks = true ∧ IsOpenTag second ∧
    part = first ++ (blanks ++ second)

/-- A pair of nested tags is found where one stands. -/
theorem nestedTags_eq_some_iff :
    nestedTags before text = some () ↔ ∃ part, IsNestedPair part ∧ part <+: text := by
  unfold nestedTags
  constructor
  · intro h
    obtain ⟨behind, hbehind, h⟩ := Option.bind_eq_some_iff.mp h
    obtain ⟨last, hlast, -⟩ := Option.bind_eq_some_iff.mp h
    obtain ⟨first, hfirst, rfl⟩ := afterOpenTag?_eq_some_iff.mp hbehind
    obtain ⟨second, hsecond, htrim⟩ := afterOpenTag?_eq_some_iff.mp hlast
    obtain ⟨-, blanks, hb, rfl⟩ := trimStart_eq_iff.mp htrim
    exact ⟨_, ⟨first, blanks, second, hfirst, hb, hsecond, rfl⟩, last, by simp⟩
  · rintro ⟨part, ⟨first, blanks, second, hfirst, hb, hsecond, rfl⟩, last, rfl⟩
    have hopen : afterOpenTag? (first ++ (blanks ++ second) ++ last) = some (blanks ++ (second ++ last)) :=
      afterOpenTag?_eq_some_iff.mpr ⟨first, hfirst, by simp⟩
    have hinner : afterOpenTag? (second ++ last) = some last :=
      afterOpenTag?_eq_some_iff.mpr ⟨second, hsecond, rfl⟩
    have hstop : Stops isBlank (second ++ last) := by
      obtain ⟨name, attributes, -, -, rfl⟩ := hsecond
      exact stops_cons (by decide) _
    have htrim : trimStart (blanks ++ (second ++ last)) = second ++ last :=
      trimStart_eq_iff.mpr ⟨hstop, blanks, hb, rfl⟩
    simp only [hopen, Option.bind_eq_bind, Option.bind_some, htrim, hinner]

/-- An opening tag with another one behind it, which is not taken. -/
def NestedTagsAt : Shape Unit := fun _ _ part back =>
  IsOpenTag part ∧ ∃ blanks second rest, allBlank blanks = true ∧ IsOpenTag second ∧ back = blanks ++ (second ++ rest)

/-- The tags that are nested are found. -/
theorem recognises_nestedTags : Recognises nestedTags NestedTagsAt := by
  intro before text _
  rw [nestedTags_eq_some_iff]
  constructor
  · rintro ⟨_, ⟨first, blanks, second, hfirst, hblanks, hsecond, rfl⟩, rest, rfl⟩
    exact ⟨first, blanks ++ (second ++ rest), ⟨hfirst, blanks, second, rest, hblanks, hsecond, rfl⟩, by simp⟩
  · rintro ⟨first, _, ⟨hfirst, blanks, second, rest, hblanks, hsecond, rfl⟩, rfl⟩
    exact ⟨_, ⟨first, blanks, second, hfirst, hblanks, hsecond, rfl⟩, rest, by simp⟩

/-- A tag of any name that is closed somewhere. -/
def IsAnyTag (part : List Char) : Prop :=
  ∃ c inner, isWord c = true ∧ part = '<' :: c :: (inner ++ ['>'])

/-- A tag is found where one stands. -/
theorem anyTag_eq_some_iff : anyTag before text = some () ↔ ∃ part, IsAnyTag part ∧ part <+: text := by
  unfold anyTag
  constructor
  · intro h
    obtain ⟨behind, hbehind, hfound⟩ := Option.bind_eq_some_iff.mp h
    obtain rfl := after?_eq_some.mp hbehind
    split at hfound
    · next c rest =>
      split at hfound
      · next hc =>
        obtain ⟨hword, hclosed⟩ := Bool.and_eq_true_iff.mp hc
        obtain ⟨inner, last, rfl⟩ := List.append_of_mem (List.contains_iff_mem.mp hclosed)
        exact ⟨_, ⟨c, inner, hword, rfl⟩, last, by simp⟩
      · cases hfound
    · cases hfound
  · rintro ⟨part, ⟨c, inner, hword, rfl⟩, last, rfl⟩
    have hbehind : after? ['<'] ('<' :: c :: (inner ++ ['>']) ++ last) = some (c :: (inner ++ '>' :: last)) :=
      after?_eq_some.mpr (by simp)
    have hclosed : (isWord c && (inner ++ '>' :: last).contains '>') = true := by
      rw [hword, Bool.true_and, List.contains_iff_mem]
      simp
    simp only [hbehind, Option.bind_eq_bind, Option.bind_some]
    rw [if_pos hclosed]

/-- The tags of any name are found. -/
theorem recognises_anyTag : Recognises anyTag fun _ _ part _ => IsAnyTag part :=
  recognises_of_prefix fun _ _ _ => anyTag_eq_some_iff

end Checkup.Source
