import Checkup.Proofs.DeclarationShapes

/-!
# Findings that lie apart

A search from left to right takes what it finds out of the text, and goes on behind it.
The recognisers of calls, tags and components find nothing inside of what they have found,
so that such a search finds what they find position by position.
-/

namespace Checkup.Text

variable {α : Type} {recognise : Recogniser α} {before : Option Char} {text : List Char}

/-- A search from left to right. Where nothing of the shape stands one character is passed
over. What is found is taken as a whole, and the search goes on behind it. -/
inductive Scan (shape : Shape α) : Option Char → List Char → List α → Prop
  | done {before : Option Char} : Scan shape before [] []
  | miss {before : Option Char} {c : Char} {rest : List Char} {found : List α}
    (hnone : ∀ item part back, c :: rest = part ++ back → ¬ shape before item part back)
    (hrest : Scan shape (some c) rest found) : Scan shape before (c :: rest) found
  | hit {before : Option Char} {item : α} {part back : List Char} {found : List α}
    (hshape : shape before item part back) (hback : Scan shape part.getLast? back found) :
    Scan shape before (part ++ back) (item :: found)

/-- At no position of a part of a text is anything found, with another text behind the part. -/
def IsBare (recognise : Recogniser α) : Option Char → List Char → List Char → Prop
  | _, [], _ => True
  | before, c :: part, back =>
    recognise before (c :: (part ++ back)) = none ∧ IsBare recognise (some c) part back

/-- Two parts without findings make up one. -/
theorem IsBare.append {first second back : List Char} (hfirst : IsBare recognise before first (second ++ back))
    (hsecond : ∀ before, IsBare recognise before second back) : IsBare recognise before (first ++ second) back := by
  induction first generalizing before with
  | nil => exact hsecond before
  | cons c first ih =>
    obtain ⟨hnone, hrest⟩ := hfirst
    rw [← List.append_assoc] at hnone
    exact ⟨hnone, ih hrest⟩

/-- Nothing is found where no character stands that a finding starts with. -/
theorem isBare_of_not_mem {start : Char}
    (hs : ∀ before text item, recognise before text = some item → text.head? = some start) {part : List Char}
    (h : start ∉ part) (before : Option Char) (back : List Char) : IsBare recognise before part back := by
  induction part generalizing before with
  | nil => trivial
  | cons c part ih =>
    rw [List.mem_cons, not_or] at h
    obtain ⟨hne, hlater⟩ := h
    refine ⟨Option.eq_none_iff_forall_ne_some.mpr fun item hfound => hne ?_, ih hlater (some c)⟩
    exact (Option.some.inj (hs before _ item hfound)).symm

/-- Nothing is found inside of a word, if findings stand at the starts of words. -/
theorem isBare_of_isWord (hs : ∀ before text item, recognise before text = some item → wordStarts before = true)
    {c : Char} (hc : isWord c = true) {word : List Char} (hw : ∀ d ∈ word, isWord d = true) (back : List Char) :
    IsBare recognise (some c) word back := by
  induction word generalizing c with
  | nil => trivial
  | cons d word ih =>
    obtain ⟨hd, hlater⟩ := List.forall_mem_cons.mp hw
    refine ⟨Option.eq_none_iff_forall_ne_some.mpr fun item hfound => ?_, ih hd hlater⟩
    have hstarts := hs (some c) _ item hfound
    simp [wordStarts, hc] at hstarts

/-- Behind a part without findings the sightings go on. -/
theorem IsBare.sightings_append {part back : List Char} (h : IsBare recognise before part back) :
    sightings recognise before (part ++ back) = sightings recognise (part.getLast?.or before) back := by
  induction part generalizing before with
  | nil => rfl
  | cons c part ih =>
    obtain ⟨hnone, hrest⟩ := h
    rw [List.cons_append, sightings, hnone, ih hrest, List.getLast?_cons, Option.or_some]
    rfl

/-- A recogniser finds the parts of a text that have a shape, and nothing inside of them. -/
structure FindsApart (recognise : Recogniser α) (shape : Shape α) : Prop where
  finds : Recognises recognise shape
  starts : ∀ before item back, ¬ shape before item [] back
  apart : ∀ before item c part back, shape before item (c :: part) back → IsBare recognise (some c) part back

namespace FindsApart

variable {shape : Shape α} {found : List α}

/-- What stands at the head of a text is sighted, and then what is sighted behind it. -/
theorem sightings_append (h : FindsApart recognise shape) {item : α} {part back : List Char}
    (hs : shape before item part back) :
    sightings recognise before (part ++ back) = item :: sightings recognise part.getLast? back := by
  cases part with
  | nil => exact absurd hs (h.starts before item back)
  | cons c part =>
    have hfound : recognise before (c :: (part ++ back)) = some item :=
      (h.finds before _ item).mpr ⟨c :: part, back, hs, rfl⟩
    rw [List.cons_append, sightings, hfound, (h.apart before item c part back hs).sightings_append,
      List.getLast?_cons, Option.or_some]
    rfl

/-- There is a search, and it finds what is sighted. -/
theorem scan_sightings (h : FindsApart recognise shape) (before : Option Char) (text : List Char) :
    Scan shape before text (sightings recognise before text) := by
  induction hn : text.length using Nat.strongRecOn generalizing before text with
  | ind n ih =>
    cases text with
    | nil => exact .done
    | cons c rest =>
      cases hr : recognise before (c :: rest) with
      | none =>
        have hlater := ih rest.length (by rw [← hn]; exact Nat.lt_succ_self _) (some c) rest rfl
        rw [sightings, hr]
        refine .miss (fun item part back he hs => ?_) hlater
        have hfound := (h.finds before _ item).mpr ⟨part, back, hs, he⟩
        rw [hr] at hfound
        cases hfound
      | some item =>
        obtain ⟨part, back, hs, he⟩ := (h.finds before _ item).mp hr
        have hne : part ≠ [] := fun hnil => h.starts before item back (hnil ▸ hs)
        have hshorter : back.length < n := by
          have hlength := congrArg List.length he
          have hpos := List.length_pos_iff.mpr hne
          rw [List.length_append] at hlength
          omega
        rw [he, h.sightings_append hs]
        exact .hit hs (ih back.length hshorter part.getLast? back rfl)

/-- A search finds what is sighted, in the same order. -/
theorem scan_iff (h : FindsApart recognise shape) :
    Scan shape before text found ↔ found = sightings recognise before text := by
  constructor
  · intro hscan
    induction hscan with
    | done => rfl
    | @miss before c rest found hnone _ ih =>
      have hr : recognise before (c :: rest) = none := by
        refine Option.eq_none_iff_forall_ne_some.mpr fun item hfound => ?_
        obtain ⟨part, back, hs, he⟩ := (h.finds before _ item).mp hfound
        exact hnone item part back he hs
      rw [sightings, hr, ih]
      rfl
    | hit hs _ ih => rw [h.sightings_append hs, ih]
  · rintro rfl
    exact h.scan_sightings before text

end FindsApart

/-- What starts with a character is found where the character stands. -/
theorem Recognises.head? {shape : Shape α} (hf : Recognises recognise shape) {start : Char}
    (hs : ∀ before item part back, shape before item part back → part.head? = some start) (before : Option Char)
    (text : List Char) (item : α) (h : recognise before text = some item) : text.head? = some start := by
  obtain ⟨part, back, hshape, rfl⟩ := (hf before text item).mp h
  rw [List.head?_append, hs before item part back hshape, Option.some_or]

/-- Nothing is found inside of a shape that holds the character that it starts with once. -/
theorem Recognises.findsApart {shape : Shape α} (hf : Recognises recognise shape) (start : Char)
    (hs : ∀ before item part back, shape before item part back → ∃ later, part = start :: later ∧ start ∉ later) :
    FindsApart recognise shape where
  finds := hf
  starts before item back hshape := by
    obtain ⟨later, he, -⟩ := hs before item [] back hshape
    cases he
  apart before item c part back hshape := by
    obtain ⟨later, he, hnot⟩ := hs before item (c :: part) back hshape
    obtain ⟨rfl, rfl⟩ := List.cons_eq_cons.mp he
    refine isBare_of_not_mem (hf.head? fun before item part back hshape => ?_) hnot (some c) back
    obtain ⟨later, rfl, -⟩ := hs before item part back hshape
    rfl

end Checkup.Text

namespace Checkup.Source

open Checkup.Text

variable {text : List Char}

/-! ## Calls -/

/-- No hook is called inside of the call of one. -/
theorem findsApart_hookCall : FindsApart hookCall HookCallAt := by
  have hopens : ∀ before hook part back, HookCallAt before hook part back → ∃ name blanks bracket,
      IsCapitalName name ∧ allBlank blanks = true ∧ (bracket = '<' ∨ bracket = '(') ∧
        part = 'u' :: ((['s', 'e'] ++ name) ++ (blanks ++ [bracket])) := by
    rintro before hook part back ⟨-, hpart⟩
    obtain ⟨name, hname, rfl⟩ := hpart.named
    obtain ⟨blanks, bracket, hblanks, hbracket, rfl⟩ := hpart.opened
    exact ⟨name, blanks, bracket, hname, hblanks, hbracket, rfl⟩
  refine ⟨recognises_hookCall, fun before hook back hs => ?_, fun before hook c part back hs => ?_⟩
  · obtain ⟨name, blanks, bracket, -, -, -, he⟩ := hopens before hook [] back hs
    cases he
  · obtain ⟨name, blanks, bracket, hname, hblanks, hbracket, he⟩ := hopens before hook (c :: part) back hs
    obtain ⟨rfl, rfl⟩ := List.cons_eq_cons.mp he
    have hstarts : ∀ before text hook, hookCall before text = some hook → wordStarts before = true :=
      fun _ _ _ h => (hookCall_eq_some_iff.mp h).1
    have hhead : ∀ before hook part back, HookCallAt before hook part back → part.head? = some 'u' := by
      intro before hook part back hs
      obtain ⟨name, blanks, bracket, -, -, -, rfl⟩ := hopens before hook part back hs
      rfl
    have hword : ∀ d ∈ ['s', 'e'] ++ name, isWord d = true :=
      List.forall_mem_append.mpr ⟨List.all_eq_true.mp rfl, hname.isWordText.2⟩
    refine (isBare_of_isWord hstarts (by decide) hword _).append fun before => ?_
    refine isBare_of_not_mem (recognises_hookCall.head? hhead) (fun hm => ?_) before back
    rcases List.mem_append.mp hm with hm | hm
    · exact not_mem_of_allBlank hblanks (by decide) hm
    · obtain rfl := List.mem_singleton.mp hm
      rcases hbracket with h | h <;> cases h

/-- A call of a name that holds its first character once holds it once. -/
theorem IsCall.exists_later {name : String} {part : List Char} (h : IsCall name part) {start : Char}
    {letters : List Char} (hn : name.toList = start :: letters) (hl : start ∉ letters) (hb : isBlank start = false)
    (ho : start ≠ '(') : ∃ later, part = start :: later ∧ start ∉ later := by
  obtain ⟨blanks, hblanks, rfl⟩ := h
  refine ⟨letters ++ (blanks ++ ['(']), by rw [hn, List.cons_append], fun hm => ?_⟩
  rcases List.mem_append.mp hm with hm | hm
  · exact hl hm
  · rcases List.mem_append.mp hm with hm | hm
    · exact not_mem_of_allBlank hblanks hb hm
    · exact ho (List.mem_singleton.mp hm)

/-- Calls of a name that holds its first character once lie apart. -/
theorem findsApart_call {name : String} {start : Char} {letters : List Char}
    (hn : name.toList = start :: letters) (hl : start ∉ letters) (hb : isBlank start = false) (ho : start ≠ '(') :
    FindsApart (call name) fun _ _ part _ => IsCall name part :=
  (recognises_call name).findsApart start fun _ _ _ _ hcall => hcall.exists_later hn hl hb ho

/-- No condition stands inside of the start of one. -/
theorem findsApart_condition : FindsApart condition ConditionAt := by
  refine recognises_condition.findsApart 'i' ?_
  rintro before - part back ⟨-, hcall⟩
  exact hcall.exists_later rfl (by decide) (by decide) (by decide)

/-- The calls of methods that are counted lie apart. -/
theorem findsApart_method {name : String} (h : name = ".map" ∨ name = ".filter") :
    FindsApart (call name) fun _ _ part _ => IsCall name part := by
  rcases h with rfl | rfl
  · exact findsApart_call rfl (by decide) (by decide) (by decide)
  · exact findsApart_call rfl (by decide) (by decide) (by decide)

/-! ## Tags -/

/-- No tag opens inside of an opening tag. -/
theorem IsOpenTag.exists_later {tag : List Char} (h : IsOpenTag tag) : ∃ later, tag = '<' :: later ∧ '<' ∉ later := by
  obtain ⟨name, attributes, hname, hattributes, rfl⟩ := h
  refine ⟨_, rfl, fun hm => ?_⟩
  rcases List.mem_append.mp hm with hm | hm
  · rcases hname with rfl | ⟨known, hknown, rfl⟩
    · cases hm
    · have hnone : ∀ known ∈ groupingNames, '<' ∉ known.toList := by decide
      exact hnone known hknown hm
  · rcases List.mem_append.mp hm with hm | hm
    · rcases hattributes with rfl | ⟨c, inside, rfl, hc, hinside⟩
      · cases hm
      · rcases List.mem_cons.mp hm with rfl | hm
        · revert hc
          decide
        · exact (hinside '<' hm).1 rfl
    · cases List.mem_singleton.mp hm

/-- Where one tag is found before another the first is taken, and no other is found in it. -/
theorem findsApart_nestedTags : FindsApart nestedTags NestedTagsAt := by
  refine recognises_nestedTags.findsApart '<' ?_
  rintro before - part back ⟨htag, -⟩
  exact htag.exists_later

/-! ## Components -/

/-- No component is exported where a name stands before what stands behind a name. -/
theorem isBare_name {name blanks : List Char} {mark : Char} (hn : ∀ c ∈ name, isWord c = true)
    (hb : allBlank blanks = true) (hm : IsMark mark) (before : Option Char) (back : List Char) :
    IsBare exportedComponent before name (blanks ++ mark :: back) := by
  have hmark : isWord mark = false ∧ isBlank mark = false := by
    rcases hm with rfl | rfl | rfl | rfl <;> decide
  induction name generalizing before with
  | nil => trivial
  | cons c name ih =>
    refine ⟨Option.eq_none_iff_forall_ne_some.mpr fun _ hfound => ?_, ih (List.forall_mem_cons.mp hn).2 (some c)⟩
    obtain ⟨_, hpart, last, he⟩ := exportedComponent_eq_some_iff.mp hfound
    obtain ⟨gap, optional, word, further, other, spaces, sign, hgap, hoptional, hword, -, -, -, -, rfl⟩ := hpart
    -- The name would be `export`, and its end where the gap is.
    have hends : Stops isWord (blanks ++ mark :: back) :=
      stops_blanks_append (fun _ => isBlank_of_isWord) hb (stops_cons hmark.1 back)
    have hleft := (span_append hn hends).2
    obtain ⟨d, more, hd, hdeclared⟩ :=
      exists_declared hoptional hword (further ++ (other ++ (spaces ++ [sign])) ++ last)
    have hexport : "export".toList ++ (gap ++ d :: more) = c :: name ++ (blanks ++ mark :: back) := by
      rw [← hdeclared, List.cons_append, ← he]
      simp
    have hletters : ∀ e ∈ "export".toList, isWord e = true := List.all_eq_true.mp rfl
    have hright := (span_append hletters (hgap.stops (d :: more))).2
    rw [hexport, hleft] at hright
    have htrim : trimStart (blanks ++ mark :: back) = mark :: back :=
      trimStart_eq_iff.mpr ⟨stops_cons hmark.2 back, blanks, hb, rfl⟩
    have hother : trimStart (gap ++ d :: more) = d :: more :=
      trimStart_eq_iff.mpr ⟨stops_cons (isBlank_of_isWord hd) more, gap, hgap.2, rfl⟩
    rw [hright, hother] at htrim
    obtain ⟨rfl, -⟩ := List.cons_eq_cons.mp htrim
    rw [hmark.1] at hd
    cases hd

/-- No component is exported inside of the export of one. -/
theorem findsApart_exportedComponent :
    FindsApart exportedComponent fun _ _ part _ => IsExportedComponent part := by
  have hhead : ∀ before text item, exportedComponent before text = some item → text.head? = some 'e' := by
    refine recognises_exportedComponent.head? fun before item part back hpart => ?_
    obtain ⟨gap, optional, word, further, name, blanks, mark, -, -, -, -, -, -, -, rfl⟩ := hpart
    rfl
  have hbare : ∀ {part : List Char}, 'e' ∉ part → ∀ before back, IsBare exportedComponent before part back :=
    isBare_of_not_mem hhead
  have hblank : ∀ {blanks : List Char}, allBlank blanks = true → 'e' ∉ blanks :=
    fun hb => not_mem_of_allBlank hb (by decide)
  refine ⟨recognises_exportedComponent, fun before _ back hpart => ?_, fun before _ c part back hpart => ?_⟩
  · obtain ⟨gap, optional, word, further, name, blanks, mark, -, -, -, -, -, -, -, he⟩ := hpart
    cases he
  · obtain ⟨gap, optional, word, further, name, blanks, mark, hgap, hoptional, hword, hfurther, hname, hblanks,
      hmark, he⟩ := hpart
    obtain ⟨rfl, rfl⟩ := List.cons_eq_cons.mp he
    -- An `e` stands in the word `default` and maybe in the name, and starts no export there.
    have hdefault : ∀ before back, IsBare exportedComponent before optional back := by
      intro before back
      rcases hoptional with rfl | ⟨space, hspace, rfl⟩
      · trivial
      · have hrest : ∀ before, IsBare exportedComponent before ("fault".toList ++ space) back := by
          intro before
          refine hbare (fun hm => ?_) before back
          rcases List.mem_append.mp hm with hm | hm
          · revert hm
            decide
          · exact hblank hspace.2 hm
        exact ⟨rfl, rfl, hrest (some 'e')⟩
    have hdeclarator : 'e' ∉ word := by
      rcases hword with rfl | rfl <;> decide
    have hsign : 'e' ∉ [mark] := by
      rcases hmark with rfl | rfl | rfl | rfl <;> decide
    refine (hbare (by decide) _ _ : IsBare exportedComponent _ "xport".toList _).append fun _ => ?_
    refine (hbare (hblank hgap.2) _ _).append fun _ => ?_
    refine (hdefault _ _).append fun _ => ?_
    refine (hbare hdeclarator _ _).append fun _ => ?_
    refine (hbare (hblank hfurther.2) _ _).append fun _ => ?_
    refine IsBare.append ?_ fun _ => (hbare (hblank hblanks) _ _).append fun _ => hbare hsign _ _
    rw [List.append_assoc]
    exact isBare_name hname.isWordText.2 hblanks hmark _ back

/-! ## Counts -/

/-- A search from left to right finds as much as is counted. -/
theorem countOf_eq_of_scan {recognise : Recogniser Unit} {shape : Shape Unit} (h : FindsApart recognise shape)
    {found : List Unit} (hscan : Scan shape none text found) : countOf recognise text = found.length := by
  rw [h.scan_iff.mp hscan]
  rfl

/-- The hook calls that a search from left to right finds are those of the text. -/
theorem markers_eq_of_scan {hooks : List (List Char)} (hscan : Scan HookCallAt none text hooks) :
    markers text = hooks.map MarkerKind.ofHook := by
  rw [findsApart_hookCall.scan_iff.mp hscan]
  rfl

end Checkup.Source
