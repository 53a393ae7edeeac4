import Checkup.Proofs.SourceShapes
import Checkup.Proofs.TextPassages

/-!
# Shapes of declarations

What the recognisers of exported components, of boundaries of errors and of functions look
for, said as the text that has to stand at a position. Where the shape ends with a word,
the word has to end there as well.
-/

namespace Checkup.Source

open Checkup.Text

variable {before : Option Char} {text rest : List Char}

/-! ## Components -/

/-- The word `default` with a gap behind it, or nothing. -/
def IsDefault (optional : List Char) : Prop :=
  optional = [] ∨ ∃ gap, IsGap gap ∧ optional = "default".toList ++ gap

/-- What a component is declared with. -/
def IsDeclarator (word : List Char) : Prop := word = "const".toList ∨ word = "function".toList

/-- What stands behind the name of a component. -/
def IsMark (mark : Char) : Prop := mark = '=' ∨ mark = ':' ∨ mark = '(' ∨ mark = '<'

/-- An exported constant or function whose name has a capital letter, up to what stands behind the name. -/
def IsExportedComponent (part : List Char) : Prop :=
  ∃ gap optional declarator further name blanks mark,
    IsGap gap ∧ IsDefault optional ∧ IsDeclarator declarator ∧ IsGap further ∧ IsCapitalName name ∧
      allBlank blanks = true ∧ IsMark mark ∧
        part = "export".toList ++ (gap ++ (optional ++ (declarator ++ (further ++ (name ++ (blanks ++ [mark]))))))

/-- A component is declared with one of two words. -/
theorem afterDeclarator?_eq_some_iff :
    afterDeclarator? text = some rest ↔ ∃ word, IsDeclarator word ∧ text = word ++ rest := by
  unfold afterDeclarator?
  constructor
  · intro h
    cases hc : after? "const".toList text with
    | some behind =>
      rw [hc] at h
      cases h
      exact ⟨_, .inl rfl, after?_eq_some.mp hc⟩
    | none =>
      rw [hc] at h
      exact ⟨_, .inr rfl, after?_eq_some.mp h⟩
  · rintro ⟨word, rfl | rfl, rfl⟩
    · rw [after?_eq_some.mpr rfl]
    · have hconst : after? "const".toList ("function".toList ++ rest) = none := rfl
      rw [hconst]
      exact after?_eq_some.mpr rfl

/-- Before what stands behind an optional `default` stands nothing else. -/
theorem exists_default (text : List Char) : ∃ optional, IsDefault optional ∧ text = optional ++ afterDefault text := by
  unfold afterDefault
  cases hd : (after? "default".toList text).bind takeBlanks? with
  | none => exact ⟨[], .inl rfl, rfl⟩
  | some behind =>
    obtain ⟨inner, hinner, hbehind⟩ := Option.bind_eq_some_iff.mp hd
    obtain ⟨-, gap, hne, hgap, rfl⟩ := takeBlanks?_eq_some_iff.mp hbehind
    obtain rfl := after?_eq_some.mp hinner
    exact ⟨_, .inr ⟨gap, ⟨hne, hgap⟩, rfl⟩, by simp⟩

/-- An optional `default` is read up to the word that declares a component. -/
theorem afterDefault_append {optional word : List Char} (ho : IsDefault optional) (hw : IsDeclarator word)
    (text : List Char) : afterDefault (optional ++ (word ++ text)) = word ++ text := by
  have hstop : Stops isBlank (word ++ text) := by
    rcases hw with rfl | rfl <;> exact stops_cons (by decide) _
  unfold afterDefault
  rcases ho with rfl | ⟨gap, hg, rfl⟩
  · have hnone : after? "default".toList (word ++ text) = none := by
      rcases hw with rfl | rfl <;> exact after?_cons_of_ne (by decide) _ _
    rw [List.nil_append, hnone]
    rfl
  · have hbehind : after? "default".toList ("default".toList ++ gap ++ (word ++ text)) =
        some (gap ++ (word ++ text)) := after?_eq_some.mpr (by simp)
    rw [hbehind, Option.bind_some, takeBlanks?_gap hg hstop]
    rfl

/-- What declares a component starts with a word character. -/
theorem exists_declared {optional word : List Char} (ho : IsDefault optional) (hw : IsDeclarator word)
    (text : List Char) : ∃ c more, isWord c = true ∧ optional ++ (word ++ text) = c :: more := by
  rcases ho with rfl | ⟨gap, -, rfl⟩
  · rcases hw with rfl | rfl <;> exact ⟨_, _, by decide, rfl⟩
  · exact ⟨_, _, by decide, rfl⟩

/-- A name with a capital letter is made of word characters. -/
theorem IsCapitalName.isWordText {name : List Char} (h : IsCapitalName name) : IsWordText name := by
  refine ⟨?_, fun d hd => isWord_of_isAlphanum (h.isNameChar d hd)⟩
  obtain ⟨c, letters, -, -, rfl⟩ := h
  exact List.cons_ne_nil c letters

/-- An exported component is found where one stands. -/
theorem exportedComponent_eq_some_iff :
    exportedComponent before text = some () ↔ ∃ part, IsExportedComponent part ∧ part <+: text := by
  unfold exportedComponent
  constructor
  · intro h
    obtain ⟨inner, hinner, h⟩ := Option.bind_eq_some_iff.mp h
    obtain ⟨declaring, hdeclaring, h⟩ := Option.bind_eq_some_iff.mp h
    obtain ⟨declared, hdeclared, h⟩ := Option.bind_eq_some_iff.mp h
    obtain ⟨named, hnamed, hfound⟩ := Option.bind_eq_some_iff.mp h
    obtain ⟨-, gap, hgap, hblank, rfl⟩ := takeBlanks?_eq_some_iff.mp hdeclaring
    obtain rfl := after?_eq_some.mp hinner
    obtain ⟨optional, hoptional, hsplit⟩ := exists_default declaring
    obtain ⟨word, hword, hrest⟩ := afterDeclarator?_eq_some_iff.mp hdeclared
    obtain ⟨-, further, hfurther, hspace, rfl⟩ := takeBlanks?_eq_some_iff.mp hnamed
    split at hfound
    · cases hfound
    · next c rest =>
      split at hfound
      · next hc =>
        split at hfound
        · next mark last htrim =>
          split at hfound
          · next hmark =>
            obtain ⟨-, blanks, hblanks, hbehind⟩ := trimStart_eq_iff.mp htrim
            have hwhole : rest.takeWhile Char.isAlphanum ++ (blanks ++ mark :: last) = rest := by
              rw [← hbehind, List.takeWhile_append_dropWhile]
            refine ⟨_, ⟨gap, optional, word, further, _, blanks, mark, ⟨hgap, hblank⟩, hoptional, hword,
              ⟨hfurther, hspace⟩, ⟨c, rest.takeWhile Char.isAlphanum, hc,
                List.all_eq_true.mp List.all_takeWhile, rfl⟩, hblanks, ?_, rfl⟩, last, ?_⟩
            · simpa [or_assoc, IsMark] using hmark
            · calc _ = "export".toList ++ (gap ++ (optional ++ (word ++ (further ++ c ::
                    (rest.takeWhile Char.isAlphanum ++ (blanks ++ mark :: last)))))) := by simp
                _ = "export".toList ++ (gap ++ declaring) := by rw [hwhole, ← hrest, ← hsplit]
          · cases hfound
        · cases hfound
      · cases hfound
  · rintro ⟨part, ⟨gap, optional, word, further, name, blanks, mark, hgap, hoptional, hword, hfurther, hname,
      hblanks, hmark, rfl⟩, last, rfl⟩
    have hinner : after? "export".toList ("export".toList ++ (gap ++ (optional ++ (word ++ (further ++
        (name ++ (blanks ++ [mark])))))) ++ last) =
          some (gap ++ (optional ++ (word ++ (further ++ (name ++ (blanks ++ mark :: last)))))) :=
      after?_eq_some.mpr (by simp)
    have hstop : Stops isBlank (optional ++ (word ++ (further ++ (name ++ (blanks ++ mark :: last))))) := by
      obtain ⟨c, more, hc, hdeclared⟩ := exists_declared hoptional hword (further ++ (name ++ (blanks ++ mark :: last)))
      rw [hdeclared]
      exact stops_cons (isBlank_of_isWord hc) more
    have hdeclared : afterDeclarator? (word ++ (further ++ (name ++ (blanks ++ mark :: last)))) =
        some (further ++ (name ++ (blanks ++ mark :: last))) :=
      afterDeclarator?_eq_some_iff.mpr ⟨word, hword, rfl⟩
    have hmarks : Stops isBlank (mark :: last) ∧ Stops Char.isAlphanum (mark :: last) := by
      rcases hmark with rfl | rfl | rfl | rfl <;> exact ⟨stops_cons (by decide) _, stops_cons (by decide) _⟩
    have htrim : trimStart (blanks ++ mark :: last) = mark :: last :=
      trimStart_eq_iff.mpr ⟨hmarks.1, blanks, hblanks, rfl⟩
    have hnamed := takeBlanks?_gap hfurther (hname.isWordText.stops (blanks ++ mark :: last))
    obtain ⟨c, letters, hc, hletters, rfl⟩ := hname
    have hdrop : (letters ++ (blanks ++ mark :: last)).dropWhile Char.isAlphanum = blanks ++ mark :: last :=
      (span_append hletters (stops_blanks_append isBlank_of_isNameChar hblanks hmarks.2)).2
    rw [hinner]
    simp only [Option.bind_eq_bind, Option.bind_some, takeBlanks?_gap hgap hstop,
      afterDefault_append hoptional hword, hdeclared, hnamed]
    simp only [List.cons_append, if_pos hc, hdrop, htrim]
    rw [if_pos (by simpa [or_assoc, IsMark] using hmark)]

/-- The components that are exported are found. -/
theorem recognises_exportedComponent : Recognises exportedComponent fun _ _ part _ => IsExportedComponent part :=
  recognises_of_prefix fun _ _ _ => exportedComponent_eq_some_iff

/-- A class with `Error` in its name that extends a component. -/
def IsErrorBoundary (part : List Char) : Prop :=
  ∃ gap name second third react pure,
    IsGap gap ∧ IsWordText name ∧ "Error".toList <:+: name ∧ IsGap second ∧ IsGap third ∧
      (react = [] ∨ react = "React.".toList) ∧ (pure = [] ∨ pure = "Pure".toList) ∧
        part = "class".toList ++ (gap ++ (name ++ (second ++ ("extends".toList ++ (third ++ (react ++
          (pure ++ "Component".toList)))))))

/-- A boundary of errors that ends a word. -/
def ErrorBoundaryAt : Shape Unit := fun _ _ part back => IsErrorBoundary part ∧ wordEnds back = true

/-- The boundaries of errors are found. -/
theorem recognises_errorBoundary : Recognises errorBoundary ErrorBoundaryAt := by
  intro before text _
  unfold errorBoundary
  constructor
  · intro h
    obtain ⟨inner, hinner, h⟩ := Option.bind_eq_some_iff.mp h
    obtain ⟨named, hnamed, h⟩ := Option.bind_eq_some_iff.mp h
    obtain ⟨⟨name, behind⟩, hname, h⟩ := Option.bind_eq_some_iff.mp h
    dsimp only at h
    split at h
    · next herror =>
      obtain ⟨extending, hextending, h⟩ := Option.bind_eq_some_iff.mp h
      obtain ⟨extended, hextended, h⟩ := Option.bind_eq_some_iff.mp h
      obtain ⟨base, hbase, h⟩ := Option.bind_eq_some_iff.mp h
      obtain ⟨back, hback, hend⟩ := Option.bind_eq_some_iff.mp h
      split at hend
      · next hends =>
        obtain ⟨-, gap, hgap, hblank, rfl⟩ := takeBlanks?_eq_some_iff.mp hnamed
        obtain ⟨hne, hword, -, rfl⟩ := run?_eq_some_iff.mp hname
        obtain ⟨-, second, hsecond, hspace, rfl⟩ := takeBlanks?_eq_some_iff.mp hextending
        obtain rfl := after?_eq_some.mp hextended
        obtain ⟨-, third, hthird, hroom, rfl⟩ := takeBlanks?_eq_some_iff.mp hbase
        obtain ⟨react, hreact, hsplit⟩ := exists_optional "React.".toList base
        obtain ⟨pure, hpure, hrest⟩ := exists_optional "Pure".toList (afterOptional "React.".toList base)
        rw [after?_eq_some.mp hback] at hrest
        obtain rfl := after?_eq_some.mp hinner
        refine ⟨_, back, ⟨⟨gap, name, second, third, react, pure, ⟨hgap, hblank⟩, ⟨hne, hword⟩,
          occurs_iff.mp herror, ⟨hsecond, hspace⟩, ⟨hthird, hroom⟩, hreact, hpure, rfl⟩, hends⟩, ?_⟩
        rw [hsplit, hrest]
        simp
      · cases hend
    · cases h
  · rintro ⟨part, back, ⟨⟨gap, name, second, third, react, pure, hgap, hname, herror, hsecond, hthird, hreact,
      hpure, rfl⟩, hends⟩, rfl⟩
    have hreact' : afterOptional "React.".toList (react ++ (pure ++ ("Component".toList ++ back))) =
        pure ++ ("Component".toList ++ back) := by
      rcases hpure with rfl | rfl
      · exact afterOptional_append hreact (by decide) _
      · exact afterOptional_append hreact (by decide) _
    have hpure' : afterOptional "Pure".toList (pure ++ ("Component".toList ++ back)) =
        "Component".toList ++ back := afterOptional_append hpure (by decide) _
    have hstop : Stops isBlank (react ++ (pure ++ ("Component".toList ++ back))) := by
      rcases hreact with rfl | rfl
      · rcases hpure with rfl | rfl <;> exact stops_cons (by decide) _
      · exact stops_cons (by decide) _
    have hinner : after? "class".toList ("class".toList ++ (gap ++ (name ++ (second ++ ("extends".toList ++
        (third ++ (react ++ (pure ++ "Component".toList))))))) ++ back) =
          some (gap ++ (name ++ (second ++ ("extends".toList ++ (third ++ (react ++
            (pure ++ ("Component".toList ++ back)))))))) := after?_eq_some.mpr (by simp)
    have hrun : ∀ text, run? isWord (name ++ (second ++ text)) = some (name, second ++ text) :=
      fun text => run?_eq_some_iff.mpr ⟨hname.1, hname.2, hsecond.stops text, rfl⟩
    have hextends : ∀ text, Stops isBlank ("extends".toList ++ text) := fun text => stops_cons (by decide) _
    have hown : ∀ start text : List Char, after? start (start ++ text) = some text :=
      fun start text => after?_eq_some.mpr rfl
    rw [hinner]
    simp only [Option.bind_eq_bind, Option.bind_some, takeBlanks?_gap hgap (hname.stops _), hrun,
      occurs_iff.mpr herror, if_true, takeBlanks?_gap hsecond (hextends _), hown, takeBlanks?_gap hthird hstop,
      hreact', hpure', hends]

/-! ## Declarations -/

/-- The start of a parameter list, for an asynchronous function maybe. -/
def IsOpening (opening : List Char) : Prop :=
  opening = ['('] ∨ ∃ blanks, allBlank blanks = true ∧ opening = "async".toList ++ (blanks ++ ['('])

/-- A parameter list is opened where its start stands. -/
theorem opensParameters_iff : opensParameters text = true ↔ ∃ opening, IsOpening opening ∧ opening <+: text := by
  unfold opensParameters
  constructor
  · intro h
    cases ha : after? "async".toList text with
    | none =>
      simp only [ha, decide_eq_true_eq, List.head?_eq_some_iff] at h
      obtain ⟨back, rfl⟩ := h
      exact ⟨_, .inl rfl, back, rfl⟩
    | some behind =>
      simp only [ha, decide_eq_true_eq, List.head?_eq_some_iff] at h
      obtain ⟨back, htrim⟩ := h
      obtain ⟨-, blanks, hb, rfl⟩ := trimStart_eq_iff.mp htrim
      obtain rfl := after?_eq_some.mp ha
      exact ⟨_, .inr ⟨blanks, hb, rfl⟩, back, by simp⟩
  · rintro ⟨opening, rfl | ⟨blanks, hb, rfl⟩, back, rfl⟩
    · rfl
    · have hasync : after? "async".toList ("async".toList ++ (blanks ++ ['(']) ++ back) =
          some (blanks ++ '(' :: back) := after?_eq_some.mpr (by simp)
      have htrim : trimStart (blanks ++ '(' :: back) = '(' :: back :=
        trimStart_eq_iff.mpr ⟨stops_cons (by decide) back, blanks, hb, rfl⟩
      rw [hasync]
      dsimp only
      rw [htrim]
      rfl

/-- A call of `memo`. -/
def IsMemo (memo : List Char) : Prop :=
  ∃ react, (react = [] ∨ react = "React.".toList) ∧ memo = react ++ "memo".toList

/-- `memo` is called where it stands and ends a word. -/
theorem callsMemo_iff :
    callsMemo text = true ↔ ∃ memo back, IsMemo memo ∧ text = memo ++ back ∧ wordEnds back = true := by
  unfold callsMemo
  constructor
  · intro h
    cases hback : after? "memo".toList (afterOptional "React.".toList text) with
    | none =>
      rw [hback] at h
      cases h
    | some back =>
      rw [hback] at h
      obtain ⟨react, hreact, hsplit⟩ := exists_optional "React.".toList text
      rw [after?_eq_some.mp hback] at hsplit
      exact ⟨_, back, ⟨react, hreact, rfl⟩, by rw [hsplit, List.append_assoc], h⟩
  · rintro ⟨memo, back, ⟨react, hreact, rfl⟩, rfl, hends⟩
    have hread : afterOptional "React.".toList (react ++ ("memo".toList ++ back)) = "memo".toList ++ back :=
      afterOptional_append hreact (by decide) _
    have hmemo : after? "memo".toList ("memo".toList ++ back) = some back := after?_eq_some.mpr rfl
    rw [List.append_assoc, hread, hmemo]
    exact hends

/-- The part of a text that gives a constant a name, up to what it is given. -/
def IsAssignment (name part : List Char) : Prop :=
  ∃ gap second third, IsGap gap ∧ IsWordText name ∧ allBlank second = true ∧ allBlank third = true ∧
    part = "const".toList ++ (gap ++ (name ++ (second ++ '=' :: third)))

/-- A constant is found where its name is given to it. -/
theorem constant?_eq_some_iff {name : List Char} :
    constant? text = some (name, rest) ↔
      Stops isBlank rest ∧ ∃ part, IsAssignment name part ∧ text = part ++ rest := by
  unfold constant? afterAssign?
  constructor
  · intro h
    obtain ⟨inner, hinner, h⟩ := Option.bind_eq_some_iff.mp h
    obtain ⟨named, hnamed, h⟩ := Option.bind_eq_some_iff.mp h
    obtain ⟨⟨word, behind⟩, hword, h⟩ := Option.bind_eq_some_iff.mp h
    obtain ⟨given, hgiven, hfound⟩ := Option.bind_eq_some_iff.mp h
    obtain ⟨assigned, hassigned, htrim⟩ := Option.map_eq_some_iff.mp hgiven
    cases hfound
    obtain ⟨hstop, third, hthird, rfl⟩ := trimStart_eq_iff.mp htrim
    obtain ⟨-, second, hsecond, rfl⟩ := trimStart_eq_iff.mp (after?_eq_some.mp hassigned)
    obtain ⟨hne, hletters, -, rfl⟩ := run?_eq_some_iff.mp hword
    obtain ⟨-, gap, hgap, hblank, rfl⟩ := takeBlanks?_eq_some_iff.mp hnamed
    obtain rfl := after?_eq_some.mp hinner
    exact ⟨hstop, _, ⟨gap, second, third, ⟨hgap, hblank⟩, ⟨hne, hletters⟩, hsecond, hthird, rfl⟩, by simp⟩
  · rintro ⟨hstop, part, ⟨gap, second, third, hgap, hname, hsecond, hthird, rfl⟩, rfl⟩
    have hinner : after? "const".toList ("const".toList ++ (gap ++ (name ++ (second ++ '=' :: third))) ++ rest) =
        some (gap ++ (name ++ (second ++ '=' :: (third ++ rest)))) := after?_eq_some.mpr (by simp)
    have hends : Stops isWord (second ++ '=' :: (third ++ rest)) :=
      stops_blanks_append (fun _ => isBlank_of_isWord) hsecond (stops_cons (by decide) _)
    have hrun : run? isWord (name ++ (second ++ '=' :: (third ++ rest))) =
        some (name, second ++ '=' :: (third ++ rest)) := run?_eq_some_iff.mpr ⟨hname.1, hname.2, hends, rfl⟩
    have hequals : trimStart (second ++ '=' :: (third ++ rest)) = '=' :: (third ++ rest) :=
      trimStart_eq_iff.mpr ⟨stops_cons (by decide) _, second, hsecond, rfl⟩
    have hvalue : trimStart (third ++ rest) = rest := trimStart_eq_iff.mpr ⟨hstop, third, hthird, rfl⟩
    have hassigned : after? ['='] ('=' :: (third ++ rest)) = some (third ++ rest) := after?_eq_some.mpr rfl
    rw [hinner]
    simp only [Option.bind_eq_bind, Option.bind_some, takeBlanks?_gap hgap (hname.stops _), hrun, hequals,
      hassigned, Option.map_some, hvalue]

/-- The part of a text that declares a function of the given name, before what stands behind it. -/
inductive IsDeclaration (name : List Char) : List Char → List Char → Prop
  /-- A function is declared by its name, which ends where the word ends. -/
  | function {gap back : List Char} (hg : IsGap gap) (hn : IsWordText name) (he : wordEnds back = true) :
    IsDeclaration name ("function".toList ++ (gap ++ name)) back
  /-- A constant is given a function that starts with its parameters. -/
  | parameters {part opening back : List Char} (ha : IsAssignment name part) (ho : IsOpening opening) :
    IsDeclaration name (part ++ opening) back
  /-- A constant is given a function that is kept in memory. -/
  | memo {part memo back : List Char} (ha : IsAssignment name part) (hm : IsMemo memo)
    (he : wordEnds back = true) : IsDeclaration name (part ++ memo) back

/-- Where a constant is given something, no word `function` stands. -/
theorem IsAssignment.read {name part : List Char} (h : IsAssignment name part) (hs : Stops isBlank rest) :
    after? "function".toList (part ++ rest) = none ∧ constant? (part ++ rest) = some (name, rest) := by
  refine ⟨?_, constant?_eq_some_iff.mpr ⟨hs, part, h, rfl⟩⟩
  obtain ⟨gap, second, third, -, -, -, -, rfl⟩ := h
  exact after?_cons_of_ne (by decide) _ _

/-- No blank starts a parameter list. -/
theorem IsOpening.stops {opening : List Char} (h : IsOpening opening) (text : List Char) :
    Stops isBlank (opening ++ text) := by
  rcases h with rfl | ⟨blanks, -, rfl⟩ <;> exact stops_cons (by decide) _

/-- No blank starts a call of `memo`. -/
theorem IsMemo.stops {memo : List Char} (h : IsMemo memo) (text : List Char) : Stops isBlank (memo ++ text) := by
  obtain ⟨react, rfl | rfl, rfl⟩ := h <;> exact stops_cons (by decide) _

/-- The declarations of functions are found, with their names. -/
theorem recognises_declaration : Recognises declaration fun _ name part back => IsDeclaration name part back := by
  intro before text name
  unfold declaration
  constructor
  · intro h
    cases hf : after? "function".toList text with
    | some behind =>
      simp only [hf] at h
      obtain ⟨named, hnamed, h⟩ := Option.bind_eq_some_iff.mp h
      obtain ⟨⟨word, back⟩, hword, hfound⟩ := Option.bind_eq_some_iff.mp h
      cases hfound
      obtain ⟨hne, hletters, hstop, rfl⟩ := run?_eq_some_iff.mp hword
      obtain ⟨-, gap, hgap, hblank, rfl⟩ := takeBlanks?_eq_some_iff.mp hnamed
      obtain rfl := after?_eq_some.mp hf
      exact ⟨_, back, .function ⟨hgap, hblank⟩ ⟨hne, hletters⟩ (wordEnds_iff.mpr hstop), by simp⟩
    | none =>
      simp only [hf] at h
      obtain ⟨⟨word, given⟩, hconstant, hfound⟩ := Option.bind_eq_some_iff.mp h
      obtain ⟨-, part, hpart, rfl⟩ := constant?_eq_some_iff.mp hconstant
      dsimp only at hfound
      split at hfound
      · next hgiven =>
        cases hfound
        rcases Bool.or_eq_true_iff.mp hgiven with ho | hm
        · obtain ⟨opening, hopening, back, rfl⟩ := opensParameters_iff.mp ho
          exact ⟨_, back, .parameters hpart hopening, (List.append_assoc _ _ _).symm⟩
        · obtain ⟨memo, back, hmemo, rfl, hends⟩ := callsMemo_iff.mp hm
          exact ⟨_, back, .memo hpart hmemo hends, (List.append_assoc _ _ _).symm⟩
      · cases hfound
  · rintro ⟨part, back, hd, rfl⟩
    cases hd with
    | @function gap _ hg hn he =>
      have hbehind : after? "function".toList ("function".toList ++ (gap ++ name) ++ back) =
          some (gap ++ (name ++ back)) := after?_eq_some.mpr (by simp)
      have hrun : run? isWord (name ++ back) = some (name, back) :=
        run?_eq_some_iff.mpr ⟨hn.1, hn.2, wordEnds_iff.mp he, rfl⟩
      rw [hbehind]
      simp only [Option.bind_eq_bind, takeBlanks?_gap hg (hn.stops back), Option.bind_some, hrun]
    | @parameters part opening _ ha ho =>
      obtain ⟨hnone, hconstant⟩ := ha.read (ho.stops back)
      have hopens : opensParameters (opening ++ back) = true :=
        opensParameters_iff.mpr ⟨opening, ho, List.prefix_append opening back⟩
      rw [List.append_assoc, hnone]
      simp only [Option.bind_eq_bind, hconstant, Option.bind_some, hopens, Bool.true_or, if_true]
    | @memo part memo _ ha hm he =>
      obtain ⟨hnone, hconstant⟩ := ha.read (hm.stops back)
      have hcalls : callsMemo (memo ++ back) = true := callsMemo_iff.mpr ⟨memo, back, hm, rfl, he⟩
      rw [List.append_assoc, hnone]
      simp only [Option.bind_eq_bind, hconstant, Option.bind_some, hcalls, Bool.or_true, if_true]

end Checkup.Source
