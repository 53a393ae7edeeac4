import Checkup.Proofs.TextStretches
import Checkup.Source.Profile
import Mathlib.Algebra.BigOperators.Group.List.Basic

/-!
# Places of what is sighted

What is counted in a source has a place there. The calls of hooks are as many as the places at
which one stands, each is counted under one kind, and a character that belongs to no call parts
a source into two that are counted apart. Tags that are nested are as many as the places of pairs,
though the second tag of one pair may be the first of the next.
-/

namespace Checkup.Text

variable {α : Type} {recognise : Recogniser α}

/-- What is sighted, each with its place; the text starts at a place that is given. -/
def sightedFrom (recognise : Recogniser α) : Nat → Option Char → List Char → List (Nat × α)
  | _, _, [] => []
  | place, before, c :: rest =>
    (recognise before (c :: rest)).toList.map (place, ·) ++ sightedFrom recognise (place + 1) (some c) rest

/-- Without the places it is what is sighted. -/
theorem map_snd_sightedFrom (place : Nat) (before : Option Char) (text : List Char) :
    (sightedFrom recognise place before text).map Prod.snd = sightings recognise before text := by
  induction text generalizing place before with
  | nil => rfl
  | cons c rest ih =>
    have hhere : ((recognise before (c :: rest)).toList.map (place, ·)).map Prod.snd =
        (recognise before (c :: rest)).toList := by
      rw [List.map_map]
      exact List.map_id _
    rw [sightedFrom, List.map_append, ih, hhere, sightings]

/-- Nothing is sighted before the place at which the text starts. -/
theorem le_of_mem_sightedFrom {place : Nat} {before : Option Char} {text : List Char} {sighted : Nat × α}
    (h : sighted ∈ sightedFrom recognise place before text) : place ≤ sighted.1 := by
  induction text generalizing place before with
  | nil => cases h
  | cons c rest ih =>
    rcases List.mem_append.mp h with h | h
    · obtain ⟨item, -, rfl⟩ := List.mem_map.mp h
      exact Nat.le_refl place
    · exact Nat.le_of_succ_le (ih h)

/-- What is sighted is in the order of the places, and at each place one thing at most. -/
theorem pairwise_sightedFrom (place : Nat) (before : Option Char) (text : List Char) :
    (sightedFrom recognise place before text).Pairwise fun first second => first.1 < second.1 := by
  induction text generalizing place before with
  | nil => exact .nil
  | cons c rest ih =>
    refine List.pairwise_append.mpr ⟨?_, ih (place + 1) (some c), fun first hfirst second hsecond => ?_⟩
    · cases recognise before (c :: rest) with
      | none => exact .nil
      | some item => exact List.pairwise_singleton _ _
    · obtain ⟨item, -, rfl⟩ := List.mem_map.mp hfirst
      exact le_of_mem_sightedFrom hsecond

/-- At a place stands what is recognised there, with the text before the place in view. -/
theorem mem_sightedFrom {start place : Nat} {before : Option Char} {text : List Char} {item : α} :
    (start + place, item) ∈ sightedFrom recognise start before text ↔
      place < text.length ∧ recognise ((text.take place).getLast?.or before) (text.drop place) = some item := by
  induction text generalizing start place before with
  | nil => exact ⟨fun h => absurd h List.not_mem_nil, fun h => absurd h.1 (Nat.not_lt_zero place)⟩
  | cons c rest ih =>
    rw [sightedFrom, List.mem_append, List.length_cons]
    cases place with
    | zero =>
      have hlater : (start + 0, item) ∉ sightedFrom recognise (start + 1) (some c) rest :=
        fun h => absurd (le_of_mem_sightedFrom h) (Nat.not_succ_le_self start)
      rw [or_iff_left hlater]
      simp [Option.mem_toList, eq_comm]
    | succ place =>
      have hhere : (start + (place + 1), item) ∉ (recognise before (c :: rest)).toList.map (start, ·) := by
        intro h
        obtain ⟨found, -, he⟩ := List.mem_map.mp h
        have hplace : start = start + (place + 1) := congrArg Prod.fst he
        omega
      have hbefore : ((c :: rest).take (place + 1)).getLast?.or before = (rest.take place).getLast?.or (some c) := by
        rw [List.take_succ_cons, List.getLast?_cons, Option.or_some]
        rfl
      rw [or_iff_right hhere, hbefore, List.drop_succ_cons, Nat.add_lt_add_iff_right, ← ih]
      exact iff_of_eq (congrArg (· ∈ _) (by rw [Nat.add_assoc, Nat.add_comm 1 place]))

/-- In a whole text nothing else is in view before the place. -/
theorem mem_sightedFrom_zero {place : Nat} {text : List Char} {item : α} :
    (place, item) ∈ sightedFrom recognise 0 none text ↔
      place < text.length ∧ recognise (text.take place).getLast? (text.drop place) = some item := by
  have hplaced := @mem_sightedFrom α recognise 0 place none text item
  rwa [Nat.zero_add, Option.or_none] at hplaced

/-- On two sides of a character that nothing found holds or looks behind, a text is searched apart. -/
theorem sightings_append_separator {separator : Char} (hnil : ∀ before, recognise before [] = none)
    (hpart : ∀ before text more, recognise before (text ++ separator :: more) = recognise before text)
    (hbehind : ∀ text, recognise (some separator) text = recognise none text) (before : Option Char)
    (text more : List Char) :
    sightings recognise before (text ++ separator :: more) =
      sightings recognise before text ++ sightings recognise none more := by
  induction text generalizing before with
  | nil =>
    have hhere : recognise before (separator :: more) = none := (hpart before [] more).trans (hnil before)
    have hlater : sightings recognise (some separator) more = sightings recognise none more := by
      cases more with
      | nil => rfl
      | cons c more => rw [sightings, hbehind, sightings]
    rw [List.nil_append, sightings, List.nil_append, sightings, hhere, hlater]
    rfl
  | cons c text ih =>
    have hhere := hpart before (c :: text) more
    rw [List.cons_append] at hhere
    rw [List.cons_append, sightings, hhere, ih, sightings, List.append_assoc]

end Checkup.Text

namespace Checkup.Source

open Checkup.Text

variable {content : List Char} {place : Nat}

/-! ## Hooks -/

/-- The call of a hook stands at a place. -/
structure CallsHookAt (content : List Char) (place : Nat) (hook : List Char) : Prop where
  /-- The place is the start of a word. -/
  starts : wordStarts (content.take place).getLast? = true
  /-- The hook is named by `use` and a name with a capital letter. -/
  named : ∃ name, IsCapitalName name ∧ hook = "use".toList ++ name
  /-- The name is all that stands there of letters and digits. -/
  longest : hook = (content.drop place).takeWhile isNameChar
  /-- Behind the name opens a bracket, with blanks before it maybe. -/
  opened : ∃ blanks bracket rest, allBlank blanks = true ∧ (bracket = '<' ∨ bracket = '(') ∧
    content.drop place = hook ++ (blanks ++ bracket :: rest)

/-- The name of a hook is made of letters and digits. -/
theorem forall_isNameChar {hook : List Char} (h : ∃ name, IsCapitalName name ∧ hook = "use".toList ++ name) :
    ∀ c ∈ hook, isNameChar c = true := by
  obtain ⟨name, hname, rfl⟩ := h
  exact List.forall_mem_append.mpr ⟨List.all_eq_true.mp rfl, hname.isNameChar⟩

/-- The call of a hook is found at the places at which one stands. -/
theorem mem_sightedFrom_hookCall {hook : List Char} :
    (place, hook) ∈ sightedFrom hookCall 0 none content ↔ CallsHookAt content place hook := by
  rw [mem_sightedFrom_zero, hookCall_eq_some_iff]
  constructor
  · rintro ⟨-, hstarts, part, ⟨hnamed, blanks, bracket, hblanks, hbracket, rfl⟩, rest, hdrop⟩
    have hopened : content.drop place = hook ++ (blanks ++ bracket :: rest) := by
      rw [← hdrop]
      simp only [List.append_assoc, List.singleton_append]
    have hends : Stops isNameChar (blanks ++ bracket :: rest) :=
      stops_blanks_append isBlank_of_isNameChar hblanks (stops_bracket hbracket rest).1
    refine ⟨hstarts, hnamed, ?_, blanks, bracket, rest, hblanks, hbracket, hopened⟩
    rw [hopened, (span_append (forall_isNameChar hnamed) hends).1]
  · rintro ⟨hstarts, hnamed, -, blanks, bracket, rest, hblanks, hbracket, hopened⟩
    have hinside : place < content.length := by
      obtain ⟨name, -, rfl⟩ := hnamed
      have hlength := congrArg List.length hopened
      simp only [List.length_drop, List.length_append, List.length_cons] at hlength
      omega
    refine ⟨hinside, hstarts, hook ++ (blanks ++ [bracket]),
      ⟨hnamed, blanks, bracket, hblanks, hbracket, rfl⟩, rest, ?_⟩
    rw [hopened]
    simp only [List.append_assoc, List.singleton_append]

/-- Each hook call is of one kind, so that over all kinds the numbers add up to all of them. -/
theorem MarkerKind.sum_count_all (kinds : List MarkerKind) : (all.map kinds.count).sum = kinds.length := by
  induction kinds with
  | nil => rfl
  | cons kind kinds ih =>
    have hone : (all.map fun each => if kind == each then 1 else 0).sum = 1 := by
      cases kind <;> rfl
    simp only [List.count_cons, List.sum_map_add, ih, hone, List.length_cons]

/-- A kind other than that of the rest is given to the hook that bears its name. -/
theorem MarkerKind.ofHook_eq_iff {kind : MarkerKind} (h : kind ≠ custom) (hook : List Char) :
    ofHook hook = kind ↔ (String.ofList hook, kind) ∈ namedHooks := by
  have hnamed : ∀ entry ∈ namedHooks, namedHooks.lookup entry.1 = some entry.2 := by decide
  unfold ofHook
  constructor
  · intro hkind
    cases hl : namedHooks.lookup (String.ofList hook) with
    | none =>
      rw [hl] at hkind
      exact absurd hkind.symm h
    | some found =>
      rw [hl] at hkind
      obtain rfl : found = kind := hkind
      obtain ⟨front, back, hsplit, -⟩ := List.lookup_eq_some_iff.mp hl
      rw [hsplit]
      exact List.mem_append_right front List.mem_cons_self
  · intro hm
    rw [hnamed _ hm]
    rfl

/-- The calls of hooks in a text, counted by their places. -/
structure CountsCalls (content : List Char) (calls : List (Nat × List Char)) : Prop where
  /-- The calls are told in the order of their places, and none twice. -/
  ordered : calls.Pairwise fun first second => first.1 < second.1
  /-- They are those that stand somewhere. -/
  mem_iff : ∀ place hook, (place, hook) ∈ calls ↔ CallsHookAt content place hook
  /-- A search from left to right finds each of them, and no others. -/
  scanned : ∀ hooks, Scan HookCallAt none content hooks ↔ hooks = calls.map Prod.snd
  /-- Over all kinds as many are counted as there are. -/
  total : (MarkerKind.all.map fun kind => (markers content).count kind).sum = calls.length
  /-- Each is counted under its kind alone. -/
  counted : ∀ kind, (markers content).count kind = calls.countP fun call => MarkerKind.ofHook call.2 = kind
  /-- The kind is that of a hook with a kind of its own if the whole name is the name of that hook. -/
  named : ∀ kind, kind ≠ .custom → ∀ call ∈ calls,
    (MarkerKind.ofHook call.2 = kind ↔ (String.ofList call.2, kind) ∈ MarkerKind.namedHooks)

/-- What is sighted in a text is what is counted of it. -/
theorem countsCalls_sightedFrom (content : List Char) :
    CountsCalls content (sightedFrom hookCall 0 none content) := by
  have hmarkers : markers content =
      (sightedFrom hookCall 0 none content).map fun call => MarkerKind.ofHook call.2 := by
    rw [markers, ← map_snd_sightedFrom 0, List.map_map]
    rfl
  refine
    { ordered := pairwise_sightedFrom 0 none content
      mem_iff := fun _ _ => mem_sightedFrom_hookCall
      scanned := fun hooks => ?_
      total := ?_
      counted := fun kind => ?_
      named := fun kind hkind call _ => MarkerKind.ofHook_eq_iff hkind call.2 }
  · rw [map_snd_sightedFrom, findsApart_hookCall.scan_iff]
  · rw [MarkerKind.sum_count_all, hmarkers, List.length_map]
  · rw [hmarkers, List.count, List.countP_map]
    rfl

/-- A character that no call holds, and behind which a word may start. -/
structure IsSeparator (separator : Char) : Prop where
  word : isWord separator = false
  blank : isBlank separator = false
  tag : separator ≠ '<'
  round : separator ≠ '('

namespace IsSeparator

variable {separator : Char}

/-- It stands in no call of a hook. -/
theorem not_mem (h : IsSeparator separator) {hook part : List Char} (hp : IsHookCall hook part) :
    separator ∉ part := by
  obtain ⟨hnamed, blanks, bracket, hblanks, hbracket, rfl⟩ := hp
  intro hm
  rcases List.mem_append.mp hm with hm | hm
  · have hword := isWord_of_isAlphanum (forall_isNameChar hnamed separator hm)
    rw [h.word] at hword
    cases hword
  · rcases List.mem_append.mp hm with hm | hm
    · exact not_mem_of_allBlank hblanks h.blank hm
    · obtain rfl := List.mem_singleton.mp hm
      exact hbracket.elim h.tag h.round

/-- So a call before it ends before it. -/
theorem hookCall_append (h : IsSeparator separator) (before : Option Char) (text more : List Char) :
    hookCall before (text ++ separator :: more) = hookCall before text := by
  refine Option.ext fun hook => ?_
  rw [hookCall_eq_some_iff, hookCall_eq_some_iff]
  refine and_congr_right fun _ => exists_congr fun part => and_congr_right fun hpart => ⟨?_, ?_⟩
  · rintro ⟨back, hback⟩
    obtain ⟨left, hleft, -⟩ := exists_append_of_not_mem hback (h.not_mem hpart)
    exact ⟨left, hleft.symm⟩
  · exact fun hprefix => hprefix.trans (List.prefix_append text _)

/-- Behind it the calls are those of a text of its own. -/
theorem hookCall_behind (h : IsSeparator separator) (text : List Char) :
    hookCall (some separator) text = hookCall none text := by
  have hstarts : wordStarts (some separator) = wordStarts none := by
    rw [wordStarts, Option.any_some, h.word]
    rfl
  refine Option.ext fun hook => ?_
  rw [hookCall_eq_some_iff, hookCall_eq_some_iff, hstarts]

/-- On the two sides of it calls are read apart. -/
theorem markers_append (h : IsSeparator separator) (text more : List Char) :
    markers (text ++ separator :: more) = markers text ++ markers more := by
  have hnil : ∀ before, hookCall before [] = none := fun before => by
    unfold hookCall
    split <;> rfl
  rw [markers, sightings_append_separator hnil h.hookCall_append h.hookCall_behind, List.map_append, markers, markers]

end IsSeparator

/-- Hook calls are counted place by place, each under one kind, and apart on two sides of a character
of no call. -/
theorem count_markers_of_places (content : List Char) :
    (∃ calls, CountsCalls content calls) ∧
      ∀ separator more, isWord separator = false → isBlank separator = false → separator ≠ '<' → separator ≠ '(' →
        ∀ kind, (markers (content ++ separator :: more)).count kind =
          (markers content).count kind + (markers more).count kind := by
  refine ⟨⟨_, countsCalls_sightedFrom content⟩, fun separator more hword hblank htag hround kind => ?_⟩
  have hseparator : IsSeparator separator := ⟨hword, hblank, htag, hround⟩
  rw [hseparator.markers_append, List.count_append]

/-- Two calls with a semicolon between them are counted one by one, one under each kind. -/
theorem count_markers_of_places_semicolon :
    isWord ';' = false ∧ isBlank ';' = false ∧ ';' ≠ '<' ∧ ';' ≠ '(' ∧
      ∀ kind, (markers ("useState(0)".toList ++ ';' :: "useRefs<A>()".toList)).count kind =
        (markers "useState(0)".toList).count kind + (markers "useRefs<A>()".toList).count kind :=
  ⟨by decide, by decide, by decide, by decide,
    (count_markers_of_places "useState(0)".toList).2 ';' "useRefs<A>()".toList (by decide) (by decide) (by decide)
      (by decide)⟩

/-! ## Tags -/

/-- An opening tag stands at a place, with another one behind it and nothing but blanks between the two. -/
def NestsAt (content : List Char) (place : Nat) : Prop :=
  ∃ part, IsNestedPair part ∧ part <+: content.drop place

/-- A pair of nested tags is not empty. -/
theorem IsNestedPair.ne_nil {part : List Char} (h : IsNestedPair part) : part ≠ [] := by
  obtain ⟨_, blanks, second, ⟨name, attributes, -, -, rfl⟩, -, -, rfl⟩ := h
  exact List.cons_ne_nil _ _

/-- Nested tags are found at the places at which a pair of them stands. -/
theorem mem_sightedFrom_nestedTags : (place, ()) ∈ sightedFrom nestedTags 0 none content ↔ NestsAt content place := by
  rw [mem_sightedFrom_zero, nestedTags_eq_some_iff]
  refine and_iff_right_of_imp fun ⟨part, hpart, hprefix⟩ => ?_
  have hbehind : content.drop place ≠ [] := fun hnil => hpart.ne_nil (List.prefix_nil.mp (hnil ▸ hprefix))
  exact Nat.lt_of_not_le fun hle => hbehind (List.drop_eq_nil_of_le hle)

/-- Tags are deeply nested if there are more than ten pairs of them. -/
theorem deepNesting_mem_patterns : Pattern.deepNesting ∈ patterns content ↔ 11 ≤ countOf nestedTags content := by
  rw [patterns, List.mem_filter, and_iff_right (by decide)]
  exact decide_eq_true_iff

/-- So many opening tags after each other, and nothing else but blanks around them. -/
inductive IsTagRun : Nat → List Char → Prop
  | blanks {blanks : List Char} (hblanks : allBlank blanks = true) : IsTagRun 0 blanks
  | tag {number : Nat} {blanks tag rest : List Char} (hblanks : allBlank blanks = true) (htag : IsOpenTag tag)
    (hrest : IsTagRun number rest) : IsTagRun (number + 1) (blanks ++ (tag ++ rest))

/-- A pair of nested tags starts with an angle bracket. -/
theorem head?_of_nestedTags (before : Option Char) (text : List Char) (item : Unit)
    (h : nestedTags before text = some item) : text.head? = some '<' := by
  refine recognises_nestedTags.head? (fun _ _ part _ ⟨hpart, _⟩ => ?_) before text item h
  obtain ⟨later, rfl, -⟩ := hpart.exists_later
  rfl

/-- A tag is in no pair if no other opens behind it. -/
theorem IsOpenTag.sightings_alone {tag rest : List Char} (h : IsOpenTag tag) (hr : '<' ∉ rest)
    (before : Option Char) : sightings nestedTags before (tag ++ rest) = [] := by
  obtain ⟨later, rfl, hlater⟩ := h.exists_later
  have hnot : '<' ∉ later ++ rest := fun hm => (List.mem_append.mp hm).elim hlater hr
  have hhere : nestedTags before ('<' :: (later ++ rest)) = none := by
    refine Option.eq_none_iff_forall_ne_some.mpr fun _ hfound => hnot ?_
    obtain ⟨_, ⟨_, blanks, second, ⟨name, attributes, -, -, rfl⟩, -, hsecond, rfl⟩, hprefix⟩ :=
      nestedTags_eq_some_iff.mp hfound
    obtain ⟨inside, rfl, -⟩ := hsecond.exists_later
    exact (List.cons_prefix_cons.mp hprefix).2.subset (by simp)
  have hbehind := (isBare_of_not_mem head?_of_nestedTags hnot (some '<') []).sightings_append
  rw [List.append_nil] at hbehind
  rw [List.cons_append, sightings, hhere, hbehind]
  rfl

/-- In a run of tags each but the last is nested. -/
theorem IsTagRun.length_sightings {number : Nat} (h : IsTagRun number content) (before : Option Char) :
    (sightings nestedTags before content).length = number - 1 := by
  have hblank : ∀ {blanks : List Char}, allBlank blanks = true → '<' ∉ blanks :=
    fun hblanks => not_mem_of_allBlank hblanks (by decide)
  induction h generalizing before with
  | @blanks blanks hblanks =>
    have hbare := (isBare_of_not_mem head?_of_nestedTags (hblank hblanks) before []).sightings_append
    rw [List.append_nil] at hbare
    rw [hbare]
    rfl
  | @tag number blanks tag rest hblanks htag hrest ih =>
    rw [(isBare_of_not_mem head?_of_nestedTags (hblank hblanks) before (tag ++ rest)).sightings_append]
    cases hrest with
    | blanks hlast =>
      rw [htag.sightings_alone (hblank hlast)]
      rfl
    | @tag number gap second rest hgap hsecond hrest =>
      have hnested : NestedTagsAt (blanks.getLast?.or before) () tag (gap ++ (second ++ rest)) :=
        ⟨htag, gap, second, rest, hgap, hsecond, rfl⟩
      rw [findsApart_nestedTags.sightings_append hnested, List.length_cons, ih]
      omega

/-- One tag after the other makes a run of them. -/
theorem IsOpenTag.isTagRun_flatten {tag : List Char} (h : IsOpenTag tag) (number : Nat) :
    IsTagRun number (List.replicate number tag).flatten := by
  induction number with
  | zero => exact .blanks rfl
  | succ number ih =>
    have hblanks : allBlank [] = true := rfl
    rw [List.replicate_succ, List.flatten_cons, ← List.nil_append (tag ++ _)]
    exact .tag hblanks h ih

/-- Deep nesting is reported from eleven places of nested tags on, and of a run of tags from twelve tags on. -/
theorem deepNesting_iff_places (content : List Char) :
    (∃ places : List Nat, places.Pairwise (· < ·) ∧ (∀ place, place ∈ places ↔ NestsAt content place) ∧
      (∀ found, Scan NestedTagsAt none content found ↔ found = List.replicate places.length ()) ∧
        (Pattern.deepNesting ∈ patterns content ↔ 11 ≤ places.length)) ∧
      ∀ number, IsTagRun number content → (Pattern.deepNesting ∈ patterns content ↔ 12 ≤ number) := by
  have hcount : countOf nestedTags content = (sightedFrom nestedTags 0 none content).length := by
    rw [countOf, ← map_snd_sightedFrom 0, List.length_map]
  refine ⟨⟨(sightedFrom nestedTags 0 none content).map Prod.fst, ?_, fun place => ?_, fun found => ?_, ?_⟩,
    fun number hrun => ?_⟩
  · exact List.pairwise_map.mpr (pairwise_sightedFrom 0 none content)
  · rw [← mem_sightedFrom_nestedTags, List.mem_map]
    constructor
    · rintro ⟨⟨_, ⟨⟩⟩, hm, rfl⟩
      exact hm
    · exact fun hm => ⟨(place, ()), hm, rfl⟩
  · have hunits : sightings nestedTags none content =
        List.replicate (sightedFrom nestedTags 0 none content).length () := by
      rw [← map_snd_sightedFrom 0]
      exact List.eq_replicate_iff.mpr ⟨List.length_map _, fun _ _ => rfl⟩
    rw [findsApart_nestedTags.scan_iff, hunits, List.length_map]
  · rw [deepNesting_mem_patterns, hcount, List.length_map]
  · rw [deepNesting_mem_patterns, countOf, hrun.length_sightings]
    omega

/-- Twelve tags after each other are deeply nested. -/
theorem deepNesting_iff_places_twelve :
    IsTagRun 12 (List.replicate 12 "<div>".toList).flatten ∧
      Pattern.deepNesting ∈ patterns (List.replicate 12 "<div>".toList).flatten := by
  have htag : IsOpenTag "<div>".toList := ⟨"div".toList, [], .inr ⟨"div", by decide, rfl⟩, .inl rfl, rfl⟩
  have hrun := htag.isTagRun_flatten 12
  exact ⟨hrun, ((deepNesting_iff_places _).2 12 hrun).mpr (Nat.le_refl 12)⟩

end Checkup.Source
