import Mathlib.Algebra.Ring.Int.Defs
import Checkup.Proofs.FunctionLengths

/-!
# Functions one after the other

The functions that are seen in a source are told by its lines alone: each starts on the
first line behind the one before that declares one, and ends on the first later line at
whose end its braces are balanced. What is reported are those of them that are longer
than the limit. So reported functions share no lines, and a stricter limit reports a part
of what a weaker one does.
-/

namespace Checkup.Source

/-- Opening braces less closing ones from a line to another, both of them counted. -/
def balanceFrom (lines : List (List Char)) (first last : Nat) : Int :=
  balance ((lines.drop first).take (last + 1 - first))

/-- A function of a source: its name, its first and its last line. -/
@[ext] structure FunctionSpan where
  name : List Char
  first : Nat
  last : Nat

/-- How many lines a function ends behind its first one. -/
def FunctionSpan.length (span : FunctionSpan) : Int := (span.last : Int) - span.first

/-- A function as it is reported. -/
def FunctionSpan.report (span : FunctionSpan) : FunctionLength :=
  ⟨String.ofList span.name, span.length⟩

/-- A line is the first from another on that declares a function. -/
structure IsFirst (lines : List (List Char)) (start first : Nat) (name : List Char) : Prop where
  le : start ≤ first
  declares : lines[first]?.bind declared? = some name
  earliest : ∀ index, start ≤ index → index < first → lines[index]?.bind declared? = none

/-- A line is the first behind another at whose end the braces since are balanced. -/
structure IsClose (lines : List (List Char)) (first last : Nat) : Prop where
  lt : first < last
  within : last < lines.length
  balanced : balanceFrom lines first last ≤ 0
  earliest : ∀ index, first < index → index < last → 0 < balanceFrom lines first index

/-- The functions of a source from a line on. -/
inductive Segments (lines : List (List Char)) : Nat → List FunctionSpan → Prop
  /-- No line declares a function. -/
  | undeclared {start : Nat} (h : ∀ index, start ≤ index → lines[index]?.bind declared? = none) :
    Segments lines start []
  /-- The first function is never closed, so none is seen. -/
  | unclosed {start first : Nat} {name : List Char} (h : IsFirst lines start first name)
    (hu : ∀ last, ¬IsClose lines first last) : Segments lines start []
  /-- The first function is closed, and further ones come behind it. -/
  | closed {start : Nat} {span : FunctionSpan} {spans : List FunctionSpan}
    (h : IsFirst lines start span.first span.name) (hc : IsClose lines span.first span.last)
    (hs : Segments lines (span.last + 1) spans) : Segments lines start (span :: spans)

variable {lines : List (List Char)}

/-- There is one first line. -/
theorem IsFirst.unique {start first other : Nat} {name called : List Char}
    (h : IsFirst lines start first name) (ho : IsFirst lines start other called) :
    first = other ∧ name = called := by
  have hfirst : first = other := by
    rcases Nat.lt_trichotomy first other with hlt | heq | hgt
    · have hnone := ho.earliest first h.le hlt
      rw [h.declares] at hnone
      cases hnone
    · exact heq
    · have hnone := h.earliest other ho.le hgt
      rw [ho.declares] at hnone
      cases hnone
  subst hfirst
  have hname := h.declares
  rw [ho.declares] at hname
  cases hname
  exact ⟨rfl, rfl⟩

/-- There is one last line. -/
theorem IsClose.unique {first last other : Nat} (h : IsClose lines first last)
    (ho : IsClose lines first other) : last = other := by
  rcases Nat.lt_trichotomy last other with hlt | heq | hgt
  · have hpos := ho.earliest last h.lt hlt
    have hle := h.balanced
    omega
  · exact heq
  · have hpos := h.earliest other ho.lt hgt
    have hle := ho.balanced
    omega

/-- The functions of a source are told by its lines. -/
theorem Segments.unique {start : Nat} {spans others : List FunctionSpan} (h : Segments lines start spans)
    (ho : Segments lines start others) : spans = others := by
  induction h generalizing others with
  | undeclared hn =>
    cases ho with
    | undeclared _ => rfl
    | unclosed _ _ => rfl
    | closed hf _ _ =>
      have hnone := hn _ hf.le
      rw [hf.declares] at hnone
      cases hnone
  | unclosed hf hu =>
    cases ho with
    | undeclared _ => rfl
    | unclosed _ _ => rfl
    | closed hg hc _ =>
      obtain ⟨hfirst, -⟩ := hf.unique hg
      rw [← hfirst] at hc
      exact absurd hc (hu _)
  | @closed start span spans hf hc hs ih =>
    cases ho with
    | undeclared hn =>
      have hnone := hn _ hf.le
      rw [hf.declares] at hnone
      cases hnone
    | unclosed hg hu =>
      obtain ⟨hfirst, -⟩ := hf.unique hg
      rw [hfirst] at hc
      exact absurd hc (hu _)
    | @closed _ other _ hg hd ht =>
      obtain ⟨hfirst, hname⟩ := hf.unique hg
      rw [← hfirst] at hd
      have hlast : span.last = other.last := hc.unique hd
      have hspan : span = other := FunctionSpan.ext hname hfirst hlast
      subst hspan
      rw [ih ht]

/-- A line from a place on declares a function, or none does. -/
theorem undeclared_or_exists_isFirst (lines : List (List Char)) (start : Nat) :
    (∀ index, start ≤ index → lines[index]?.bind declared? = none) ∨
      ∃ first name, IsFirst lines start first name := by
  induction hn : lines.length - start generalizing start with
  | zero =>
    refine .inl fun index hi => ?_
    rw [List.getElem?_eq_none (by omega)]
    rfl
  | succ n ih =>
    cases hd : lines[start]?.bind declared? with
    | some name =>
      exact .inr ⟨start, name, Nat.le_refl start, hd, fun index hle hlt => absurd hlt (by omega)⟩
    | none =>
      have hstart : ∀ index, start ≤ index → ¬start + 1 ≤ index → lines[index]?.bind declared? = none := by
        intro index hle hnot
        have he : index = start := by omega
        rw [he]
        exact hd
      rcases ih (start + 1) (by omega) with hnone | ⟨first, name, hf⟩
      · refine .inl fun index hi => ?_
        by_cases hle : start + 1 ≤ index
        · exact hnone index hle
        · exact hstart index hi hle
      · have hle := hf.le
        refine .inr ⟨first, name, by omega, hf.declares, fun index hi hlt => ?_⟩
        by_cases hafter : start + 1 ≤ index
        · exact hf.earliest index hafter hlt
        · exact hstart index hi hafter

/-- Every source has its functions. -/
theorem exists_segments (lines : List (List Char)) (start : Nat) : ∃ spans, Segments lines start spans := by
  induction hn : lines.length - start using Nat.strongRecOn generalizing start with
  | ind n ih =>
    rcases undeclared_or_exists_isFirst lines start with hnone | ⟨first, name, hf⟩
    · exact ⟨[], .undeclared hnone⟩
    · by_cases hc : ∃ last, IsClose lines first last
      · obtain ⟨last, hclose⟩ := hc
        have hle := hf.le
        have hlt := hclose.lt
        have hin := hclose.within
        obtain ⟨spans, hs⟩ := ih (lines.length - (last + 1)) (by omega) (last + 1) rfl
        exact ⟨⟨name, first, last⟩ :: spans, .closed hf hclose hs⟩
      · exact ⟨[], .unclosed hf fun last hl => hc ⟨last, hl⟩⟩

/-- Behind a place functions start, one behind the other. -/
theorem Segments.ordered {start : Nat} {spans : List FunctionSpan} (h : Segments lines start spans) :
    (∀ span ∈ spans, start ≤ span.first) ∧
      spans.Pairwise fun span later => span.last < later.first := by
  induction h with
  | undeclared _ => exact ⟨by simp, .nil⟩
  | unclosed _ _ => exact ⟨by simp, .nil⟩
  | @closed start span spans hf hc _ ih =>
    have hle := hf.le
    have hlt := hc.lt
    obtain ⟨hstart, hpairs⟩ := ih
    refine ⟨fun each he => ?_, .cons (fun later hl => by have := hstart later hl; omega) hpairs⟩
    rcases List.mem_cons.mp he with rfl | he
    · exact hle
    · have := hstart each he
      omega

/-- All the lines of functions are lines of the source. -/
theorem Segments.sum_le {start : Nat} {spans : List FunctionSpan} (h : Segments lines start spans)
    (hs : start ≤ lines.length) :
    (spans.map fun span => span.length + 1).sum ≤ (lines.length : Int) - start := by
  induction h with
  | undeclared _ =>
    rw [List.map_nil, List.sum_nil]
    omega
  | unclosed _ _ =>
    rw [List.map_nil, List.sum_nil]
    omega
  | @closed start span spans hf hc _ ih =>
    have hle := hf.le
    have hin := hc.within
    have hmore := ih (by omega)
    rw [List.map_cons, List.sum_cons, FunctionSpan.length]
    omega

/-- Lines that declare nothing are passed over. -/
theorem longFunctions_drop {limit : Int} {start stop : Nat} (hle : start ≤ stop)
    (h : ∀ index, start ≤ index → index < stop → lines[index]?.bind declared? = none) :
    longFunctions limit (lines.drop start) = longFunctions limit (lines.drop stop) := by
  induction hle with
  | refl => rfl
  | @step stop hle ih =>
    rw [ih fun index hs hlt => h index hs (by omega)]
    by_cases hin : stop < lines.length
    · have hd := h stop hle (Nat.lt_succ_self stop)
      rw [List.getElem?_eq_getElem hin] at hd
      rw [List.drop_eq_getElem_cons hin, longFunctions_skip hd]
    · rw [List.drop_eq_nil_of_le (by omega), List.drop_eq_nil_of_le (by omega)]

/-- The braces from the first line of a function on are its own and those of the lines behind it. -/
theorem balanceFrom_of_drop {first : Nat} {head : List Char} {tail : List (List Char)}
    (hd : lines.drop first = head :: tail) {last : Nat} (hle : first ≤ last) :
    balanceFrom lines first last = braceBalance head + balance (tail.take (last - first)) := by
  have hcount : last + 1 - first = last - first + 1 := by omega
  rw [balanceFrom, hd, hcount, List.take_succ_cons, balance_cons]

/-- The line that closes a function is told by the lines behind its first. -/
theorem isClose_iff {first last : Nat} {head : List Char} {tail : List (List Char)}
    (hd : lines.drop first = head :: tail) :
    IsClose lines first last ↔
      ∃ taken rest, tail = taken ++ rest ∧ last = first + taken.length ∧ Closes (braceBalance head) taken := by
  have hlength : lines.length = first + 1 + tail.length := by
    have hdrop := congrArg List.length hd
    rw [List.length_drop, List.length_cons] at hdrop
    omega
  constructor
  · intro h
    have hlt := h.lt
    have hin := h.within
    have htaken : (tail.take (last - first)).length = last - first := by
      rw [List.length_take]
      omega
    refine ⟨tail.take (last - first), tail.drop (last - first), (List.take_append_drop _ _).symm, by omega, ?_⟩
    refine ⟨fun hnil => ?_, ?_, fun count hpos hcount => ?_⟩
    · rw [hnil, List.length_nil] at htaken
      omega
    · rw [← balanceFrom_of_drop hd (by omega)]
      exact h.balanced
    · rw [htaken] at hcount
      have hopen := h.earliest (first + count) (by omega) (by omega)
      rw [balanceFrom_of_drop hd (by omega), Nat.add_sub_cancel_left] at hopen
      rw [List.take_take, Nat.min_eq_left (by omega)]
      exact hopen
  · rintro ⟨taken, rest, rfl, rfl, hc⟩
    have hpos := List.length_pos_iff.mpr hc.nonempty
    rw [List.length_append] at hlength
    refine ⟨by omega, by omega, ?_, fun index hgt hlt => ?_⟩
    · rw [balanceFrom_of_drop hd (by omega), Nat.add_sub_cancel_left, List.take_left]
      exact hc.balanced
    · rw [balanceFrom_of_drop hd (by omega), List.take_append_of_le_length (by omega)]
      exact hc.earliest (index - first) (by omega) (by omega)

/-- A line that declares a function, and the lines behind it. -/
theorem IsFirst.exists_drop {start first : Nat} {name : List Char} (h : IsFirst lines start first name) :
    ∃ head, lines.drop first = head :: lines.drop (first + 1) ∧ declared? head = some name := by
  obtain ⟨head, hhead, hd⟩ := Option.bind_eq_some_iff.mp h.declares
  obtain ⟨hin, rfl⟩ := List.getElem?_eq_some_iff.mp hhead
  exact ⟨lines[first], List.drop_eq_getElem_cons hin, hd⟩

/-- What is reported from a line on are the functions that are longer than the limit. -/
theorem Segments.longFunctions_eq {start : Nat} {spans : List FunctionSpan} (h : Segments lines start spans)
    (limit : Int) :
    longFunctions limit (lines.drop start) =
      (spans.filter fun span => limit < span.length).map FunctionSpan.report := by
  induction h with
  | @undeclared start hn =>
    rw [longFunctions_drop (Nat.le_max_left start lines.length) fun index hi _ => hn index hi,
      List.drop_eq_nil_of_le (Nat.le_max_right start lines.length)]
    rfl
  | @unclosed start first name hf hu =>
    obtain ⟨head, hdrop, hd⟩ := hf.exists_drop
    have hopen : StaysOpen (braceBalance head) (lines.drop (first + 1)) := by
      rcases staysOpen_or_exists_closes (braceBalance head) (lines.drop (first + 1)) with
        hopen | ⟨taken, rest, htail, hcloses⟩
      · exact hopen
      · exact absurd ((isClose_iff hdrop).mpr ⟨taken, rest, htail, rfl, hcloses⟩) (hu _)
    rw [longFunctions_drop hf.le hf.earliest, hdrop, longFunctions_unclosed hd hopen]
    rfl
  | @closed start span spans hf hc _ ih =>
    obtain ⟨head, hdrop, hd⟩ := hf.exists_drop
    obtain ⟨taken, rest, htail, hlast, hcloses⟩ := (isClose_iff hdrop).mp hc
    have hlength : span.length = taken.length := by
      rw [FunctionSpan.length, hlast]
      omega
    have hrest : lines.drop (span.last + 1) = rest := by
      have happ := congrArg (List.drop taken.length) htail
      rw [List.drop_drop, List.drop_left] at happ
      rw [hlast, ← happ]
      congr 1
      omega
    rw [longFunctions_drop hf.le hf.earliest, hdrop, htail, longFunctions_closed hd hcloses, ← hlength,
      ← hrest, ih, List.filter_cons]
    by_cases hlong : limit < span.length
    · rw [if_pos hlong, if_pos (decide_eq_true hlong)]
      rfl
    · rw [if_neg hlong, if_neg (by simpa using hlong)]
      rfl

namespace Tracker

/-- Once a line was read, an open function has open braces, unless it was its first line. -/
theorem depth_pos_of_feed {limit : Int} {tracker : Tracker} {index : Int} {line : List Char}
    (ho : (tracker.feed limit index line).isOpen = true)
    (hs : (tracker.feed limit index line).start < index) : 0 < (tracker.feed limit index line).depth := by
  have hadvance : ∀ tracker : Tracker, (tracker.advance limit index line).isOpen = true →
      (tracker.advance limit index line).start < index → 0 < (tracker.advance limit index line).depth := by
    intro tracker
    unfold Tracker.advance
    dsimp only
    split
    · intro hfalse
      cases hfalse
    · next hopen =>
      intro _ hstart
      dsimp only at hstart ⊢
      omega
  unfold Tracker.feed at ho hs ⊢
  split at ho
  · next hopen =>
    rw [if_pos hopen] at hs ⊢
    exact hadvance tracker ho hs
  · next hclosed =>
    rw [if_neg hclosed] at hs ⊢
    cases hd : declared? line with
    | none =>
      rw [hd] at ho
      exact absurd ho hclosed
    | some name =>
      rw [hd] at ho hs
      exact hadvance _ ho hs

/-- The last line is read behind all others. -/
theorem run_concat (limit : Int) (tracker : Tracker) (index : Int) (lines : List (List Char))
    (line : List Char) :
    tracker.run limit index (lines ++ [line]) =
      (tracker.run limit index lines).feed limit (index + lines.length) line := by
  induction lines generalizing tracker index with
  | nil =>
    rw [List.nil_append, List.length_nil]
    simp [Tracker.run]
  | cons first lines ih =>
    have hindex : index + 1 + (lines.length : Int) = index + ((first :: lines).length : Int) := by
      rw [List.length_cons]
      omega
    rw [List.cons_append, Tracker.run, ih, hindex, Tracker.run]

/-- Behind its first line an open function has open braces, whatever was read. -/
theorem depth_pos_of_run (limit : Int) (lines : List (List Char))
    (ho : (Tracker.run limit {} 0 lines).isOpen = true)
    (hs : (Tracker.run limit {} 0 lines).start + 1 < lines.length) :
    0 < (Tracker.run limit {} 0 lines).depth := by
  rcases List.eq_nil_or_concat lines with rfl | ⟨before, line, hlines⟩
  · cases ho
  · rw [List.concat_eq_append] at hlines
    subst hlines
    rw [run_concat] at ho hs ⊢
    refine depth_pos_of_feed ho ?_
    rw [List.length_append, List.length_singleton] at hs
    omega

end Tracker

/-- The functions of a source, and what the tracker makes of them. -/
structure IsSegmentation (lines : List (List Char)) (spans : List FunctionSpan) : Prop where
  /-- They are told by the lines alone. -/
  segments : Segments lines 0 spans
  /-- There is no other way to tell them. -/
  unique : ∀ others, Segments lines 0 others → others = spans
  /-- The longer ones are reported, each with its name and its length. -/
  reported : ∀ limit,
    longFunctions limit lines = (spans.filter fun span => limit < span.length).map FunctionSpan.report
  /-- Functions share no lines. -/
  disjoint : spans.Pairwise fun span later => span.last < later.first
  /-- Behind the first line of an open function its braces are open. -/
  depth : ∀ limit, (Tracker.run limit {} 0 lines).isOpen = true →
    (Tracker.run limit {} 0 lines).start + 1 < lines.length → 0 < (Tracker.run limit {} 0 lines).depth
  /-- Reported functions have no more lines than the source. -/
  total : ∀ limit, ((longFunctions limit lines).map fun found => found.length + 1).sum ≤ (lines.length : Int)
  /-- A stricter limit reports a part of what a weaker one does. -/
  stricter : ∀ weak strict, weak ≤ strict →
    longFunctions strict lines = (longFunctions weak lines).filter fun found => strict < found.length

/-- Some functions have no more lines than all of them. -/
theorem sum_filter_le {spans : List FunctionSpan} (h : ∀ span ∈ spans, 0 ≤ span.length + 1)
    (keeps : FunctionSpan → Bool) :
    ((spans.filter keeps).map fun span => span.length + 1).sum ≤
      (spans.map fun span => span.length + 1).sum := by
  induction spans with
  | nil => exact Int.le_refl 0
  | cons span spans ih =>
    have hspan := h span List.mem_cons_self
    have hspans := ih fun each he => h each (List.mem_cons_of_mem span he)
    rw [List.map_cons, List.sum_cons, List.filter_cons]
    split
    · rw [List.map_cons, List.sum_cons]
      omega
    · omega

/-- Every function ends behind its first line. -/
theorem Segments.length_pos {start : Nat} {spans : List FunctionSpan} (h : Segments lines start spans) :
    ∀ span ∈ spans, 0 < span.length := by
  induction h with
  | undeclared _ => simp
  | unclosed _ _ => simp
  | @closed start span spans _ hc _ ih =>
    intro each he
    rcases List.mem_cons.mp he with rfl | he
    · have hlt := hc.lt
      rw [FunctionSpan.length]
      omega
    · exact ih each he

/-- Every source is cut into its functions, and the tracker reports the longer ones of them,
for every limit. -/
theorem exists_isSegmentation (lines : List (List Char)) : ∃ spans, IsSegmentation lines spans := by
  obtain ⟨spans, hs⟩ := exists_segments lines 0
  have hreported : ∀ limit, longFunctions limit lines =
      (spans.filter fun span => limit < span.length).map FunctionSpan.report := hs.longFunctions_eq
  refine ⟨spans, hs, fun others ho => ho.unique hs, hreported, hs.ordered.2,
    fun limit => Tracker.depth_pos_of_run limit lines, fun limit => ?_, fun weak strict hle => ?_⟩
  · have hsum := hs.sum_le (Nat.zero_le _)
    have hpart := sum_filter_le (fun span hm => by have := hs.length_pos span hm; omega)
      fun span => decide (limit < span.length)
    rw [hreported limit, List.map_map]
    exact Int.le_trans hpart (by simpa using hsum)
  · rw [hreported strict, hreported weak, List.filter_map, List.filter_filter]
    congr 1
    refine List.filter_congr fun span _ => ?_
    by_cases hstrict : strict < span.length
    · have hweak : weak < span.length := by omega
      simp [FunctionSpan.report, hstrict, hweak]
    · simp [FunctionSpan.report, hstrict]

end Checkup.Source
