import Checkup.Proofs.FunctionLengths

/-!
# Sources in balance

A source at top level is a row of lines that declare nothing and of functions whose
braces are balanced on their last line and on no line before it. A function of several
lines is closed there. A function of one line is not, for no function is closed on its
first line: it runs on to the next line at whose end the braces behind it are balanced.
The long functions are reported exactly, each as it stands, as long as what runs on in
this way is itself no longer than the limit.
-/

namespace Checkup.Source

/-- A function at top level, from the line that declares it to the line that balances it. -/
structure TopFunction where
  name : List Char
  head : List Char
  body : List (List Char)
  declares : declared? head = some name
  /-- Braces are open at the end of every line but the last. -/
  opened : ∀ count, count < body.length → 0 < braceBalance head + balance (body.take count)
  /-- Braces are balanced at the end of the last line. -/
  closed : braceBalance head + balance body = 0

namespace TopFunction

/-- How many lines a function ends behind its first one. -/
def length (function : TopFunction) : Int := function.body.length

/-- A function as it is to be reported. -/
def report (function : TopFunction) : FunctionLength := ⟨String.ofList function.name, function.length⟩

end TopFunction

/-- A piece of a source at top level. -/
inductive Block where
  /-- A line that declares nothing. -/
  | filler (line : List Char) (plain : declared? line = none)
  | whole (function : TopFunction)

namespace Block

/-- The lines of a piece. -/
def lines : Block → List (List Char)
  | filler line _ => [line]
  | whole function => function.head :: function.body

/-- The function of a piece that is one. -/
def function? : Block → Option TopFunction
  | filler _ _ => none
  | whole function => some function

end Block

/-- The lines of a source. -/
def source (blocks : List Block) : List (List Char) := blocks.flatMap Block.lines

/-- The functions of a source that are longer than a limit, as they are to be reported. -/
def longBlocks (limit : Int) (blocks : List Block) : List FunctionLength :=
  ((blocks.filterMap Block.function?).filter fun function => limit < function.length).map TopFunction.report

/-- The names of the functions of a source. -/
def functionNames (blocks : List Block) : List (List Char) :=
  (blocks.filterMap Block.function?).map TopFunction.name

/-- Functions of one line do no harm to what is reported. -/
inductive Settles (limit : Int) : List Block → Prop
  | nil : Settles limit []
  | filler {line : List Char} {plain : declared? line = none} {blocks : List Block}
    (hs : Settles limit blocks) : Settles limit (.filler line plain :: blocks)
  /-- A function of several lines is closed on its last. -/
  | function {function : TopFunction} {blocks : List Block} (hb : function.body ≠ [])
    (hs : Settles limit blocks) : Settles limit (.whole function :: blocks)
  /-- A function of one line runs on over the next pieces, not beyond the limit. -/
  | short {function : TopFunction} {taken blocks : List Block} (hb : function.body = [])
    (hc : Closes 0 (source taken)) (hl : ((source taken).length : Int) ≤ limit) (hs : Settles limit blocks) :
    Settles limit (.whole function :: (taken ++ blocks))
  /-- A function of one line runs on to the end, and hides no long function. -/
  | last {function : TopFunction} {blocks : List Block} (hb : function.body = [])
    (ho : StaysOpen 0 (source blocks)) (hl : longBlocks limit blocks = []) :
    Settles limit (.whole function :: blocks)

@[simp] theorem source_cons (block : Block) (blocks : List Block) :
    source (block :: blocks) = block.lines ++ source blocks := by
  simp [source]

@[simp] theorem source_append (blocks more : List Block) :
    source (blocks ++ more) = source blocks ++ source more := by
  simp [source]

@[simp] theorem longBlocks_append (limit : Int) (blocks more : List Block) :
    longBlocks limit (blocks ++ more) = longBlocks limit blocks ++ longBlocks limit more := by
  simp [longBlocks]

@[simp] theorem functionNames_append (blocks more : List Block) :
    functionNames (blocks ++ more) = functionNames blocks ++ functionNames more := by
  simp [functionNames]

@[simp] theorem longBlocks_filler (limit : Int) {line : List Char} (plain : declared? line = none)
    (blocks : List Block) : longBlocks limit (.filler line plain :: blocks) = longBlocks limit blocks := rfl

/-- A function is among the long ones if it is long itself. -/
theorem longBlocks_whole (limit : Int) (function : TopFunction) (blocks : List Block) :
    longBlocks limit (.whole function :: blocks) =
      (if limit < function.length then [function.report] else []) ++ longBlocks limit blocks := by
  have hfirst : (Block.whole function :: blocks).filterMap Block.function? =
      function :: blocks.filterMap Block.function? := rfl
  unfold longBlocks
  rw [hfirst, List.filter_cons]
  by_cases hlong : limit < function.length
  · rw [if_pos hlong, if_pos (decide_eq_true hlong)]
    rfl
  · rw [if_neg hlong, if_neg (by simpa using hlong)]
    rfl

/-- A function of one line is not among the long ones. -/
theorem longBlocks_short {limit : Int} (h0 : 0 ≤ limit) {function : TopFunction} (hb : function.body = [])
    (blocks : List Block) : longBlocks limit (.whole function :: blocks) = longBlocks limit blocks := by
  have hshort : ¬limit < function.length := by
    rw [TopFunction.length, hb, List.length_nil]
    omega
  rw [longBlocks_whole, if_neg hshort, List.nil_append]

/-- A function of several lines is closed by those behind its first. -/
theorem TopFunction.closes (function : TopFunction) (hb : function.body ≠ []) :
    Closes (braceBalance function.head) function.body where
  nonempty := hb
  balanced := Int.le_of_eq function.closed
  earliest count _ hlt := function.opened count hlt

/-- A function of one line leaves no braces open. -/
theorem TopFunction.braceBalance_head (function : TopFunction) (hb : function.body = []) :
    braceBalance function.head = 0 := by
  have hclosed := function.closed
  rw [hb, balance_nil] at hclosed
  omega

/-- A function of several lines is reported if it is long, and no line behind it is lost. -/
theorem longFunctions_whole {limit : Int} {function : TopFunction} (hb : function.body ≠ [])
    (blocks : List Block) :
    longFunctions limit (source (.whole function :: blocks)) =
      (if limit < function.length then [function.report] else []) ++ longFunctions limit (source blocks) := by
  rw [source_cons, Block.lines, List.cons_append, longFunctions_closed function.declares (function.closes hb)]
  rfl

/-- A function of one line takes the pieces that close it. -/
theorem longFunctions_short {limit : Int} {function : TopFunction} (hb : function.body = [])
    {taken : List Block} (hc : Closes 0 (source taken)) (blocks : List Block) :
    longFunctions limit (source (.whole function :: (taken ++ blocks))) =
      (if limit < (source taken).length then
        [⟨String.ofList function.name, (source taken).length⟩] else []) ++
        longFunctions limit (source blocks) := by
  rw [← function.braceBalance_head hb] at hc
  rw [source_cons, source_append, Block.lines, hb, List.cons_append, List.nil_append,
    longFunctions_closed function.declares hc]

/-- A function of one line that nothing closes hides all that comes after it. -/
theorem longFunctions_last {limit : Int} {function : TopFunction} (hb : function.body = [])
    {blocks : List Block} (ho : StaysOpen 0 (source blocks)) :
    longFunctions limit (source (.whole function :: blocks)) = [] := by
  rw [← function.braceBalance_head hb] at ho
  rw [source_cons, Block.lines, hb, List.cons_append, List.nil_append,
    longFunctions_unclosed function.declares ho]

/-- No function is longer than a source that it is part of. -/
theorem longBlocks_eq_nil {limit : Int} {blocks : List Block} (hl : ((source blocks).length : Int) ≤ limit) :
    longBlocks limit blocks = [] := by
  induction blocks with
  | nil => rfl
  | cons block blocks ih =>
    rw [source_cons, List.length_append] at hl
    have hblocks := ih (by omega)
    cases block with
    | filler line plain => exact hblocks
    | whole function =>
      rw [Block.lines, List.length_cons] at hl
      rw [longBlocks_whole, hblocks, if_neg (by rw [TopFunction.length]; omega), List.append_nil]

/-- Braces that are open before a function are closed at its end or behind it, for they are
open within. -/
theorem TopFunction.exists_append_of_closes (function : TopFunction) {depth : Int} (h0 : 0 ≤ depth)
    {taken rest lines : List (List Char)} (hc : Closes depth taken)
    (hs : function.head :: (function.body ++ lines) = taken ++ rest) :
    ∃ more, taken = function.head :: (function.body ++ more) ∧ lines = more ++ rest := by
  rcases List.cons_eq_append_iff.mp hs with ⟨htaken, -⟩ | ⟨behind, rfl, hbehind⟩
  · exact absurd htaken hc.nonempty
  · rcases List.append_eq_append_iff.mp hbehind with ⟨more, rfl, hlines⟩ | ⟨cut, hbody, hrest⟩
    · exact ⟨more, rfl, hlines⟩
    · -- were it closed at a line before the last, braces would be open there
      rcases List.eq_nil_or_concat cut with rfl | ⟨front, last, rfl⟩
      · exact ⟨[], by rw [hbody, List.append_nil, List.append_nil], hrest.symm⟩
      · have hlt : behind.length < function.body.length := by
          rw [hbody]
          simp
        have hopen := function.opened behind.length hlt
        have hbalanced := hc.balanced
        rw [hbody, List.take_left] at hopen
        rw [balance_cons] at hbalanced
        omega

/-- What a function of one line runs on over is whole pieces. -/
theorem exists_source_of_closes {depth : Int} (h0 : 0 ≤ depth) {blocks : List Block}
    {taken rest : List (List Char)} (hc : Closes depth taken) (hs : source blocks = taken ++ rest) :
    ∃ front back, blocks = front ++ back ∧ source front = taken ∧ source back = rest := by
  induction blocks generalizing depth taken with
  | nil =>
    obtain ⟨htaken, -⟩ := List.append_eq_nil_iff.mp hs.symm
    exact absurd htaken hc.nonempty
  | cons block blocks ih =>
    obtain ⟨more, htaken, hmore⟩ : ∃ more, taken = block.lines ++ more ∧ source blocks = more ++ rest := by
      cases block with
      | filler line plain =>
        rcases List.cons_eq_append_iff.mp hs with ⟨htaken, -⟩ | ⟨more, htaken, hmore⟩
        · exact absurd htaken hc.nonempty
        · exact ⟨more, htaken, hmore⟩
      | whole function =>
        rw [source_cons, Block.lines, List.cons_append] at hs
        exact function.exists_append_of_closes h0 hc hs
    rcases List.eq_nil_or_concat more with rfl | hconcat
    · exact ⟨[block], blocks, rfl, by simp [htaken, source], hmore⟩
    · have hne : more ≠ [] := by
        obtain ⟨lines, last, rfl⟩ := hconcat
        simp
      have hdepth : 0 ≤ depth + balance block.lines := by
        cases block with
        | filler line plain =>
          have hline : Closes depth (line :: more) := by rwa [htaken] at hc
          have hopen := ((closes_cons_iff hne).mp hline).1
          rw [Block.lines, balance_cons, balance_nil]
          omega
        | whole function =>
          have hclosed := function.closed
          rw [Block.lines, balance_cons]
          omega
      obtain ⟨front, back, rfl, rfl, rfl⟩ := ih hdepth (Closes.of_append hne (htaken ▸ hc)) hmore
      exact ⟨block :: front, back, rfl, by rw [source_cons, htaken], rfl⟩

/-- The long functions are among all. -/
theorem name_mem_of_mem_longBlocks {limit : Int} {blocks : List Block} {found : FunctionLength}
    (h : found ∈ longBlocks limit blocks) :
    ∃ function ∈ blocks.filterMap Block.function?, String.ofList function.name = found.name := by
  obtain ⟨function, hfunction, rfl⟩ := List.mem_map.mp h
  exact ⟨function, (List.mem_filter.mp hfunction).1, rfl⟩

/-- Where the functions of one line do no harm, exactly the long functions are reported. -/
theorem longFunctions_of_settles {limit : Int} (h0 : 0 ≤ limit) {blocks : List Block}
    (hs : Settles limit blocks) : longFunctions limit (source blocks) = longBlocks limit blocks := by
  induction hs with
  | nil => rfl
  | @filler line plain blocks _ ih =>
    rw [source_cons, longBlocks_filler, ← ih]
    exact longFunctions_skip plain _
  | @function function blocks hb _ ih =>
    rw [longBlocks_whole, ← ih, longFunctions_whole hb]
  | @short function taken blocks hb hc hl _ ih =>
    rw [longFunctions_short hb hc, longBlocks_short h0 hb, longBlocks_append, longBlocks_eq_nil hl,
      if_neg (by omega), ih]
  | @last function blocks hb ho hl =>
    rw [longFunctions_last hb ho, longBlocks_short h0 hb, hl]

/-- Where exactly the long functions are reported and all are named differently, the functions
of one line do no harm. -/
theorem settles_of_longFunctions {limit : Int} (h0 : 0 ≤ limit) :
    ∀ {blocks : List Block}, (functionNames blocks).Nodup →
      longFunctions limit (source blocks) = longBlocks limit blocks → Settles limit blocks
  | [], _, _ => .nil
  | .filler line plain :: blocks, hn, h => by
    rw [source_cons, longBlocks_filler] at h
    have hskip : longFunctions limit ([line] ++ source blocks) = longFunctions limit (source blocks) :=
      longFunctions_skip plain _
    exact .filler (settles_of_longFunctions h0 hn (hskip.symm.trans h))
  | .whole function :: blocks, hn, h => by
    obtain ⟨hname, hnames⟩ := List.nodup_cons.mp hn
    by_cases hb : function.body = []
    · rw [longBlocks_short h0 hb] at h
      rcases staysOpen_or_exists_closes 0 (source blocks) with hopen | ⟨taken, rest, hsource, hcloses⟩
      · rw [longFunctions_last hb hopen] at h
        exact .last hb hopen h.symm
      · obtain ⟨front, back, rfl, rfl, rfl⟩ := exists_source_of_closes (Int.le_refl 0) hcloses hsource
        rw [longFunctions_short hb hcloses] at h
        by_cases hlong : limit < (source front).length
        · rw [if_pos hlong] at h
          have hmem : ⟨String.ofList function.name, (source front).length⟩ ∈ longBlocks limit (front ++ back) := by
            rw [← h]
            exact List.mem_append_left _ (List.mem_singleton.mpr rfl)
          obtain ⟨other, hother, hsame⟩ := name_mem_of_mem_longBlocks hmem
          refine absurd (List.mem_map.mpr ⟨other, hother, ?_⟩) hname
          exact String.ofList_injective hsame
        · rw [if_neg hlong, List.nil_append, longBlocks_append, longBlocks_eq_nil (by omega), List.nil_append] at h
          have hback : (functionNames back).Nodup := by
            have happend : (functionNames front ++ functionNames back).Nodup :=
              functionNames_append front back ▸ hnames
            exact (List.nodup_append.mp happend).2.1
          exact .short hb hcloses (by omega) (settles_of_longFunctions h0 hback h)
    · rw [longBlocks_whole, longFunctions_whole hb] at h
      exact .function hb (settles_of_longFunctions h0 hnames (List.append_cancel_left h))
  termination_by blocks => blocks.length

/-- In a source in balance exactly the long functions are reported, each with its own name
and its own length, if no function of one line runs on beyond the limit or over them, and,
where the functions are named differently, only then. -/
theorem longFunctions_source {limit : Int} (h0 : 0 ≤ limit) (blocks : List Block) :
    (Settles limit blocks → longFunctions limit (source blocks) = longBlocks limit blocks) ∧
    ((functionNames blocks).Nodup →
      longFunctions limit (source blocks) = longBlocks limit blocks → Settles limit blocks) :=
  ⟨longFunctions_of_settles h0, settles_of_longFunctions h0⟩

/-- A function of one line. -/
def shortFunction : TopFunction where
  name := "a".toList
  head := "function a() \x7b\x7d".toList
  body := []
  declares := by decide
  opened count hlt := by cases hlt
  closed := by decide

/-- A function of three lines. -/
def longFunction : TopFunction where
  name := "b".toList
  head := "function b() \x7b".toList
  body := ["  x();".toList, "\x7d".toList]
  declares := by decide
  opened := by decide
  closed := by decide

/-- With an empty line between them the longer function is reported behind the one of one line. -/
theorem longFunctions_source_empty_line :
    let blocks := [.whole shortFunction, .filler [] rfl, .whole longFunction]
    Settles 1 blocks ∧ longFunctions 1 (source blocks) = [⟨"b", 2⟩] := by
  intro blocks
  have hcloses : Closes 0 (source [.filler [] rfl]) := closes_singleton (by decide)
  have hlong : Settles 1 [.whole longFunction] := .function (by decide) .nil
  have hsettles : Settles 1 blocks := .short rfl hcloses (by decide) hlong
  refine ⟨hsettles, ((longFunctions_source (by decide) blocks).1 hsettles).trans ?_⟩
  decide

/-- Right behind a function of one line another is not seen, and its lines are taken for those
of the first. -/
theorem longFunctions_adjacent :
    let blocks := [.whole shortFunction, .whole longFunction]
    longFunctions 1 (source blocks) = [⟨"a", 3⟩] ∧ longBlocks 1 blocks = [⟨"b", 2⟩] := by
  decide

end Checkup.Source
