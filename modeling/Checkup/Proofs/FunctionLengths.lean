import Checkup.Source.FunctionSpan

/-!
# Where functions end

The lines of a source are cut at the functions that are seen: a line that declares
nothing is passed over, a function takes the lines up to the first at whose end its
braces are balanced, and what comes after it is looked at as if it stood alone. These
three equations say all that the tracker does.
-/

namespace Checkup.Source

/-- Opening braces less closing ones over some lines. -/
def balance : List (List Char) → Int
  | [] => 0
  | line :: lines => braceBalance line + balance lines

@[simp] theorem balance_nil : balance [] = 0 := rfl

@[simp] theorem balance_cons (line : List Char) (lines : List (List Char)) :
    balance (line :: lines) = braceBalance line + balance lines := rfl

/-- Braces that are open before some lines stay open over all of them. -/
def StaysOpen (depth : Int) (lines : List (List Char)) : Prop :=
  ∀ count, 0 < count → count ≤ lines.length → 0 < depth + balance (lines.take count)

/-- Braces that are open before some lines are balanced, or more than that, at the end of
the last of them and of none before. -/
structure Closes (depth : Int) (lines : List (List Char)) : Prop where
  nonempty : lines ≠ []
  balanced : depth + balance lines ≤ 0
  earliest : ∀ count, 0 < count → count < lines.length → 0 < depth + balance (lines.take count)

/-- Lines that follow an open line keep its braces open. -/
theorem staysOpen_cons_iff {depth : Int} {line : List Char} {lines : List (List Char)} :
    StaysOpen depth (line :: lines) ↔
      0 < depth + braceBalance line ∧ StaysOpen (depth + braceBalance line) lines := by
  constructor
  · intro h
    refine ⟨by simpa using h 1 (by omega) (by simp), fun count hpos hle => ?_⟩
    have hmore := h (count + 1) (by omega) (by simp; omega)
    rw [List.take_succ_cons, balance_cons] at hmore
    omega
  · rintro ⟨hline, hlines⟩ count hpos hle
    obtain ⟨count, rfl⟩ := Nat.exists_eq_succ_of_ne_zero (Nat.ne_of_gt hpos)
    rw [List.take_succ_cons, balance_cons]
    rcases Nat.eq_zero_or_pos count with rfl | hcount
    · simpa using hline
    · have hmore := hlines count hcount (by simp at hle; omega)
      omega

/-- One line closes what it balances. -/
theorem closes_singleton {depth : Int} {line : List Char} (h : depth + braceBalance line ≤ 0) :
    Closes depth [line] where
  nonempty := List.cons_ne_nil _ _
  balanced := by simpa using h
  earliest count hpos hlt := by simp at hlt; omega

/-- A line that leaves braces open before lines that close them. -/
theorem closes_cons_iff {depth : Int} {line : List Char} {lines : List (List Char)} (hne : lines ≠ []) :
    Closes depth (line :: lines) ↔
      0 < depth + braceBalance line ∧ Closes (depth + braceBalance line) lines := by
  have hlen := List.length_pos_iff.mpr hne
  constructor
  · rintro ⟨-, hbalanced, hearliest⟩
    refine ⟨by simpa using hearliest 1 (by omega) (by simp; omega), hne, ?_, fun count hpos hlt => ?_⟩
    · rw [balance_cons] at hbalanced
      omega
    · have hmore := hearliest (count + 1) (by omega) (by simp; omega)
      rw [List.take_succ_cons, balance_cons] at hmore
      omega
  · rintro ⟨hline, -, hbalanced, hearliest⟩
    refine ⟨List.cons_ne_nil _ _, ?_, fun count hpos hlt => ?_⟩
    · rw [balance_cons]
      omega
    · obtain ⟨count, rfl⟩ := Nat.exists_eq_succ_of_ne_zero (Nat.ne_of_gt hpos)
      rw [List.take_succ_cons, balance_cons]
      rcases Nat.eq_zero_or_pos count with rfl | hcount
      · simpa using hline
      · have hmore := hearliest count hcount (by simp at hlt; omega)
        omega

/-- What closes the braces that are open before some lines closes those that are open behind
the first of them. -/
theorem Closes.of_append {depth : Int} {lines more : List (List Char)} (hne : more ≠ [])
    (h : Closes depth (lines ++ more)) : Closes (depth + balance lines) more := by
  induction lines generalizing depth with
  | nil => simpa using h
  | cons line lines ih =>
    obtain ⟨-, hlines⟩ := (closes_cons_iff (List.append_ne_nil_of_right_ne_nil lines hne)).mp h
    have hmore := ih hlines
    rwa [Int.add_assoc, ← balance_cons] at hmore

/-- Braces stay open to the end, or some lines close them. -/
theorem staysOpen_or_exists_closes (depth : Int) (lines : List (List Char)) :
    StaysOpen depth lines ∨ ∃ taken rest, lines = taken ++ rest ∧ Closes depth taken := by
  induction lines generalizing depth with
  | nil => exact .inl fun count hpos hle => by simp at hle; omega
  | cons line lines ih =>
    by_cases hline : depth + braceBalance line ≤ 0
    · exact .inr ⟨[line], lines, rfl, closes_singleton hline⟩
    · rcases ih (depth + braceBalance line) with hopen | ⟨taken, rest, rfl, hcloses⟩
      · exact .inl (staysOpen_cons_iff.mpr ⟨by omega, hopen⟩)
      · exact .inr ⟨line :: taken, rest, rfl, (closes_cons_iff hcloses.nonempty).mpr ⟨by omega, hcloses⟩⟩

namespace Tracker

variable {limit : Int}

/-- Two trackers that differ in what was found before and in where lines are counted from. -/
structure Shifted (found : List FunctionLength) (offset : Int) (tracker other : Tracker) : Prop where
  isOpen : tracker.isOpen = other.isOpen
  long : tracker.long = found ++ other.long
  body : other.isOpen = true →
    tracker.name = other.name ∧ tracker.start = other.start + offset ∧ tracker.depth = other.depth

/-- Counting the braces of a line keeps trackers apart by the same. -/
theorem Shifted.advance {found : List FunctionLength} {offset : Int} {tracker other : Tracker}
    (h : Shifted found offset tracker other) (ho : other.isOpen = true) (limit index : Int)
    (line : List Char) :
    Shifted found offset (tracker.advance limit (index + offset) line) (other.advance limit index line) := by
  obtain ⟨hname, hstart, hdepth⟩ := h.body ho
  have hlength : index + offset - (other.start + offset) = index - other.start := by omega
  unfold Tracker.advance
  dsimp only
  rw [hname, hstart, hdepth, h.long, hlength]
  by_cases hclosed : other.depth + braceBalance line ≤ 0 ∧ other.start < index
  · rw [if_pos hclosed, if_pos ⟨hclosed.1, by omega⟩]
    refine ⟨rfl, ?_, fun hfalse => by cases hfalse⟩
    dsimp only
    split
    · rw [List.append_assoc]
    · rfl
  · rw [if_neg hclosed, if_neg fun hc => hclosed ⟨hc.1, by omega⟩]
    exact ⟨h.isOpen, rfl, fun _ => ⟨rfl, rfl, rfl⟩⟩

/-- Reading a line keeps trackers apart by the same. -/
theorem Shifted.feed {found : List FunctionLength} {offset : Int} {tracker other : Tracker}
    (h : Shifted found offset tracker other) (limit index : Int) (line : List Char) :
    Shifted found offset (tracker.feed limit (index + offset) line) (other.feed limit index line) := by
  unfold Tracker.feed
  rw [h.isOpen]
  by_cases ho : other.isOpen = true
  · rw [if_pos ho, if_pos ho]
    exact h.advance ho limit index line
  · rw [if_neg ho, if_neg ho]
    cases declared? line with
    | none => exact h
    | some name =>
      have hopened : Shifted found offset (tracker.openAt (index + offset) name) (other.openAt index name) :=
        ⟨rfl, h.long, fun _ => ⟨rfl, rfl, rfl⟩⟩
      exact hopened.advance rfl limit index line

/-- Reading lines keeps trackers apart by the same. -/
theorem Shifted.run {found : List FunctionLength} {offset : Int} {tracker other : Tracker}
    (h : Shifted found offset tracker other) (limit index : Int) (lines : List (List Char)) :
    Shifted found offset (tracker.run limit (index + offset) lines) (other.run limit index lines) := by
  induction lines generalizing tracker other index with
  | nil => exact h
  | cons line lines ih =>
    have hnext := ih (h.feed limit index line) (index + 1)
    have hindex : index + 1 + offset = index + offset + 1 := by omega
    rw [hindex] at hnext
    exact hnext

/-- What a closed tracker finds does not depend on what it read before. -/
theorem long_run_of_closed {tracker : Tracker} (hc : tracker.isOpen = false) (index : Int)
    (lines : List (List Char)) :
    (tracker.run limit index lines).long = tracker.long ++ longFunctions limit lines := by
  have hshifted : Shifted tracker.long index tracker {} :=
    ⟨hc, by rw [List.append_nil], fun hopen => by cases hopen⟩
  have hrun := (hshifted.run limit 0 lines).long
  rw [Int.zero_add] at hrun
  exact hrun

/-- A line that keeps the braces open only changes how deep they are. -/
theorem feed_of_pos {tracker : Tracker} (ho : tracker.isOpen = true) {line : List Char}
    (h : 0 < tracker.depth + braceBalance line) (index : Int) :
    tracker.feed limit index line = { tracker with depth := tracker.depth + braceBalance line } := by
  unfold Tracker.feed Tracker.advance
  rw [if_pos ho]
  dsimp only
  rw [if_neg (by omega)]

/-- An open tracker finds nothing in lines that keep its braces open. -/
theorem long_run_of_staysOpen {tracker : Tracker} (ho : tracker.isOpen = true) {index : Int}
    {lines : List (List Char)} (h : StaysOpen tracker.depth lines) :
    (tracker.run limit index lines).long = tracker.long := by
  induction lines generalizing tracker index with
  | nil => rfl
  | cons line lines ih =>
    obtain ⟨hline, hlines⟩ := staysOpen_cons_iff.mp h
    have hopen : ({ tracker with depth := tracker.depth + braceBalance line } : Tracker).isOpen = true := ho
    rw [Tracker.run, feed_of_pos ho hline]
    exact ih hopen hlines

/-- An open tracker finds its function in lines that close it, and goes on behind them. -/
theorem long_run_of_closes {tracker : Tracker} (ho : tracker.isOpen = true) {index : Int}
    (hi : tracker.start < index) {taken : List (List Char)} (h : Closes tracker.depth taken)
    (rest : List (List Char)) :
    (tracker.run limit index (taken ++ rest)).long =
      tracker.long ++
        (if limit < index - tracker.start + taken.length - 1 then
          [⟨tracker.name, index - tracker.start + taken.length - 1⟩] else []) ++
        longFunctions limit rest := by
  induction taken generalizing tracker index with
  | nil => exact absurd rfl h.nonempty
  | cons line taken ih =>
    rw [List.cons_append, Tracker.run]
    rcases List.eq_nil_or_concat taken with rfl | hmore
    · have hbalanced : tracker.depth + braceBalance line ≤ 0 := by simpa using h.balanced
      have hlength : index - tracker.start + ([line].length : Int) - 1 = index - tracker.start := by
        simp only [List.length_singleton]
        omega
      have hfeed : tracker.feed limit index line =
          { tracker with
            isOpen := false
            depth := tracker.depth + braceBalance line
            long := if limit < index - tracker.start then
              tracker.long ++ [⟨tracker.name, index - tracker.start⟩] else tracker.long } := by
        unfold Tracker.feed Tracker.advance
        rw [if_pos ho]
        dsimp only
        rw [if_pos ⟨hbalanced, hi⟩]
      rw [hfeed, long_run_of_closed rfl, hlength, List.nil_append]
      dsimp only
      split
      · rfl
      · rw [List.append_nil]
    · have hne : taken ≠ [] := by
        obtain ⟨lines, last, rfl⟩ := hmore
        simp
      obtain ⟨hline, hcloses⟩ := (closes_cons_iff hne).mp h
      have hopen : ({ tracker with depth := tracker.depth + braceBalance line } : Tracker).isOpen = true := ho
      have hlength : index - tracker.start + ((line :: taken).length : Int) - 1 =
          index + 1 - tracker.start + (taken.length : Int) - 1 := by
        rw [List.length_cons]
        omega
      rw [feed_of_pos ho hline, hlength]
      exact ih hopen (Int.lt_add_one_of_le (Int.le_of_lt hi)) hcloses

end Tracker

/-- A line that declares a function opens it, and counts its own braces. -/
theorem long_declared {limit : Int} {head : List Char} {name : List Char} (hd : declared? head = some name)
    (lines : List (List Char)) :
    longFunctions limit (head :: lines) =
      (Tracker.run limit
        { isOpen := true, name := String.ofList name, depth := braceBalance head } 1 lines).long := by
  have hfeed : Tracker.feed limit {} 0 head =
      { isOpen := true, name := String.ofList name, depth := braceBalance head } := by
    unfold Tracker.feed
    rw [if_neg Bool.false_ne_true, hd]
    unfold Tracker.openAt Tracker.advance
    dsimp only
    rw [if_neg (by omega), Int.zero_add]
  unfold longFunctions
  rw [Tracker.run, hfeed]
  rfl

/-- A line that declares nothing is passed over. -/
theorem longFunctions_skip {limit : Int} {line : List Char} (hd : declared? line = none)
    (lines : List (List Char)) : longFunctions limit (line :: lines) = longFunctions limit lines := by
  have hfeed : Tracker.feed limit {} 0 line = {} := by
    unfold Tracker.feed
    rw [if_neg Bool.false_ne_true, hd]
  unfold longFunctions
  rw [Tracker.run, hfeed]
  exact Tracker.long_run_of_closed rfl _ _

/-- A function takes the lines that close it, and is long if they are more than the limit. -/
theorem longFunctions_closed {limit : Int} {head : List Char} {name : List Char}
    (hd : declared? head = some name) {taken : List (List Char)} (hc : Closes (braceBalance head) taken)
    (rest : List (List Char)) :
    longFunctions limit (head :: (taken ++ rest)) =
      (if limit < taken.length then [⟨String.ofList name, taken.length⟩] else []) ++
        longFunctions limit rest := by
  have hlength : (1 : Int) - 0 + taken.length - 1 = taken.length := by omega
  rw [long_declared hd, Tracker.long_run_of_closes rfl Int.zero_lt_one hc, hlength]
  rfl

/-- A function that nothing closes is not long, and hides all that comes after it. -/
theorem longFunctions_unclosed {limit : Int} {head : List Char} {name : List Char}
    (hd : declared? head = some name) {lines : List (List Char)}
    (ho : StaysOpen (braceBalance head) lines) : longFunctions limit (head :: lines) = [] := by
  rw [long_declared hd, Tracker.long_run_of_staysOpen rfl ho]

end Checkup.Source
