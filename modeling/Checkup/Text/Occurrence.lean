import Checkup.Text.Stretch

/-!
# Occurrences

Looking for a mark inside a text: whether it occurs, what a recogniser finds
at each position, and the parts between the marks.
-/

namespace Checkup.Text

variable {α : Type}

/-- The mark occurs somewhere in the text. -/
def occurs (mark : List Char) : List Char → Bool
  | [] => mark.isEmpty
  | c :: rest => mark.isPrefixOf (c :: rest) || occurs mark rest

/-- A recogniser looks at the character before a position and at the text from there. -/
abbrev Recogniser (α : Type) := Option Char → List Char → Option α

/-- What the recogniser finds, position by position. It must not find anything
inside one of its own findings, so the findings are those of a search that
goes on after each. -/
def sightings (recognise : Recogniser α) : Option Char → List Char → List α
  | _, [] => []
  | before, c :: rest =>
    (recognise before (c :: rest)).toList ++ sightings recognise (some c) rest

/-- The first thing that the recogniser finds. -/
def firstSighting (recognise : Recogniser α) : Option Char → List Char → Option α
  | _, [] => none
  | before, c :: rest =>
    match recognise before (c :: rest) with
    | some found => some found
    | none => firstSighting recognise (some c) rest

/-- Recognise one fixed mark, wherever it stands, and give what follows it. -/
def following (mark : List Char) : Recogniser (List Char) := fun _ text => after? mark text

/-- The text up to the next mark, or all of it. -/
def upTo (mark : List Char) : List Char → List Char
  | [] => []
  | c :: rest => if mark.isPrefixOf (c :: rest) then [] else c :: upTo mark rest

/-- The parts that follow each mark, up to the next. -/
def partsAfter (mark text : List Char) : List (List Char) :=
  (sightings (following mark) none text).map (upTo mark)

/-- The text before the first `c` and the text after it. -/
def cutFirst? (c : Char) : List Char → Option (List Char × List Char)
  | [] => none
  | d :: rest =>
    if d = c then some ([], rest)
    else (cutFirst? c rest).map fun (left, right) => (d :: left, right)

/-- The text before the last `c` and the text after it. -/
def cutLast? (c : Char) : List Char → Option (List Char × List Char)
  | [] => none
  | d :: rest =>
    match cutLast? c rest with
    | some (left, right) => some (d :: left, right)
    | none => if d = c then some ([], rest) else none

/-- Texts with a separator between each two. -/
def join (separator : List Char) : List (List Char) → List Char
  | [] => []
  | [text] => text
  | text :: texts => text ++ separator ++ join separator texts

/-- A first finding is the head of all findings. -/
theorem firstSighting_eq_head? (recognise : Recogniser α) (before : Option Char) (text : List Char) :
    firstSighting recognise before text = (sightings recognise before text).head? := by
  induction text generalizing before with
  | nil => rfl
  | cons c rest ih =>
    unfold firstSighting sightings
    cases recognise before (c :: rest) <;> simp [ih]

/-- The two parts around the first `c` make up the text. -/
theorem cutFirst?_eq_some {c : Char} {text left right : List Char} :
    cutFirst? c text = some (left, right) ↔ text = left ++ c :: right ∧ c ∉ left := by
  induction text generalizing left with
  | nil => simp [cutFirst?]
  | cons d rest ih =>
    unfold cutFirst?
    split
    · next h =>
      subst h
      cases left with
      | nil => simp
      | cons e left => simp; intro h; simp [h]
    · next h =>
      cases left with
      | nil => simp [h]
      | cons e left =>
        simp only [Option.map_eq_some_iff, Prod.mk.injEq, Prod.exists, List.cons_append,
          List.cons.injEq, List.mem_cons, not_or]
        constructor
        · rintro ⟨a, b, hab, ⟨rfl, rfl⟩, rfl⟩
          obtain ⟨h1, h2⟩ := ih.mp hab
          exact ⟨⟨rfl, h1⟩, Ne.symm h, h2⟩
        · rintro ⟨⟨rfl, h1⟩, _, h2⟩
          exact ⟨left, right, ih.mpr ⟨h1, h2⟩, ⟨rfl, rfl⟩, rfl⟩

/-- No last `c` is found exactly where there is none. -/
theorem cutLast?_eq_none {c : Char} {text : List Char} : cutLast? c text = none ↔ c ∉ text := by
  induction text with
  | nil => simp [cutLast?]
  | cons d rest ih =>
    unfold cutLast?
    cases h : cutLast? c rest with
    | some parts =>
      have hmem : c ∈ rest := Classical.byContradiction fun hn => by simp [ih.mpr hn] at h
      simp [hmem]
    | none => simp [ih.mp h, eq_comm]

/-- The two parts around the last `c` make up the text. -/
theorem cutLast?_eq_some {c : Char} {text left right : List Char} :
    cutLast? c text = some (left, right) ↔ text = left ++ c :: right ∧ c ∉ right := by
  induction text generalizing left right with
  | nil => simp [cutLast?]
  | cons d rest ih =>
    unfold cutLast?
    cases h : cutLast? c rest with
    | some parts =>
      obtain ⟨l, r⟩ := parts
      obtain ⟨hrest, hr⟩ := ih.mp h
      simp only [Option.some.injEq, Prod.mk.injEq]
      constructor
      · rintro ⟨rfl, rfl⟩
        exact ⟨by simp [hrest], hr⟩
      · rintro ⟨htext, hn⟩
        cases left with
        | nil =>
          simp only [List.nil_append, List.cons.injEq] at htext
          exact absurd (htext.2 ▸ hrest ▸ by simp : c ∈ right) hn
        | cons e left =>
          simp only [List.cons_append, List.cons.injEq] at htext
          have hsame := h.symm.trans (ih.mpr ⟨htext.2, hn⟩)
          simp only [Option.some.injEq, Prod.mk.injEq] at hsame
          exact ⟨by rw [htext.1, hsame.1], hsame.2⟩
    | none =>
      have hn := cutLast?_eq_none.mp h
      cases left with
      | nil =>
        simp only [List.nil_append, List.cons.injEq]
        split
        · next hd =>
          subst hd
          simp only [Option.some.injEq, Prod.mk.injEq, true_and]
          exact ⟨fun he => ⟨he, he ▸ hn⟩, fun he => he.1⟩
        · next hd => simp [hd]
      | cons e left =>
        have hne : ¬ rest = left ++ c :: right := fun he => hn (he ▸ by simp)
        simp [hne]

end Checkup.Text
