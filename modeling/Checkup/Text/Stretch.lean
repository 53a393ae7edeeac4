/-!
# Stretches of a text

A pattern that may stop in several places is read by a stretch of admitted
characters and a continuation. `shortest` extends the stretch only while the
continuation fails; `longest` gives characters back only while it fails. Both
try every length at most once, so neither needs a bound.
-/

namespace Checkup.Text

variable {α : Type}

/-- The shortest non-empty stretch of admitted characters after which `next`
succeeds, with what `next` found. -/
def shortest (admits : Char → Bool) (next : List Char → Option α) :
    List Char → Option (List Char × α)
  | [] => none
  | c :: rest =>
    if admits c then
      match next rest with
      | some found => some ([c], found)
      | none =>
        match shortest admits next rest with
        | some (stretch, found) => some (c :: stretch, found)
        | none => none
    else none

/-- The longest stretch of admitted characters, possibly empty, after which
`next` succeeds. -/
def longest (admits : Char → Bool) (next : List Char → Option α) :
    List Char → Option (List Char × α)
  | [] => (next []).map fun found => ([], found)
  | c :: rest =>
    if admits c then
      match longest admits next rest with
      | some (stretch, found) => some (c :: stretch, found)
      | none => (next (c :: rest)).map fun found => ([], found)
    else (next (c :: rest)).map fun found => ([], found)

/-- The longest non-empty stretch of admitted characters after which `next`
succeeds. -/
def longestSome (admits : Char → Bool) (next : List Char → Option α) :
    List Char → Option (List Char × α)
  | [] => none
  | c :: rest =>
    if admits c then (longest admits next rest).map fun (stretch, found) => (c :: stretch, found)
    else none

/-- The maximal run of admitted characters, which must not be empty, and the rest. -/
def run? (admits : Char → Bool) (text : List Char) : Option (List Char × List Char) :=
  match text.takeWhile admits with
  | [] => none
  | taken => some (taken, text.dropWhile admits)

/-- The rest of a text after the given start. -/
def after? : List Char → List Char → Option (List Char)
  | [], text => some text
  | _ :: _, [] => none
  | p :: start, c :: text => if p = c then after? start text else none

/-- The rest of a text after an optional start. -/
def afterOptional (start text : List Char) : List Char := (after? start text).getD text

/-- The rest after a start is what stands behind it. -/
theorem after?_eq_some {start text rest : List Char} :
    after? start text = some rest ↔ text = start ++ rest := by
  induction start generalizing text with
  | nil => simp [after?]
  | cons p start ih =>
    cases text with
    | nil => simp [after?]
    | cons c text =>
      by_cases h : p = c
      · simp [after?, h, ih]
      · simp [after?, h, Ne.symm h]

/-- A shortest stretch is admitted and the continuation succeeds after it. -/
theorem shortest_eq_some {admits : Char → Bool} {next : List Char → Option α} {text stretch : List Char}
    {found : α} (h : shortest admits next text = some (stretch, found)) :
    stretch ≠ [] ∧ stretch.all admits = true ∧
      ∃ rest, text = stretch ++ rest ∧ next rest = some found := by
  induction text generalizing stretch with
  | nil => simp [shortest] at h
  | cons c text ih =>
    unfold shortest at h
    split at h
    · next hc =>
      split at h
      · next hn => cases h; exact ⟨by simp, by simp [hc], text, by simp, hn⟩
      · split at h
        · next hs =>
          cases h
          obtain ⟨_, hall, rest, ht, hr⟩ := ih hs
          exact ⟨by simp, by simp [hc, hall], rest, by simp [ht], hr⟩
        · simp at h
    · simp at h

/-- A longest stretch is admitted and the continuation succeeds after it. -/
theorem longest_eq_some {admits : Char → Bool} {next : List Char → Option α} {text stretch : List Char}
    {found : α} (h : longest admits next text = some (stretch, found)) :
    stretch.all admits = true ∧ ∃ rest, text = stretch ++ rest ∧ next rest = some found := by
  induction text generalizing stretch with
  | nil =>
    simp only [longest, Option.map_eq_some_iff, Prod.mk.injEq] at h
    obtain ⟨a, ha, rfl, rfl⟩ := h
    exact ⟨rfl, [], rfl, ha⟩
  | cons c text ih =>
    have stop {stretch : List Char}
        (h : (next (c :: text)).map (fun found => ([], found)) = some (stretch, found)) :
        stretch.all admits = true ∧
          ∃ rest, c :: text = stretch ++ rest ∧ next rest = some found := by
      simp only [Option.map_eq_some_iff, Prod.mk.injEq] at h
      obtain ⟨a, ha, rfl, rfl⟩ := h
      exact ⟨rfl, c :: text, rfl, ha⟩
    unfold longest at h
    split at h
    · next hc =>
      split at h
      · next hs =>
        cases h
        obtain ⟨hall, rest, ht, hr⟩ := ih hs
        exact ⟨by simp [hc, hall], rest, by simp [ht], hr⟩
      · exact stop h
    · exact stop h

end Checkup.Text
