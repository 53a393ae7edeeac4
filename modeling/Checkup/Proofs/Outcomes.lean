import Checkup.Fault

/-!
# Steps that may fail

What a chain of steps gives is what its last step gives, after all those before
gave something; and the results of steps on a list are one for each member. A chain
fails if one of its steps does, and with the fault of the first that does, so to say
exactly when it fails it is enough to name the causes of the single steps.
-/

namespace Checkup

variable {α β γ : Type}

/-- A step after a result. -/
theorem ok_bind (value : α) (next : α → Outcome β) : ((.ok value : Outcome α) >>= next) = next value := rfl

/-- A second step gives a result exactly if it does so on a result of the first. -/
theorem bind_eq_ok_iff {first : Outcome α} {next : α → Outcome β} {result : β} :
    (first >>= next) = .ok result ↔ ∃ value, first = .ok value ∧ next value = .ok result := by
  cases first with
  | error fault =>
    constructor
    · intro h
      cases h
    · rintro ⟨value, h, -⟩
      cases h
  | ok value =>
    constructor
    · exact fun h => ⟨value, rfl, h⟩
    · rintro ⟨found, h, hr⟩
      cases h
      exact hr

/-- Every result of an outcome has a property. -/
def Gives (outcome : Outcome α) (holds : α → Prop) : Prop := ∀ value, outcome = .ok value → holds value

/-- A result has the property that is shown of it. -/
theorem Gives.ok {holds : α → Prop} {value : α} (h : holds value) : Gives (.ok value) holds := by
  intro found hf
  cases hf
  exact h

/-- A fault is no result. -/
theorem Gives.error {holds : α → Prop} (fault : Fault) : Gives (.error fault) holds := by
  intro found hf
  cases hf

/-- What has a property has every weaker one. -/
theorem Gives.mono {given holds : α → Prop} {outcome : Outcome α} (h : Gives outcome given)
    (hw : ∀ value, given value → holds value) : Gives outcome holds :=
  fun value hv => hw value (h value hv)

/-- A second step decides what both of them give. -/
theorem Gives.bind {holds : β → Prop} {first : Outcome α} {next : α → Outcome β}
    (h : ∀ value, Gives (next value) holds) : Gives (first >>= next) holds := by
  intro result hr
  obtain ⟨value, -, hnext⟩ := bind_eq_ok_iff.mp hr
  exact h value result hnext

/-- A second step may rely on what the first gives. -/
theorem Gives.bind_of {given : α → Prop} {holds : β → Prop} {first : Outcome α} {next : α → Outcome β}
    (hfirst : Gives first given) (h : ∀ value, given value → Gives (next value) holds) :
    Gives (first >>= next) holds := by
  intro result hr
  obtain ⟨value, hvalue, hnext⟩ := bind_eq_ok_iff.mp hr
  exact h value (hfirst value hvalue) result hnext

/-- Steps that all succeed on the members of a list succeed on the list. -/
theorem mapM_map_eq_pure {m : Type → Type} [Monad m] [LawfulMonad m] {f : α → β} {step : β → m γ}
    {result : α → γ} {items : List α} (h : ∀ item ∈ items, step (f item) = pure (result item)) :
    (items.map f).mapM step = pure (items.map result) := by
  induction items with
  | nil => rfl
  | cons item items ih =>
    have hitem := h item List.mem_cons_self
    have hitems := ih fun each he => h each (List.mem_cons_of_mem item he)
    rw [List.map_cons, List.mapM_cons, hitem, pure_bind, hitems, pure_bind, List.map_cons]

/-- Every result of steps on a list is the result of a step on a member, and
every member has one. -/
theorem members_of_mapM_eq_ok {step : α → Outcome β} {items : List α} {results : List β}
    (h : items.mapM step = .ok results) :
    (∀ result ∈ results, ∃ item ∈ items, step item = .ok result) ∧
      ∀ item ∈ items, ∃ result ∈ results, step item = .ok result := by
  induction items generalizing results with
  | nil =>
    rw [List.mapM_nil] at h
    cases h
    constructor
    · intro result hr
      cases hr
    · intro item hi
      cases hi
  | cons item items ih =>
    rw [List.mapM_cons] at h
    obtain ⟨first, hfirst, h⟩ := bind_eq_ok_iff.mp h
    obtain ⟨more, hmore, h⟩ := bind_eq_ok_iff.mp h
    cases h
    obtain ⟨hback, hforth⟩ := ih hmore
    constructor
    · intro result hr
      rcases List.mem_cons.mp hr with rfl | hr
      · exact ⟨item, List.mem_cons_self, hfirst⟩
      · obtain ⟨each, he, hs⟩ := hback result hr
        exact ⟨each, List.mem_cons_of_mem item he, hs⟩
    · intro each he
      rcases List.mem_cons.mp he with rfl | he
      · exact ⟨first, List.mem_cons_self, hfirst⟩
      · obtain ⟨result, hr, hs⟩ := hforth each he
        exact ⟨result, List.mem_cons_of_mem first hr, hs⟩

/-- Steps on a list give as many results as the list has members. -/
theorem length_of_mapM_eq_ok {step : α → Outcome β} {items : List α} {results : List β}
    (h : items.mapM step = .ok results) : results.length = items.length := by
  induction items generalizing results with
  | nil =>
    rw [List.mapM_nil] at h
    cases h
    rfl
  | cons item items ih =>
    rw [List.mapM_cons] at h
    obtain ⟨first, -, h⟩ := bind_eq_ok_iff.mp h
    obtain ⟨more, hmore, h⟩ := bind_eq_ok_iff.mp h
    cases h
    rw [List.length_cons, List.length_cons, ih hmore]

/-- Steps whose results have a property give lists of such results. -/
theorem Gives.mapM {holds : β → Prop} {step : α → Outcome β} (h : ∀ item, Gives (step item) holds)
    (items : List α) : Gives (items.mapM step) fun results => ∀ result ∈ results, holds result := by
  intro results hr result hm
  obtain ⟨item, -, hs⟩ := (members_of_mapM_eq_ok hr).1 result hm
  exact h item result hs

/-- The results of steps on a list have a property exactly if its members have another, where this is so of each. -/
theorem Gives.mapM_iff {holds : β → Prop} {fine : α → Prop} {step : α → Outcome β}
    (h : ∀ item, Gives (step item) fun result => holds result ↔ fine item) (items : List α) :
    Gives (items.mapM step) fun results => (∀ result ∈ results, holds result) ↔ ∀ item ∈ items, fine item := by
  intro results hresults
  obtain ⟨hback, hforth⟩ := members_of_mapM_eq_ok hresults
  constructor
  · intro hall item hitem
    obtain ⟨result, hresult, hstep⟩ := hforth item hitem
    exact (h item result hstep).mp (hall result hresult)
  · intro hfine result hresult
    obtain ⟨item, hitem, hstep⟩ := hback result hresult
    exact (h item result hstep).mpr (hfine item hitem)

/-- Steps that each give something on the members of a list give a list. -/
theorem exists_mapM_eq_ok {step : α → Outcome β} {items : List α}
    (h : ∀ item ∈ items, ∃ result, step item = .ok result) : ∃ results, items.mapM step = .ok results := by
  induction items with
  | nil => exact ⟨[], rfl⟩
  | cons item items ih =>
    obtain ⟨first, hfirst⟩ := h item List.mem_cons_self
    obtain ⟨more, hmore⟩ := ih fun each he => h each (List.mem_cons_of_mem item he)
    refine ⟨first :: more, ?_⟩
    rw [List.mapM_cons, hfirst, hmore]
    rfl

/-! ## Why steps fail -/

/-- An outcome that is a result. -/
def Succeeds (outcome : Outcome α) : Prop := ∃ value, outcome = .ok value

/-- An outcome that fails exactly for a cause, which names the faults it leads to. -/
structure FailsBy (outcome : Outcome α) (cause : Fault → Prop) : Prop where
  /-- Every fault has the cause. -/
  caused : ∀ fault, outcome = .error fault → cause fault
  /-- Where there is a cause there is a fault. -/
  fails : ∀ fault, cause fault → ∃ found, outcome = .error found

namespace Succeeds

/-- A result is a success. -/
theorem ok (value : α) : Succeeds (.ok value : Outcome α) := ⟨value, rfl⟩

/-- A success is no fault. -/
theorem ne_error {outcome : Outcome α} (h : Succeeds outcome) (fault : Fault) : outcome ≠ .error fault := by
  obtain ⟨value, rfl⟩ := h
  exact fun he => by cases he

/-- A step after a success, if it always succeeds. -/
theorem bind {first : Outcome α} {next : α → Outcome β} (h : Succeeds first)
    (hn : ∀ value, Succeeds (next value)) : Succeeds (first >>= next) := by
  obtain ⟨value, rfl⟩ := h
  exact hn value

/-- Steps that succeed on the members of a list succeed on the list. -/
theorem mapM {step : α → Outcome β} {items : List α} (h : ∀ item ∈ items, Succeeds (step item)) :
    Succeeds (items.mapM step) := exists_mapM_eq_ok h

end Succeeds

namespace FailsBy

variable {cause further : Fault → Prop}

/-- A success fails for no cause. -/
theorem of_succeeds {outcome : Outcome α} (h : Succeeds outcome) : FailsBy outcome fun _ => False where
  caused fault hf := h.ne_error fault hf
  fails _ hc := hc.elim

/-- What fails for no cause succeeds. -/
theorem succeeds {outcome : Outcome α} (h : FailsBy outcome cause) (hc : ∀ fault, ¬cause fault) :
    Succeeds outcome := by
  cases outcome with
  | ok value => exact .ok value
  | error fault => exact absurd (h.caused fault rfl) (hc fault)

/-- Causes may be told in other words. -/
theorem congr {outcome : Outcome α} (h : FailsBy outcome cause) (hc : ∀ fault, cause fault ↔ further fault) :
    FailsBy outcome further where
  caused fault hf := (hc fault).mp (h.caused fault hf)
  fails fault hf := h.fails fault ((hc fault).mpr hf)

/-- One step after another fails for a cause of either, if the causes of the second do
not depend on what the first gives. -/
theorem bind {first : Outcome α} {next : α → Outcome β} (h : FailsBy first cause)
    (hn : ∀ value, first = .ok value → FailsBy (next value) further) :
    FailsBy (first >>= next) fun fault => cause fault ∨ further fault where
  caused fault hf := by
    cases hfirst : first with
    | ok value =>
      rw [hfirst] at hf
      exact .inr ((hn value hfirst).caused fault hf)
    | error found =>
      rw [hfirst] at hf
      cases hf
      exact .inl (h.caused fault hfirst)
  fails fault hf := by
    cases hfirst : first with
    | ok value =>
      rcases hf with hf | hf
      · obtain ⟨found, hfound⟩ := h.fails fault hf
        rw [hfirst] at hfound
        cases hfound
      · exact (hn value hfirst).fails fault hf
    | error found => exact ⟨found, rfl⟩

/-- A step that always succeeds brings in no cause. -/
theorem bind_succeeds {first : Outcome α} {next : α → Outcome β} (h : FailsBy first cause)
    (hn : ∀ value, Succeeds (next value)) : FailsBy (first >>= next) cause :=
  (h.bind fun value _ => of_succeeds (hn value)).congr fun fault => by simp

/-- What is made of a result brings in no cause. -/
theorem map {outcome : Outcome α} (h : FailsBy outcome cause) (f : α → β) : FailsBy (f <$> outcome) cause := by
  rw [← bind_pure_comp]
  exact h.bind_succeeds fun _ => .ok _

/-- After a success the next step has all the causes. -/
theorem succeeds_bind {first : Outcome α} {next : α → Outcome β} (h : Succeeds first)
    (hn : ∀ value, FailsBy (next value) cause) : FailsBy (first >>= next) cause :=
  ((of_succeeds h).bind fun value _ => hn value).congr fun fault => by simp

/-- Steps on a list fail for the causes of its members. -/
theorem mapM {step : α → Outcome β} {causes : α → Fault → Prop} {items : List α}
    (h : ∀ item ∈ items, FailsBy (step item) (causes item)) :
    FailsBy (items.mapM step) fun fault => ∃ item ∈ items, causes item fault := by
  induction items with
  | nil => exact (of_succeeds (.ok [])).congr fun fault => by simp
  | cons item items ih =>
    have hitems := ih fun each he => h each (List.mem_cons_of_mem item he)
    rw [List.mapM_cons]
    refine ((h item List.mem_cons_self).bind fun _ _ => hitems.bind_succeeds fun _ => .ok _).congr ?_
    intro fault
    simp

end FailsBy

end Checkup
