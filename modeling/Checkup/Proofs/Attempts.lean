import Checkup.Attempt
import Checkup.Proofs.Outcomes

/-!
# What attempts keep

Two properties of attempts are carried from one piece of work to the next: every
result that an attempt gives has some property, and no call that a tool refused is
passed over. The second is the reason why a broken tool shows in the report.
-/

namespace Checkup.Attempt

variable {α β : Type} {tools : Tools}

/-- Every result of an attempt has a property. -/
def Yields (attempt : Attempt α) (holds : α → Prop) : Prop := Gives attempt.result holds

/-- An attempt ends with the fault of any call that a tool refused. -/
def Surfaces (tools : Tools) (attempt : Attempt α) : Prop :=
  ∀ call ∈ attempt.calls, ∀ fault, tools call = .error fault → attempt.result = .error fault

/-- The result of one piece of work after another. -/
theorem result_bind (first : Attempt α) (next : α → Attempt β) :
    (first >>= next).result = (first.result >>= fun value => (next value).result) := by
  obtain ⟨outcome, calls, notes⟩ := first
  cases outcome with
  | ok value => rfl
  | error fault => rfl

/-- A second piece of work may rely on what the first yields. -/
theorem Yields.bind_of {first : Attempt α} {next : α → Attempt β} {given : α → Prop} {holds : β → Prop}
    (hfirst : first.Yields given) (h : ∀ value, given value → (next value).Yields holds) :
    (first >>= next).Yields holds := by
  unfold Yields
  rw [result_bind]
  exact Gives.bind_of hfirst h

/-- A second piece of work decides what both of them give. -/
theorem Yields.bind {first : Attempt α} {next : α → Attempt β} {holds : β → Prop}
    (h : ∀ value, (next value).Yields holds) : (first >>= next).Yields holds :=
  .bind_of (fun _ _ => trivial) fun value _ => h value

/-- A given result has the property that is shown of it. -/
theorem Yields.pure {holds : α → Prop} {value : α} (h : holds value) : (pure value).Yields holds :=
  Gives.ok h

/-- An attempt that is an outcome yields what the outcome gives. -/
theorem Yields.ofOutcome {holds : α → Prop} {outcome : Outcome α} (h : Gives outcome holds) :
    (ofOutcome outcome).Yields holds := h

/-- Work that calls no tool passes over no refusal. -/
theorem Surfaces.of_calls {attempt : Attempt α} (h : attempt.calls = []) : attempt.Surfaces tools := by
  intro call hc
  rw [h] at hc
  cases hc

/-- A refused call is the fault of the work that makes it. -/
theorem Surfaces.call (tool : String) (arguments : List String) :
    (Attempt.call tools tool arguments).Surfaces tools := by
  intro call hc fault hf
  rw [List.mem_singleton.mp hc] at hf
  exact hf

/-- Nothing is passed over by one piece of work after another if neither does so:
a fault of the first ends both, and otherwise the second has the last word. -/
theorem Surfaces.bind {first : Attempt α} {next : α → Attempt β} (hfirst : first.Surfaces tools)
    (hnext : ∀ value, (next value).Surfaces tools) : (first >>= next).Surfaces tools := by
  obtain ⟨outcome, calls, notes⟩ := first
  intro call hc fault hf
  cases outcome with
  | ok value =>
    rcases List.mem_append.mp hc with hcall | hcall
    · cases hfirst call hcall fault hf
    · exact hnext value call hcall fault hf
  | error found =>
    have hfound : Except.error found = Except.error fault := hfirst call hc fault hf
    cases hfound
    rfl

end Checkup.Attempt
