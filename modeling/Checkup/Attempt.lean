import Checkup.Tool

/-!
# Attempts

A piece of work that may fail, together with the tool calls that it made and
the notes that it wrote. Calls and notes made before a fault are kept.
-/

namespace Checkup

/-- The weight of a note, least first. -/
inductive Level where
  | debug
  | info
  | warning
  deriving DecidableEq, Repr

/-- The name of a weight. -/
def Level.name : Level → String
  | debug => "DEBUG"
  | info => "INFO"
  | warning => "WARNING"

/-- A line for the log. -/
structure Note where
  level : Level
  text : String
  deriving DecidableEq, Repr

/-- A result or a fault, with the calls and the notes on the way to it. -/
structure Attempt (α : Type) where
  result : Outcome α
  calls : List ToolCall
  notes : List Note

namespace Attempt

variable {α β : Type}

/-- Work that does nothing but give a result. -/
def pure (value : α) : Attempt α := ⟨.ok value, [], []⟩

/-- One piece of work after another; a fault ends it. -/
def bind (first : Attempt α) (next : α → Attempt β) : Attempt β :=
  match first.result with
  | .ok value =>
    let second := next value
    ⟨second.result, first.calls ++ second.calls, first.notes ++ second.notes⟩
  | .error fault => ⟨.error fault, first.calls, first.notes⟩

instance : Monad Attempt where
  pure := pure
  bind := bind

instance : LawfulMonad Attempt := LawfulMonad.mk' Attempt
  (by rintro α ⟨_ | _, calls, notes⟩ <;> simp [Functor.map, bind, pure])
  (by intro α β value next; simp [Bind.bind, Pure.pure, bind, pure])
  (by
    rintro α β γ ⟨_ | value, calls, notes⟩ next last
    · rfl
    · simp only [Bind.bind, bind]
      cases (next value).result <;> simp)

/-- An outcome without calls and notes. -/
def ofOutcome (outcome : Outcome α) : Attempt α := ⟨outcome, [], []⟩

/-- Write a note. -/
def note (level : Level) (text : String) : Attempt Unit := ⟨.ok (), [], [⟨level, text⟩]⟩

/-- Write notes of one weight. -/
def noteAll (level : Level) (texts : List String) : Attempt Unit :=
  ⟨.ok (), [], texts.map fun text => ⟨level, text⟩⟩

/-- Call a tool. -/
def call (tools : Tools) (tool : String) (arguments : List String) : Attempt ToolOutput :=
  ⟨tools ⟨tool, arguments⟩, [⟨tool, arguments⟩], []⟩

end Attempt

end Checkup
