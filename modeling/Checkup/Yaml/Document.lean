import Checkup.Fault
import Checkup.Value.Display

/-!
# Documents

The values that a YAML text writes. Since an alias stands for the very value
under its anchor, a collection may be inside itself: the values of a document
have numbers, and a collection holds the numbers of its parts. An item is one
value of a document, to be looked at and looked into.
-/

namespace Checkup.Yaml

/-- One value of a document, with the numbers of its parts. -/
inductive Cell where
  | scalar (value : Scalar)
  | list (items : List Nat)
  /-- A list of pairs. -/
  | pairs (entries : List (Nat × Nat))
  | mapping (entries : List (Scalar × Nat))
  | set (members : List Scalar)

namespace Cell

/-- What stands for a value that is not there. -/
def null : Cell := .scalar .null

/-- The name by which messages call the kind of a value. -/
def kindName : Cell → String
  | scalar value => (Value.scalar value).kindName
  | list _ | pairs _ => "list"
  | mapping _ => "dict"
  | set _ => "set"

/-- A value counts as given unless it is absent, `false`, zero or empty. -/
def isGiven : Cell → Bool
  | scalar value => (Value.scalar value).isGiven
  | list items => !items.isEmpty
  | pairs entries => !entries.isEmpty
  | mapping entries => !entries.isEmpty
  | set members => !members.isEmpty

/-- What is shown of a collection inside itself. -/
def ellipsis : Cell → String
  | list _ | pairs _ => "[...]"
  | mapping _ => "\x7b...\x7d"
  | scalar _ | set _ => ""

end Cell

/-- One value of a document. -/
structure Item where
  cells : Array Cell
  number : Nat

namespace Item

/-- The cell of an item. -/
def cell (item : Item) : Cell := (item.cells[item.number]?).getD .null

/-- Another value of the same document. -/
def part (item : Item) (number : Nat) : Item := { item with number }

/-- A value counts as given unless it is absent, `false`, zero or empty. -/
def isGiven (item : Item) : Bool := item.cell.isGiven

/-- The name by which messages call the kind of a value. -/
def kindName (item : Item) : String := item.cell.kindName

/-- The scalar of an item that is one. -/
def scalar? (item : Item) : Option Scalar :=
  match item.cell with
  | .scalar value => some value
  | _ => none

/-- The text of an item that is one. -/
def text? (item : Item) : Option String :=
  match item.cell with
  | .scalar (.text value) => some value
  | _ => none

/-- The items of a list without pairs. -/
def items? (item : Item) : Option (List Item) :=
  match item.cell with
  | .list numbers => some (numbers.map item.part)
  | .pairs [] => some []
  | _ => none

/-- The item is the absent value. -/
def isNull (item : Item) : Bool := item.scalar? = some .null

/-- The item is a mapping. -/
def isMapping (item : Item) : Bool :=
  match item.cell with
  | .mapping _ => true
  | _ => false

/-- The item under a text key of a mapping. -/
def find? (item : Item) (key : String) : Option Item :=
  match item.cell with
  | .mapping entries => (entries.lookup (.text key)).map item.part
  | _ => none

/-- A scalar as a literal, unless it is a number that is too long. -/
def literalOfScalar : Scalar → Outcome String
  | .int n => writeWhole n
  | value => .ok value.literal

/-- Texts between commas. -/
def commas (texts : List String) : String := String.intercalate ", " texts

/-- An item as a literal, inside the items with the given numbers. A collection
inside itself is not shown again, so the fuel bounds the depth. -/
def literalIn (fuel : Nat) (around : List Nat) (item : Item) : Outcome String :=
  match fuel with
  | 0 => .ok item.cell.ellipsis
  | fuel + 1 =>
    if around.contains item.number then .ok item.cell.ellipsis
    else
      let inner (number : Nat) : Outcome String :=
        literalIn fuel (item.number :: around) (item.part number)
      match item.cell with
      | .scalar value => literalOfScalar value
      | .list items => do .ok ("[" ++ commas (← items.mapM inner) ++ "]")
      | .pairs entries => do
        let shown ← entries.mapM fun (key, value) => do
          .ok ("(" ++ (← inner key) ++ ", " ++ (← inner value) ++ ")")
        .ok ("[" ++ commas shown ++ "]")
      | .mapping entries => do
        let shown ← entries.mapM fun (key, value) => do
          .ok ((← literalOfScalar key) ++ ": " ++ (← inner value))
        .ok ("\x7b" ++ commas shown ++ "\x7d")
      | .set [] => .ok "set()"
      | .set members => do .ok ("\x7b" ++ commas (← members.mapM literalOfScalar) ++ "\x7d")

/-- An item as a literal. -/
def literal (item : Item) : Outcome String := item.literalIn (item.cells.size + 1) []

/-- An item in a message: a text as it is, a moment in its usual form, and
anything else as a literal. -/
def display (item : Item) : Outcome String :=
  match item.cell with
  | .scalar (.text value) => .ok value
  | .scalar (.moment value) => .ok value.display
  | _ => item.literal

end Item

end Checkup.Yaml
