import Checkup.Moment
import Checkup.Number.Decimal

/-!
# Values

The data that a tool's JSON report or a YAML configuration holds. Everything
that the reports are made of is typed; a `Value` stands only where a tool may
put what it likes and the reports hand it on.
-/

namespace Checkup

/-- A value without parts. Only such values are keys of mappings. -/
inductive Scalar where
  | null
  | bool (value : Bool)
  | int (value : Int)
  | float (value : Binary64)
  | text (value : String)
  | moment (value : Moment)
  /-- A value of a kind that only a configuration can hold. -/
  | foreign (kindName literal : String) (isEmpty : Bool)
  deriving DecidableEq, Repr

/-- A scalar, a list of values, or a mapping in the order of its keys. -/
inductive Value where
  | scalar (value : Scalar)
  | list (items : List Value)
  | mapping (entries : List (Scalar × Value))
  deriving Inhabited

namespace Value

/-- The absent value. -/
@[match_pattern] abbrev null : Value := .scalar .null

/-- A truth value. -/
@[match_pattern] abbrev bool (value : Bool) : Value := .scalar (.bool value)

/-- A whole number. -/
@[match_pattern] abbrev int (value : Int) : Value := .scalar (.int value)

/-- A floating-point number. -/
@[match_pattern] abbrev float (value : Binary64) : Value := .scalar (.float value)

/-- A text. -/
@[match_pattern] abbrev text (value : String) : Value := .scalar (.text value)

/-- A day or a time. -/
@[match_pattern] abbrev moment (value : Moment) : Value := .scalar (.moment value)

/-- A text if there is one, and otherwise the absent value. -/
def ofText? : Option String → Value
  | some value => .text value
  | none => .null

/-- Absent values, `false`, zeros and whatever is empty count as not given; all
others count as given. -/
def isGiven : Value → Bool
  | .null => false
  | .bool value => value
  | .int value => value != 0
  | .float value => !value.isZero
  | .text value => !value.isEmpty
  | .moment _ => true
  | .scalar (.foreign _ _ isEmpty) => !isEmpty
  | .list items => !items.isEmpty
  | .mapping entries => !entries.isEmpty

/-- The first value if it is given, and otherwise the second. -/
def orElse (first second : Value) : Value := if first.isGiven then first else second

/-- The items of a list that are mappings; nothing of any other value. -/
def mappings : Value → List (List (Scalar × Value))
  | .list items => items.filterMap fun
    | .mapping entries => some entries
    | _ => none
  | _ => []

/-- The items of a list; nothing of any other value. -/
def items : Value → List Value
  | .list items => items
  | _ => []

/-- The entries of a mapping. -/
def entries? : Value → Option (List (Scalar × Value))
  | .mapping entries => some entries
  | _ => none

/-- A list of values. -/
def isList : Value → Bool
  | .list _ => true
  | _ => false

/-- A mapping. -/
def isMapping : Value → Bool
  | .mapping _ => true
  | _ => false

/-- A text. -/
def isText : Value → Bool
  | .text _ => true
  | _ => false

/-- The text of a value that is one. -/
def text? : Value → Option String
  | .text value => some value
  | _ => none

/-- The name by which messages call the kind of a value. -/
def kindName : Value → String
  | .null => "NoneType"
  | .bool _ => "bool"
  | .int _ => "int"
  | .float _ => "float"
  | .text _ => "str"
  | .moment (.date _) => "date"
  | .moment (.time _ _) => "datetime"
  | .scalar (.foreign kindName _ _) => kindName
  | .list _ => "list"
  | .mapping _ => "dict"

end Value

/-- The entries of a mapping, in order. -/
abbrev Entries := List (Scalar × Value)

namespace Entries

/-- The value under a text key. -/
def find? (entries : Entries) (key : String) : Option Value :=
  List.lookup (.text key) entries

/-- The value under a text key, absent if there is none. -/
def get (entries : Entries) (key : String) : Value := (find? entries key).getD .null

/-- The entries with one more; a key that is there keeps its place and takes
the new value. -/
def insertWith (same : Scalar → Scalar → Bool) (entries : Entries) (key : Scalar) (value : Value) :
    Entries :=
  match entries with
  | [] => [(key, value)]
  | (k, v) :: rest =>
    if same k key then (k, value) :: rest else (k, v) :: insertWith same rest key value

end Entries

namespace Scalar

/-- The number that a scalar equals, if it is one: truth values count as zero and one. -/
def whole? : Scalar → Option Int
  | .bool value => some (if value then 1 else 0)
  | .int value => some value
  | .float value => value.whole?
  | _ => none

/-- The instant that a scalar stands for, if it is a time whose offset is known. -/
def instant? : Scalar → Option Int
  | .moment value => value.instant?
  | _ => none

/-- Two keys are the same key: equal, or equal as numbers or as instants. -/
def sameKey (first second : Scalar) : Bool :=
  first = second || (first.whole?.isSome && first.whole? = second.whole?) ||
    (first.instant?.isSome && first.instant? = second.instant?)

end Scalar

end Checkup
