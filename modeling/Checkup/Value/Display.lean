import Checkup.Text.Quoted
import Checkup.Value

/-!
# Values in messages

A value inside a message is shown as a text if it is one, and otherwise in the
spelling of a literal: `None`, `True`, `[1, 'a']`, `{'a': None}`.
-/

namespace Checkup

/-- A number with at least the given number of digits. -/
def padNumber (width n : Nat) : String :=
  let digits := Nat.toDigits 10 n
  String.ofList (List.replicate (width - digits.length) '0' ++ digits)

namespace Moment

/-- A day as year, month and day. -/
def showDay (day : Day) : String :=
  padNumber 4 day.year ++ "-" ++ padNumber 2 day.month ++ "-" ++ padNumber 2 day.day

/-- An offset from universal time: hours and minutes, and seconds if there are any. -/
def showOffset (offset : Int) : String :=
  let size := offset.natAbs
  (if offset < 0 then "-" else "+") ++ padNumber 2 (size / 3600) ++ ":" ++
    padNumber 2 (size / 60 % 60) ++
    (if size % 60 = 0 then "" else ":" ++ padNumber 2 (size % 60))

/-- A moment with something between its day and its time. -/
def written (between : String) : Moment → String
  | .date day => showDay day
  | .time day clock =>
    showDay day ++ between ++ padNumber 2 clock.hour ++ ":" ++ padNumber 2 clock.minute ++ ":" ++
      padNumber 2 clock.second ++
      (if clock.microsecond = 0 then "" else "." ++ padNumber 6 clock.microsecond) ++
      (clock.offset.map showOffset).getD ""

/-- A moment as it stands in a message by itself. -/
def display (moment : Moment) : String := moment.written " "

/-- A moment as a timestamp. -/
def stamp (moment : Moment) : String := moment.written "T"

/-- The fields of a day. -/
def dayFields (day : Day) : List Nat := [day.year, day.month, day.day]

/-- The fields of a time; seconds and their fraction only as far as they are not zero. -/
def clockFields (clock : Clock) : List Nat :=
  [clock.hour, clock.minute] ++
    (if clock.microsecond != 0 then [clock.second, clock.microsecond]
     else if clock.second != 0 then [clock.second] else [])

/-- An offset as a literal; a negative one is written as whole days before. -/
def offsetLiteral (offset : Int) : String :=
  if offset = 0 then "datetime.timezone.utc"
  else
    let days := Int.fdiv offset 86400
    let seconds := Int.fmod offset 86400
    let parts := (if days = 0 then [] else ["days=" ++ toString days]) ++
      (if seconds = 0 then [] else ["seconds=" ++ toString seconds])
    "datetime.timezone(datetime.timedelta(" ++ String.intercalate ", " parts ++ "))"

/-- A moment as a literal. -/
def literal : Moment → String
  | .date day => "datetime.date(" ++ String.intercalate ", " ((dayFields day).map toString) ++ ")"
  | .time day clock =>
    "datetime.datetime(" ++
      String.intercalate ", " ((dayFields day ++ clockFields clock).map toString ++
        (clock.offset.map fun offset => "tzinfo=" ++ offsetLiteral offset).toList) ++ ")"

end Moment

/-- A scalar as a literal. -/
def Scalar.literal : Scalar → String
  | .null => "None"
  | .bool value => if value then "True" else "False"
  | .int value => toString value
  | .float value => String.ofList value.text
  | .text value => Text.quote value
  | .moment value => value.literal
  | .foreign _ literal _ => literal

namespace Value

mutual

/-- A value as a literal. -/
def literal : Value → String
  | .scalar value => value.literal
  | .list items => "[" ++ literalItems items ++ "]"
  | .mapping entries => "\x7b" ++ literalEntries entries ++ "\x7d"

/-- The items of a list as literals. -/
def literalItems : List Value → String
  | [] => ""
  | [item] => literal item
  | item :: items => literal item ++ ", " ++ literalItems items

/-- The entries of a mapping as literals. -/
def literalEntries : List (Scalar × Value) → String
  | [] => ""
  | [(key, value)] => key.literal ++ ": " ++ literal value
  | (key, value) :: entries => key.literal ++ ": " ++ literal value ++ ", " ++ literalEntries entries

end

/-- A value in a message: a text as it is, a moment in its usual form, and
anything else as a literal. -/
def display : Value → String
  | .text value => value
  | .moment value => value.display
  | value => value.literal

end Value

end Checkup
