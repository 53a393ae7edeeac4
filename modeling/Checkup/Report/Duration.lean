import Checkup.Fault
import Checkup.Number.Decimal
import Checkup.Value.Display

/-!
# Durations in reports

A duration is a number of milliseconds. Below one second it is shown as it is,
and from one second on in seconds, to one place.
-/

namespace Checkup

/-- A whole number of milliseconds. -/
def showMilliseconds (milliseconds : Int) : Outcome String :=
  if milliseconds < 1000 then do .ok ((← writeWhole milliseconds) ++ "ms")
  else
    match Binary64.ofRatio false milliseconds.toNat 1000 with
    | .infinite _ => .error .hugeQuotient
    | seconds => .ok (String.ofList seconds.onePlace ++ "s")

/-- A number of milliseconds with a fraction. -/
def showFraction (milliseconds : Binary64) : String :=
  if milliseconds.isBelow 1000 then String.ofList milliseconds.text ++ "ms"
  else String.ofList (milliseconds.divNat 1000).onePlace ++ "s"

/-- A duration as reports show it. Only numbers can be compared with a second;
truth values are numbers, too, and never reach one. -/
def showDuration : Value → Outcome String
  | .int milliseconds => showMilliseconds milliseconds
  | .float milliseconds => .ok (showFraction milliseconds)
  | .bool value => .ok ((Value.bool value).display ++ "ms")
  | value =>
    .error (.wrongKind
      ("'<' not supported between instances of '" ++ value.kindName ++ "' and 'int'"))

end Checkup
