import Checkup.Moment
import Checkup.Shell.Utility

/-!
# Dates

The time in some format. A date is given by words: a day, a time of day, and
amounts of time before or after it.
-/

namespace Checkup.Shell

/-- A field of a date, by the letter that asks for it. -/
def dateField (seconds : Nat) (letter : Char) : List Char :=
  let day := Day.ofEpoch (seconds / 86400)
  let inDay := seconds % 86400
  let two (number : Nat) : List Char :=
    let digits := Nat.toDigits 10 number
    List.replicate (2 - digits.length) '0' ++ digits
  let hour := two (inDay / 3600)
  let minute := two (inDay / 60 % 60)
  let second := two (inDay % 60)
  let inYear := day.number - (⟨day.year - 1, 12, 31⟩ : Day).number
  let weekday := (seconds / 86400 + 4) % 7
  let pick (names : List String) (i : Nat) : List Char := ((names[i]?).getD "").toList
  match letter with
  | 'Y' => showNumber day.year
  | 'y' => two (day.year % 100)
  | 'm' => two day.month
  | 'd' => two day.day
  | 'e' => rightAligned 2 day.day
  | 'j' => List.replicate (3 - (showNumber inYear).length) '0' ++ showNumber inYear
  | 'H' => hour
  | 'M' => minute
  | 'S' => second
  | 'N' => List.replicate 9 '0'
  | 's' => showNumber seconds
  | 'F' => showNumber day.year ++ '-' :: two day.month ++ '-' :: two day.day
  | 'T' => hour ++ ':' :: minute ++ ':' :: second
  | 'R' => hour ++ ':' :: minute
  | 'D' => two day.month ++ '/' :: two day.day ++ '/' :: two (day.year % 100)
  | 'Z' => "UTC".toList
  | 'z' => "+0000".toList
  | 'u' => showNumber (if weekday = 0 then 7 else weekday)
  | 'w' => showNumber weekday
  | 'a' => pick ["Sun", "Mon", "Tue", "Wed", "Thu", "Fri", "Sat"] weekday
  | 'A' =>
    pick ["Sunday", "Monday", "Tuesday", "Wednesday", "Thursday", "Friday", "Saturday"] weekday
  | 'b' | 'h' =>
    pick ["Jan", "Feb", "Mar", "Apr", "May", "Jun", "Jul", "Aug", "Sep", "Oct", "Nov", "Dec"]
      (day.month - 1)
  | 'B' =>
    pick ["January", "February", "March", "April", "May", "June", "July", "August", "September",
      "October", "November", "December"] (day.month - 1)
  | 'n' => ['\n']
  | 't' => ['\t']
  | '%' => ['%']
  | letter => ['%', letter]

/-- A date in some format. -/
def formatDate (seconds : Nat) : List Char → List Char
  | '%' :: letter :: rest => dateField seconds letter ++ formatDate seconds rest
  | c :: rest => c :: formatDate seconds rest
  | [] => []

/-- What the words of a date say. -/
structure GivenDate where
  day : Option Day := none
  /-- The time of day in seconds. -/
  clock : Option Nat := none
  /-- What is added. -/
  months : Int := 0
  days : Int := 0
  seconds : Int := 0

namespace GivenDate

/-- So many of a unit of time are added, or taken away. -/
def add (given : GivenDate) (amount : Int) (unit : String) : Option GivenDate :=
  let unit := if unit.endsWith "s" then String.ofList unit.toList.dropLast else unit
  match unit with
  | "year" => some { given with months := given.months + 12 * amount }
  | "month" => some { given with months := given.months + amount }
  | "fortnight" => some { given with days := given.days + 14 * amount }
  | "week" => some { given with days := given.days + 7 * amount }
  | "day" => some { given with days := given.days + amount }
  | "hour" => some { given with seconds := given.seconds + 3600 * amount }
  | "minute" | "min" => some { given with seconds := given.seconds + 60 * amount }
  | "second" | "sec" => some { given with seconds := given.seconds + amount }
  | _ => none

/-- The day that a word names by numbers. -/
def dayOf? (word : List Char) : Option Day :=
  match (splitAt '-' word).mapM count? with
  | some [year, month, day] =>
    let day : Day := ⟨year, month, day⟩
    if 4 ≤ (word.takeWhile (· != '-')).length && day.isValid then some day else none
  | _ => none

/-- The seconds of the time of day that a word names by numbers. -/
def clockOf? (word : List Char) : Option Nat :=
  match (splitAt ':' word).mapM count? with
  | some [hour, minute] => if hour < 24 && minute < 60 then some (3600 * hour + 60 * minute) else none
  | some [hour, minute, second] =>
    if hour < 24 && minute < 60 && second < 60 then some (3600 * hour + 60 * minute + second) else none
  | _ => none

/-- An amount with its sign, and the unit that may stand behind it in the same word. -/
def amountOf? (word : List Char) : Option (Int × List Char) :=
  let digits := word.dropWhile fun c => c = '+' || c = '-'
  let number := digits.takeWhile Char.isDigit
  if number.isEmpty || 1 < word.length - digits.length then none
  else
    let amount : Int := digitsValue 10 number
    some (if word.head? = some '-' then -amount else amount, digits.drop number.length)

/-- Take up the words of a date. -/
def take (fuel : Nat) (given : GivenDate) (words : List String) : Option GivenDate :=
  match fuel, words with
  | 0, _ => none
  | _, [] => some given
  | fuel + 1, word :: rest =>
    let addTo (amount : Int) (unit : String) (rest : List String) : Option GivenDate :=
      match rest with
      | "ago" :: rest => do take fuel (← given.add (-amount) unit) rest
      | rest => do take fuel (← given.add amount unit) rest
    match word with
    | "now" | "today" | "utc" | "z" | "gmt" => take fuel given rest
    | "yesterday" => take fuel { given with days := given.days - 1 } rest
    | "tomorrow" => take fuel { given with days := given.days + 1 } rest
    | "next" | "last" =>
      match rest with
      | unit :: rest => addTo (if word = "next" then 1 else -1) unit rest
      | [] => none
    | word =>
      match dayOf? word.toList, clockOf? word.toList, amountOf? word.toList with
      | some day, _, _ =>
        if given.day.isSome then none
        else take fuel { given with day := some day, clock := given.clock.or (some 0) } rest
      | none, some clock, _ => take fuel { given with clock := some clock } rest
      | none, none, some (amount, []) =>
        match rest with
        | unit :: rest => addTo amount unit rest
        | [] => none
      | none, none, some (amount, unit) => addTo amount (String.ofList unit) rest
      | none, none, none => addTo 1 word rest

/-- The seconds since the start of 1970, if the date is not before that. -/
def seconds? (given : GivenDate) (now : Nat) : Option Nat :=
  let day := given.day.getD (.ofEpoch (now / 86400))
  let months : Int := 12 * day.year + (day.month - 1) + given.months
  let first : Day := ⟨(months / 12).toNat, (months % 12).toNat + 1, 1⟩
  let days : Int := first.number + day.day - 1 - epochDay + given.days
  let seconds := 86400 * days + given.clock.getD (now % 86400) + given.seconds
  if seconds < 0 then none else some seconds.toNat
where
  /-- The number of the first of January 1970. -/
  epochDay : Nat := (⟨1970, 1, 1⟩ : Day).number

end GivenDate

/-- The time that a text names, in seconds since the start of 1970. -/
def namedTime? (now : Nat) : List Char → Option Nat
  | '@' :: digits => if !digits.isEmpty && digits.all Char.isDigit then some (digitsValue 10 digits) else none
  | text =>
    let spaced := text.map fun c => if c = 'T' then ' ' else c.toLower
    let words := ((splitAt ' ' spaced).filter (!·.isEmpty)).map String.ofList
    let start : GivenDate := if words.isEmpty then { clock := some 0 } else {}
    (GivenDate.take (words.length + 1) start words).bind (·.seconds? now)

/-- Show the time. -/
def date : Utility := fun request =>
  let options := takeArguments "uIR" "drf" [("utc", 'u'), ("date", 'd'), ("universal", 'u')] false
    request.arguments
  match options.refusal? request 1 with
  | some refusal => refusal
  | none =>
    let given := options.value? 'd'
    match (given.map (namedTime? request.now)).getD (some request.now), options.operands with
    | none, _ => request.refuse 1 ("invalid date " ++ quoted (given.getD []))
    | some seconds, ('+' :: format) :: _ => request.say (formatDate seconds format ++ ['\n'])
    | some _, other :: _ => request.refuse 1 ("invalid date " ++ quoted other)
    | some seconds, [] =>
      let format := if options.has 'I' then "%F"
        else if options.has 'R' then "%a, %d %b %Y %T %z" else "%a %b %e %H:%M:%S UTC %Y"
      request.say (formatDate seconds format.toList ++ ['\n'])

end Checkup.Shell
