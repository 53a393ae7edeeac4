/-!
# Dates and times

A configuration may hold dates and times of day as plain values.
-/

namespace Checkup

/-- A day of the common calendar. -/
structure Day where
  year : Nat
  month : Nat
  day : Nat
  deriving DecidableEq, Repr

/-- A time of day, with its offset from universal time in seconds if one is given. -/
structure Clock where
  hour : Nat
  minute : Nat
  second : Nat
  microsecond : Nat
  offset : Option Int
  deriving DecidableEq, Repr

/-- A day, or a time on a day. -/
inductive Moment where
  | date (day : Day)
  | time (day : Day) (clock : Clock)
  deriving DecidableEq, Repr

namespace Day

/-- Years that have a twenty-ninth of February. -/
def isLeap (year : Nat) : Bool := year % 4 = 0 && (year % 100 != 0 || year % 400 = 0)

/-- Number of days of a month; none for what is no month. -/
def monthLength (year month : Nat) : Nat :=
  if month = 2 then (if isLeap year then 29 else 28)
  else if month = 4 || month = 6 || month = 9 || month = 11 then 30
  else if 1 ≤ month && month ≤ 12 then 31
  else 0

/-- A day that exists. -/
def isValid (day : Day) : Bool :=
  1 ≤ day.year && day.year ≤ 9999 && 1 ≤ day.day && day.day ≤ monthLength day.year day.month

/-- The day after. -/
def next (day : Day) : Day :=
  if day.day < monthLength day.year day.month then { day with day := day.day + 1 }
  else if day.month < 12 then ⟨day.year, day.month + 1, 1⟩
  else ⟨day.year + 1, 1, 1⟩

/-- The day before. -/
def previous (day : Day) : Day :=
  if 1 < day.day then { day with day := day.day - 1 }
  else if 1 < day.month then ⟨day.year, day.month - 1, monthLength day.year (day.month - 1)⟩
  else ⟨day.year - 1, 12, 31⟩

/-- The day that many days after the first of January 1970. Years are counted from
March on, so that a day that is there every four years is the last of its year. -/
def ofEpoch (days : Nat) : Day :=
  let shifted := days + 719468
  let inEra := shifted % 146097
  let yearOfEra := (inEra - inEra / 1460 + inEra / 36524 - inEra / 146096) / 365
  let inYear := inEra - (365 * yearOfEra + yearOfEra / 4 - yearOfEra / 100)
  let monthFromMarch := (5 * inYear + 2) / 153
  let month := if monthFromMarch < 10 then monthFromMarch + 3 else monthFromMarch - 9
  ⟨shifted / 146097 * 400 + yearOfEra + (if month ≤ 2 then 1 else 0), month,
    inYear - (153 * monthFromMarch + 2) / 5 + 1⟩

/-- Number of days from the first of January of the year zero on, with years of
ten months and two from March on. -/
def number (day : Day) : Nat :=
  let year := if day.month ≤ 2 then day.year - 1 else day.year
  let fromMarch := (day.month + 9) % 12
  365 * year + year / 4 - year / 100 + year / 400 + (153 * fromMarch + 2) / 5 + day.day

end Day

/-- The instant of a time whose offset is known, in microseconds of universal time. -/
def Moment.instant? : Moment → Option Int
  | .date _ => none
  | .time day clock => clock.offset.map fun offset =>
    let seconds : Int := 86400 * day.number + 3600 * clock.hour + 60 * clock.minute + clock.second
    1000000 * (seconds - offset) + clock.microsecond

/-- The moment that many microseconds after the start of 1970, in universal time. -/
def Moment.ofEpoch (microseconds : Nat) : Moment :=
  let seconds := microseconds / 1000000
  .time (.ofEpoch (seconds / 86400))
    ⟨seconds / 3600 % 24, seconds / 60 % 60, seconds % 60, microseconds % 1000000, some 0⟩

end Checkup
