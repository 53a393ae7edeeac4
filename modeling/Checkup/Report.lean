import Checkup.Check

/-!
# Reports

All checks of one run with their totals and the grade of the code.
-/

namespace Checkup

/-- The grade of the code, best first. -/
inductive Grade where
  | a
  | b
  | c
  | d
  | f
  deriving DecidableEq, Repr

namespace Grade

/-- All grades, best first. -/
def all : List Grade := [a, b, c, d, f]

/-- The letter of a grade. -/
def name : Grade → String
  | a => "A"
  | b => "B"
  | c => "C"
  | d => "D"
  | f => "F"

/-- The grade of a letter. -/
def ofName? (name : String) : Option Grade := all.find? fun grade => grade.name = name

/-- Position of a grade, the best at zero. -/
def rank : Grade → Nat
  | a => 0
  | b => 1
  | c => 2
  | d => 3
  | f => 4

/-- The grade of so many errors and warnings; the first line that applies decides. -/
def ofCounts (errors warnings : Int) : Grade :=
  if errors = 0 ∧ warnings = 0 then a
  else if errors = 0 ∧ warnings ≤ 5 then b
  else if errors ≤ 2 ∧ warnings ≤ 15 then c
  else if errors ≤ 5 then d
  else f

end Grade

/-- A report. The duration is in milliseconds. -/
structure Report where
  timestamp : String
  duration : Int
  checks : List Check
  totals : Totals
  grade : Grade

namespace Report

/-- The report over some checks; no duration is negative. -/
def ofChecks (checks : List Check) (duration : Int) (timestamp : String) : Report :=
  let totals := Totals.ofChecks checks
  { timestamp
    duration := max 0 duration
    checks
    totals
    grade := .ofCounts totals.errors totals.warnings }

/-- One if there is any error, and zero otherwise. -/
def exitCode (report : Report) : Nat := if 0 < report.totals.errors then 1 else 0

end Report

end Checkup
