/-!
# Binary floating-point numbers

Numbers of 53 significant bits, held as a mantissa and a binary exponent, so
that every operation is exact arithmetic on natural numbers followed by one
rounding to nearest.
-/

namespace Checkup

/-- A binary64 number. A finite one is the mantissa times two to the exponent;
its mantissa has at most 53 bits, exactly 53 unless the exponent is the least. -/
inductive Binary64 where
  | nan
  | infinite (negative : Bool)
  | finite (negative : Bool) (mantissa : Nat) (exponent : Int)
  deriving DecidableEq, Repr

namespace Binary64

/-- The exponent of the least positive number. -/
def leastExponent : Int := -1074

/-- The exponent of the greatest finite number. -/
def greatestExponent : Int := 971

/-- Zero with its sign. -/
def zeroWith (negative : Bool) : Binary64 := .finite negative 0 leastExponent

/-- `numerator / denominator` to the nearest natural number, a half to the even one. -/
def roundHalfEven (numerator denominator : Nat) : Nat :=
  let quotient := numerator / denominator
  let twice := 2 * (numerator % denominator)
  if twice < denominator then quotient
  else if denominator < twice then quotient + 1
  else quotient + quotient % 2

/-- `numerator / (denominator * 2 ^ exponent)` to the nearest natural number. -/
def scaled (numerator denominator : Nat) (exponent : Int) : Nat :=
  roundHalfEven (numerator * Nat.pow 2 (-exponent).toNat)
    (denominator * Nat.pow 2 exponent.toNat)

/-- The exponent at which a positive quotient has 53 bits before its point, but
at least the least exponent. -/
def fittingExponent (numerator denominator : Nat) : Int :=
  let guess : Int := (numerator.log2 : Int) - denominator.log2 - 52
  let tooHigh : Bool :=
    numerator * Nat.pow 2 (-guess).toNat < denominator * Nat.pow 2 guess.toNat * Nat.pow 2 52
  max leastExponent (if tooHigh then guess - 1 else guess)

/-- The number nearest to a quotient with the given sign, a half to the even mantissa. -/
def ofRatio (negative : Bool) (numerator denominator : Nat) : Binary64 :=
  if numerator = 0 then zeroWith negative
  else
    let exponent := fittingExponent numerator denominator
    let mantissa := scaled numerator denominator exponent
    let (mantissa, exponent) :=
      if mantissa = Nat.pow 2 53 then (Nat.pow 2 52, exponent + 1) else (mantissa, exponent)
    if greatestExponent < exponent then .infinite negative
    else .finite negative mantissa exponent

/-- Number of decimal digits; zero has none. -/
def digitCount (n : Nat) : Nat := if n = 0 then 0 else (Nat.toDigits 10 n).length

/-- The number nearest to `digits` times ten to the `exponent`. Powers of ten
that are certainly too large or too small are not formed. -/
def ofDecimal (negative : Bool) (digits : Nat) (exponent : Int) : Binary64 :=
  let order := (digitCount digits : Int) + exponent
  if digits = 0 || order < -400 then zeroWith negative
  else if 400 < order then .infinite negative
  else ofRatio negative (digits * Nat.pow 10 exponent.toNat) (Nat.pow 10 (-exponent).toNat)

/-- The nearest number to a whole number; `none` where that is infinite. -/
def ofInt? (n : Int) : Option Binary64 :=
  match ofRatio (n < 0) n.natAbs 1 with
  | .infinite _ => none
  | number => some number

/-- Numerator and denominator of a finite magnitude. -/
def ratio (mantissa : Nat) (exponent : Int) : Nat × Nat :=
  (mantissa * Nat.pow 2 exponent.toNat, Nat.pow 2 (-exponent).toNat)

/-- Neither zero is a truth; every other number is, the one that is no number too. -/
def isZero : Binary64 → Bool
  | .finite _ 0 _ => true
  | _ => false

/-- The whole number toward zero; `none` unless finite. -/
def truncate? : Binary64 → Option Int
  | .finite negative mantissa exponent =>
    let (numerator, denominator) := ratio mantissa exponent
    let magnitude : Int := (numerator / denominator : Nat)
    some (if negative then -magnitude else magnitude)
  | _ => none

/-- Strictly greater than zero. -/
def isPositive : Binary64 → Bool
  | .finite false mantissa _ => mantissa != 0
  | .infinite false => true
  | _ => false

/-- The whole number that a float equals, if it does. -/
def whole? : Binary64 → Option Int
  | .finite negative mantissa exponent =>
    let (numerator, denominator) := ratio mantissa exponent
    if numerator % denominator = 0 then
      some (if negative then -((numerator / denominator : Nat) : Int) else (numerator / denominator : Nat))
    else none
  | _ => none

/-- Strictly less than a whole number. -/
def isBelow (bound : Int) : Binary64 → Bool
  | .nan => false
  | .infinite negative => negative
  | .finite negative mantissa exponent =>
    let (numerator, denominator) := ratio mantissa exponent
    (if negative then -(numerator : Int) else numerator) < bound * denominator

/-- The number with the other sign. -/
def negate : Binary64 → Binary64
  | .nan => .nan
  | .infinite negative => .infinite !negative
  | .finite negative mantissa exponent => .finite (!negative) mantissa exponent

/-- The product of two numbers. -/
def mul : Binary64 → Binary64 → Binary64
  | .finite a m e, .finite b n f =>
    let (p, q) := ratio m e
    let (r, s) := ratio n f
    ofRatio (a != b) (p * r) (q * s)
  | .infinite a, .infinite b => .infinite (a != b)
  | .infinite a, .finite b n _ | .finite b n _, .infinite a =>
    if n = 0 then .nan else .infinite (a != b)
  | _, _ => .nan

/-- The sum of two numbers. -/
def add : Binary64 → Binary64 → Binary64
  | .finite a m e, .finite b n f =>
    let (p, q) := ratio m e
    let (r, s) := ratio n f
    let signed (negative : Bool) (k : Nat) : Int := if negative then -k else k
    let sum := signed a (p * s) + signed b (r * q)
    if sum = 0 then zeroWith (a && b) else ofRatio (sum < 0) sum.natAbs (q * s)
  | .infinite a, .infinite b => if a = b then .infinite a else .nan
  | .infinite a, .finite _ _ _ | .finite _ _ _, .infinite a => .infinite a
  | _, _ => .nan

/-- Division by a positive whole number. -/
def divNat : Binary64 → Nat → Binary64
  | .finite negative mantissa exponent, divisor =>
    let (numerator, denominator) := ratio mantissa exponent
    ofRatio negative numerator (denominator * divisor)
  | number, _ => number

end Binary64

end Checkup
