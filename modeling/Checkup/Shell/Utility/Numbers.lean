import Checkup.Shell.Utility

/-!
# Numbers and time

Utilities that count up or down, repeat a line, or let time go by.
-/

namespace Checkup.Shell

/-- A decimal number: the whole of its digits, and how many of them are behind the point. -/
structure DecimalNumber where
  digits : Int
  places : Nat

namespace DecimalNumber

/-- The number that a text is. -/
def read? (text : List Char) : Option DecimalNumber :=
  let (negative, unsigned) := match text.dropWhile isSpace with
    | '-' :: rest => (true, rest)
    | '+' :: rest => (false, rest)
    | rest => (false, rest)
  let before := unsigned.takeWhile Char.isDigit
  let rest := unsigned.drop before.length
  let behind := match rest with
    | '.' :: rest => rest
    | _ => []
  if (before.isEmpty && behind.isEmpty) || !behind.all Char.isDigit ||
      !(rest.isEmpty || rest.head? = some '.') then none
  else
    let size : Int := digitsValue 10 (before ++ behind)
    some ⟨if negative then -size else size, behind.length⟩

/-- The digits of the number with so many places, which are not fewer than its own. -/
def scaled (number : DecimalNumber) (places : Nat) : Int :=
  number.digits * Nat.pow 10 (places - number.places)

/-- A number with so many places behind the point. -/
def write (places : Nat) (digits : Int) : List Char :=
  let text := Nat.toDigits 10 digits.natAbs
  let text := List.replicate (places + 1 - text.length) '0' ++ text
  let before := text.take (text.length - places)
  (if digits < 0 then ['-'] else []) ++ before ++
    (if places = 0 then [] else '.' :: text.drop before.length)

end DecimalNumber

/-- Digits behind a sign, with zeros between them up to a width. -/
def zeroFilled (width : Nat) (text : List Char) : List Char :=
  let sign := text.takeWhile (· = '-')
  sign ++ List.replicate (width - text.length) '0' ++ text.drop sign.length

/-- Numbers from a first to a last one. -/
def seq : Utility := fun request =>
  let isOption (argument : List Char) : Bool :=
    argument.head? = some '-' && (DecimalNumber.read? argument).isNone
  let valued := ["-s".toList, "-f".toList]
  let rec sortOut : List (List Char) → List (List Char) × List (List Char)
    | option :: value :: rest =>
      if valued.contains option then
        let (options, numbers) := sortOut rest
        (option :: value :: options, numbers)
      else if isOption option then
        let (options, numbers) := sortOut (value :: rest)
        (option :: options, numbers)
      else ([], option :: value :: rest)
    | [last] => if isOption last then ([last], []) else ([], [last])
    | [] => ([], [])
  let (given, numbers) := sortOut request.arguments
  let numbers := if numbers.head? = some ['-', '-'] then numbers.drop 1 else numbers
  let options := takeArguments "w" "sf"
    [("equal-width", 'w'), ("separator", 's'), ("format", 'f')] false given
  let trouble? := numbers.find? fun text => (DecimalNumber.read? text).isNone
  let range? : Option (DecimalNumber × DecimalNumber × DecimalNumber) :=
    match numbers.filterMap DecimalNumber.read? with
    | [last] => some (⟨1, 0⟩, ⟨1, 0⟩, last)
    | [first, last] => some (first, ⟨1, 0⟩, last)
    | [first, step, last] => some (first, step, last)
    | _ => none
  match options.refusal? request 1, trouble?, range? with
  | some refusal, _, _ => refusal
  | none, some text, _ => request.refuseUse 1 ("invalid floating point argument: " ++ quoted text)
  | none, none, none =>
    if numbers.isEmpty then request.refuseUse 1 "missing operand"
    else request.refuseUse 1 ("extra operand " ++ quoted ((numbers[3]?).getD []))
  | none, none, some (first, step, last) =>
    if step.digits = 0 then
      request.refuseUse 1 ("invalid Zero increment value: " ++ quoted ((numbers[1]?).getD []))
    else
      let shownPlaces := max first.places step.places
      let places := max shownPlaces last.places
      let start := first.scaled places
      let stride := step.scaled places
      let count := ((last.scaled places - start).fdiv stride + 1).toNat
      let cut : Int := Nat.pow 10 (places - shownPlaces)
      let shown := (List.range count).map fun i =>
        DecimalNumber.write shownPlaces ((start + Int.ofNat i * stride).fdiv cut)
      let width := shown.foldl (fun width text => max width text.length) 0
      let shown := if options.has 'w' then shown.map (zeroFilled width) else shown
      let between := (options.value? 's').getD ['\n']
      request.say (if shown.isEmpty then [] else joinWith between shown ++ ['\n'])

/-- A number of seconds, or of another unit of time, in microseconds. -/
def microseconds? (text : List Char) : Option Nat :=
  let (number, factor) := match text.getLast? with
    | some 's' => (text.dropLast, 1)
    | some 'm' => (text.dropLast, 60)
    | some 'h' => (text.dropLast, 3600)
    | some 'd' => (text.dropLast, 86400)
    | _ => (text, 1)
  if number = "inf".toList || number = "infinity".toList then some (Nat.pow 10 18)
  else match DecimalNumber.read? number with
    | some ⟨digits, places⟩ =>
      if digits < 0 || number.head?.any isSpace then none
      else
        let size := digits.toNat * 1000000 * factor
        let unit := Nat.pow 10 places
        some ((size + unit - 1) / unit)
    | none => none

/-- Let time go by. -/
def sleep : Utility := fun request =>
  let options := takeArguments "" "" [] false request.arguments
  match options.refusal? request 1 with
  | some refusal => refusal
  | none =>
  if options.operands.isEmpty then request.refuseUse 1 "missing operand"
  else
    let invalid := options.operands.filter fun text => (microseconds? text).isNone
    if !invalid.isEmpty then
      request.answer 1 (invalid.map (fun text =>
        request.complaint ("invalid time interval " ++ quoted text)) ++ [request.hint])
    else
      { request.answer 0 [] with
        takes := (options.operands.filterMap microseconds?).foldl (· + ·) 0 }

/-- A line, again and again. -/
def yes : Utility := fun request =>
  let line := if request.arguments.isEmpty then ['y'] else joinWith [' '] request.arguments
  { request.say (line ++ ['\n']) with endless := true }

end Checkup.Shell
