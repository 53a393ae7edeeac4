import Checkup.Shell.Builtin

/-!
# Writing arguments
-/

namespace Checkup.Shell

/-- What is written for some arguments, with blanks between them. -/
def echoText (silent : Bool) : List (List Char) → List Char
  | [] => if silent then [] else ['\n']
  | argument :: rest =>
    let (text, ends) := unescape argument
    if ends then text
    else match rest with
      | [] => if silent then text else text ++ ['\n']
      | rest => text ++ ' ' :: echoText silent rest

/-- Write arguments. -/
def echo : Builtin := fun name arguments =>
  match arguments with
  | ['-', 'n'] :: rest => put name (if rest.isEmpty then [] else echoText true rest)
  | arguments => put name (echoText false arguments)

/-- Output of a format as far as it is written. -/
structure Printing where
  text : List Char := []
  arguments : List (List Char)
  used : Bool := false
  status : Nat := 0
  ends : Bool := false

/-- The next argument. -/
def Printing.take (printing : Printing) : List Char × Printing :=
  match printing.arguments with
  | [] => ([], printing)
  | first :: rest => (first, { printing with arguments := rest, used := true })

/-- More text. -/
def Printing.add (text : List Char) (printing : Printing) : Printing :=
  { printing with text := printing.text ++ text }

/-- Complain about an argument that is no number, or not all of it. -/
def checkNumber (argument rest : List Char) (found tooLarge : Bool) (printing : Printing) :
    Act Printing := do
  let say (words : String) : Act Printing := do
    complain (argument ++ words.toList)
    pure { printing with status := 1 }
  if !rest.isEmpty then
    say (if found then ": not completely converted" else ": expected numeric value")
  else if tooLarge then say ": Numerical result out of range"
  else pure printing

/-- The number of the next argument: behind a quote, the character. -/
def takeNumber (signed : Bool) (printing : Printing) : Act (Int × Printing) := do
  if printing.arguments.isEmpty then return (0, printing)
  let (argument, printing) := printing.take
  match argument with
  | '\x27' :: rest | '"' :: rest => pure ((rest.headD null).toNat, printing)
  | argument => do
    let scanned := scanNumber none argument
    if signed || !scanned.tooLarge then
      let rest := if scanned.found then scanned.rest else argument
      pure (scanned.value, ← checkNumber argument rest scanned.found scanned.tooLarge printing)
    else do
      let text := argument.dropWhile isSpace
      let (negative, digits) := match text with
        | '-' :: digits => (true, digits)
        | '+' :: digits => (false, digits)
        | digits => (false, digits)
      let (base, digits) := detectBase digits
      let size := digitsValue base (digits.takeWhile (isDigitOf base))
      let tooLarge := Nat.pow 2 64 ≤ size
      let value : Int := if tooLarge then Nat.pow 2 64 - 1 else if negative then -size else size
      pure (value, ← checkNumber argument scanned.rest true tooLarge printing)

/-- The number with a point of the next argument. -/
def takeFloat (printing : Printing) : Act (Binary64 × Printing) := do
  if printing.arguments.isEmpty then return (.zeroWith false, printing)
  let (argument, printing) := printing.take
  match argument with
  | '\x27' :: rest | '"' :: rest =>
    pure (.ofRatio false (rest.headD null).toNat 1, printing)
  | argument =>
    match scanFloat? argument with
    | some (value, tooLarge, rest) => do
      pure (value, ← checkNumber argument rest true tooLarge printing)
    | none => do
      pure (.zeroWith false, ← checkNumber argument argument false false printing)

/-- A width or a precision: a star stands for an argument. -/
def takeSize (format : List Char) (printing : Printing) :
    Act (Option Int × List Char × Printing) := do
  match format with
  | '*' :: rest => do
    let (value, printing) ← takeNumber true printing
    pure (some value, rest, printing)
  | format =>
    let digits := format.takeWhile Char.isDigit
    pure (if digits.isEmpty then none else some (digitsValue 10 digits),
      format.drop digits.length, printing)

/-- Fail, with the output so far. -/
def refusePrinting {α : Type} (words : List Char) (printing : Printing) : Act α := do
  complain words
  say 1 printing.text
  setStatus 2
  throw .failed

/-- Write the directive behind a percent sign; the text behind it is left. -/
def printDirective (format : List Char) (printing : Printing) : Act (List Char × Printing) := do
  let flags := format.takeWhile "#-+ 0".toList.contains
  let (width?, rest, printing) ← takeSize (format.drop flags.length) printing
  let (precision?, rest, printing) ← match rest with
    | '.' :: rest => do
      let (precision?, rest, printing) ← takeSize rest printing
      pure (some (precision?.getD 0), rest, printing)
    | rest => pure (none, rest, printing)
  let width := width?.getD 0
  let directive (kind : Char) : Directive :=
    { flags := if width < 0 then '-' :: flags else flags
      width := width.natAbs
      precision := precision?.bind fun precision => if precision < 0 then none else some precision.toNat
      kind }
  match rest with
  | [] => refusePrinting "missing format character".toList printing
  | kind :: rest =>
    let directive := directive kind
    if kind = 's' then
      let (argument, printing) := printing.take
      pure (rest, printing.add (directive.text argument))
    else if kind = 'b' then
      let (argument, printing) := printing.take
      let (text, ends) := unescape argument
      pure (rest, { printing.add (directive.text text) with ends })
    else if kind = 'c' then
      let (argument, printing) := printing.take
      pure (rest, printing.add (directive.padded [argument.headD null]))
    else if kind = 'd' || kind = 'i' then do
      let (value, printing) ← takeNumber true printing
      pure (rest, printing.add (directive.whole value))
    else if kind = 'o' || kind = 'u' || kind = 'x' || kind = 'X' then do
      let (value, printing) ← takeNumber false printing
      pure (rest, printing.add (directive.whole value))
    else if "eEfFgG".toList.contains kind then do
      let (value, printing) ← takeFloat printing
      pure (rest, printing.add (directive.float value))
    else
      let directiveText := '%' :: format.take (format.length - rest.length)
      refusePrinting (directiveText ++ ": invalid directive".toList) printing

/-- Write a format once. -/
def printOnce (fuel : Nat) (format : List Char) (printing : Printing) : Act Printing :=
  match fuel with
  | 0 => pure printing
  | fuel + 1 =>
    match format with
    | [] => pure printing
    | '\\' :: rest =>
      let (c, length) := escape rest
      printOnce fuel (rest.drop length) (printing.add [c])
    | '%' :: '%' :: rest => printOnce fuel rest (printing.add ['%'])
    | '%' :: rest => do
      let (rest, printing) ← printDirective rest printing
      if printing.ends then pure printing else printOnce fuel rest printing
    | format =>
      let text := format.takeWhile fun c => c != '\\' && c != '%'
      printOnce fuel (format.drop text.length) (printing.add text)

/-- Write a format again and again, as long as arguments are left. -/
def printAll (fuel : Nat) (format : List Char) (printing : Printing) : Act Printing :=
  match fuel with
  | 0 => pure printing
  | fuel + 1 => do
    let printing ← printOnce (format.length + 1) format printing
    if printing.ends || !printing.used || printing.arguments.isEmpty then pure printing
    else printAll fuel format printing

/-- Write arguments as a format says. -/
def printf : Builtin := fun name arguments => do
  let (_, arguments) ← takeOptions [] arguments
  match arguments with
  | [] => refuse "usage: printf format [arg ...]".toList
  | format :: arguments => do
    let printing ← printAll (arguments.length + 1) format { arguments }
    let status ← put name printing.text
    pure (max status printing.status)

end Checkup.Shell
