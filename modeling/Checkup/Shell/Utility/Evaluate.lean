import Checkup.Shell.Utility
import Checkup.Shell.Utility.ExpressionText

/-!
# Values of expressions in arguments

Each word is an operand or an operator of its own.
-/

namespace Checkup.Shell

/-- What keeps words from having a value. -/
structure WordFault where
  words : String
  status : Nat := 2

/-- A value with the words behind it. -/
abbrev WordValue := Except WordFault (List Char × List (List Char))

namespace WordValue

/-- The whole number that a text is. -/
def number? (text : List Char) : Option Int :=
  let (negative, digits) := match text with
    | '-' :: rest => (true, rest)
    | rest => (false, rest)
  if digits.isEmpty || !digits.all Char.isDigit then none
  else
    let size : Int := digitsValue 10 digits
    some (if negative then -size else size)

/-- A text is empty or zero. -/
def isNull (text : List Char) : Bool :=
  text.isEmpty || (text.all fun c => c = '0' || c = '-') && text != ['-']

/-- One or zero. -/
def ofBool (holds : Bool) : List Char := if holds then ['1'] else ['0']

/-- What a pattern finds at the start of a text: the first group, or how long it is. -/
def found (text pattern : List Char) : Except WordFault (List Char) :=
  match expression false pattern with
  | .error fault => .error { words := fault.words }
  | .ok expression =>
    let haystack : Haystack := { text := text.toArray }
    let grouped := (List.range pattern.length).any fun i => "\\(".toList.isPrefixOf (pattern.drop i)
    match expression.foundAt? haystack 0 with
    | none => .ok (if grouped then [] else ['0'])
    | some found =>
      if !grouped then .ok (showNumber found.stop)
      else match found.groups.lookup 1 with
        | some (start, stop) => .ok (haystack.between start stop)
        | none => .ok []

/-- The value of an operator between two values. -/
def combine (operator : String) (a b : List Char) : Except WordFault (List Char) :=
  let numbers : Except WordFault (Int × Int) := match number? a, number? b with
    | some a, some b => .ok (a, b)
    | _, _ => .error { words := "non-integer argument" }
  let order : Ordering := match number? a, number? b with
    | some a, some b => compare a b
    | _, _ => if a = b then .eq else if textBefore a b then .lt else .gt
  match operator with
  | "|" => .ok (if !isNull a then a else if !isNull b then b else ['0'])
  | "&" => .ok (if isNull a || isNull b then ['0'] else a)
  | "=" | "==" => .ok (ofBool (order = .eq))
  | "!=" => .ok (ofBool (order != .eq))
  | "<" => .ok (ofBool (order = .lt))
  | "<=" => .ok (ofBool (order != .gt))
  | ">" => .ok (ofBool (order = .gt))
  | ">=" => .ok (ofBool (order != .lt))
  | "+" => numbers.map fun (a, b) => showNumber (a + b)
  | "-" => numbers.map fun (a, b) => showNumber (a - b)
  | "*" => numbers.map fun (a, b) => showNumber (a * b)
  | "/" | "%" => do
    let (a, b) ← numbers
    if b = 0 then .error { words := "division by zero" }
    else .ok (showNumber (if operator = "/" then a.tdiv b else a.tmod b))
  | _ => found a b

/-- Operators by how tightly they bind, the loosest first. -/
def levels : List (List String) :=
  [["|"], ["&"], ["=", "==", "!=", "<", "<=", ">", ">="], ["+", "-"], ["*", "/", "%"], [":"]]

/-- Words that make no expression. -/
def malformed {α : Type} (words : String) : Except WordFault α :=
  .error { words := "syntax error: " ++ words }

/-- A missing argument. -/
def missing {α : Type} (before : List Char) : Except WordFault α :=
  malformed ("missing argument after " ++ quoted before)

/-- The value at the head of some words: that of an operand, a function or a group, or with
some levels of operators those with operators between them. The word before is told in
messages. -/
def read (fuel : Nat) (levels : List (List String)) (before : List Char)
    (words : List (List Char)) : WordValue :=
  match fuel with
  | 0 => .error { words := "syntax error" }
  | fuel + 1 =>
    match levels with
    | operators :: tighter => do
      let (value, rest) ← read fuel tighter before words
      operate fuel operators tighter value rest
    | [] =>
      let operand (before : List Char) (words : List (List Char)) : WordValue :=
        read fuel [] before words
      match words with
      | [] => missing before
      | word :: rest =>
        match String.ofList word, rest with
        | "(", rest => do
          match ← read fuel WordValue.levels word rest with
          | (value, [')'] :: rest) => .ok (value, rest)
          | (_, []) => malformed ("expecting ')' after " ++ quoted ((rest.getLast?).getD word))
          | (_, next :: _) => malformed ("expecting ')' instead of " ++ quoted next)
        | ")", _ => malformed "unexpected ')'"
        | "+", rest =>
          match rest with
          | word :: rest => .ok (word, rest)
          | [] => missing word
        | "length", _ :: _ => do
          let (text, rest) ← operand word rest
          .ok (showNumber text.length, rest)
        | "match", _ :: _ => do
          let (text, rest) ← operand word rest
          let (pattern, rest) ← operand text rest
          .ok (← found text pattern, rest)
        | "index", _ :: _ => do
          let (text, rest) ← operand word rest
          let (characters, rest) ← operand text rest
          .ok (showNumber ((text.findIdx? characters.contains).elim (0 : Int) fun i => i + 1), rest)
        | "substr", _ :: _ => do
          let (text, rest) ← operand word rest
          let (start, rest) ← operand text rest
          let (length, rest) ← operand start rest
          match number? start, number? length with
          | some start, some length =>
            .ok (if start ≤ 0 || length ≤ 0 then [] else
              (text.drop (start.toNat - 1)).take length.toNat, rest)
          | _, _ => .ok ([], rest)
        | _, rest => .ok (word, rest)
where
  /-- A value with operators of one level behind it. -/
  operate (fuel : Nat) (operators : List String) (tighter : List (List String)) (value : List Char)
      (words : List (List Char)) : WordValue :=
    match fuel with
    | 0 => .error { words := "syntax error" }
    | fuel + 1 =>
      match words with
      | word :: rest =>
        let operator := String.ofList word
        if operators.contains operator then do
          let (other, rest) ← read fuel tighter word rest
          let value ← combine operator value other
          operate fuel operators tighter value rest
        else .ok (value, words)
      | [] => .ok (value, [])

end WordValue

/-- The value of an expression, word by word. -/
def expr : Utility := fun request =>
  let words := if request.arguments.head? = some ['-', '-'] then request.arguments.drop 1
    else request.arguments
  if words.isEmpty then request.refuseUse 2 "missing operand"
  else match WordValue.read (20 * words.length + 20) WordValue.levels [] words with
    | .error fault => request.refuse fault.status fault.words
    | .ok (_, extra :: _) =>
      request.refuse 2 ("syntax error: unexpected argument " ++ quoted extra)
    | .ok (value, []) =>
      request.answer (if WordValue.isNull value then 1 else 0) [(1, value ++ ['\n'])]

end Checkup.Shell
