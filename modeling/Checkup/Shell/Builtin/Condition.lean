import Checkup.Shell.Builtin
import Checkup.Shell.Programs

/-!
# Conditions

What a test says about texts, numbers and files.
-/

namespace Checkup.Shell

/-- What a word of a test may be. -/
inductive Operator where
  | unary (letter : Char)
  | binary (sign : String)
  | negation
  | conjunction
  | disjunction
  | opening
  | closing
  deriving DecidableEq

/-- The operator that a word is. -/
def operator? (word : List Char) : Option Operator :=
  match word with
  | ['!'] => some .negation
  | ['('] => some .opening
  | [')'] => some .closing
  | ['-', 'a'] => some .conjunction
  | ['-', 'o'] => some .disjunction
  | ['-', letter] =>
    if "rwxefdcbpugkstznhOGLS".toList.contains letter then some (.unary letter) else none
  | word =>
    let sign := String.ofList word
    if ["=", "!=", "<", ">", "-eq", "-ne", "-ge", "-gt", "-le", "-lt", "-nt", "-ot", "-ef"].contains
      sign then some (.binary sign)
    else none

/-- A word of a test as it is taken. -/
inductive Operand where
  | ending
  | operand
  | operator (operator : Operator)
  deriving DecidableEq

/-- How the word at the head of others is taken. A sign in front of no operand, or in
front of a binary sign that has an operand, is an operand. -/
def takeOperand : List (List Char) → Operand
  | [] => .ending
  | word :: rest =>
    match operator? word with
    | some (.unary letter) =>
      let isOperand := match rest with
        | [] => true
        | [_] => false
        | second :: _ => match operator? second with
          | some (.binary _) => true
          | _ => false
      if isOperand then .operand else .operator (.unary letter)
    | some .opening => if rest.isEmpty then .operand else .operator .opening
    | some operator => .operator operator
    | none => .operand

/-- The number of an operand. -/
def operandNumber (text : List Char) : Act Int := do
  match wholeNumber? false text with
  | some value => pure value
  | none => refuse ("Illegal number: ".toList ++ text)

/-- A test of a file, or of a text. -/
def unaryTest (letter : Char) (text : List Char) : Act Bool := do
  if letter = 'n' then return !text.isEmpty
  if letter = 'z' then return text.isEmpty
  if letter = 't' then
    let _ ← operandNumber text
    return false
  match ← findNode text with
  | .error _ => pure false
  | .ok found =>
    pure (match letter, found with
      | 'd', .folder | 'x', .folder | 's', .folder => true
      | 'f', .file .. | 'f', .system _ | 'x', .system _ | 's', .system _ => true
      | 'x', .file _ runs _ => runs
      | 's', .file _ _ bytes => !bytes.isEmpty
      | 'c', .device => true
      | letter, _ => "erwOG".toList.contains letter)

/-- A test of two operands. -/
def binaryTest (sign : String) (first second : List Char) : Act Bool := do
  let compare (holds : Int → Int → Bool) : Act Bool := do
    let a ← operandNumber first
    let b ← operandNumber second
    pure (holds a b)
  match sign with
  | "=" => pure (first = second)
  | "!=" => pure (first ≠ second)
  | "<" => pure (!textBefore second first)
  | ">" => pure (!textBefore first second)
  | "-eq" => compare fun a b => a = b
  | "-ne" => compare fun a b => a ≠ b
  | "-lt" => compare fun a b => a < b
  | "-le" => compare fun a b => a ≤ b
  | "-gt" => compare fun a b => b < a
  | "-ge" => compare fun a b => b ≤ a
  | "-ef" => do
    let tree ← theTree
    match tree.locate (namedPath first), tree.locate (namedPath second) with
    | .ok a, .ok b => pure (a = b)
    | _, _ => pure false
  | _ => pure false

/-- Fail at an operator. -/
def refuseTest {α : Type} (operator words : List Char) : Act α :=
  refuse ((if operator.isEmpty then [] else operator ++ [':', ' ']) ++ words)

mutual

/-- Tests of which one has to hold. The words that are left begin with the last one that
was taken. -/
def someTest (fuel : Nat) (words : List (List Char)) : Act (Bool × List (List Char)) :=
  match fuel with
  | 0 => pure (false, [])
  | fuel + 1 => do
    let (first, rest) ← everyTest fuel words
    if takeOperand (rest.drop 1) = .operator .disjunction then
      let (second, rest) ← someTest fuel (rest.drop 2)
      pure (first || second, rest)
    else pure (first, rest)

/-- Tests that have to hold together. -/
def everyTest (fuel : Nat) (words : List (List Char)) : Act (Bool × List (List Char)) :=
  match fuel with
  | 0 => pure (false, [])
  | fuel + 1 => do
    let (first, rest) ← negatedTest fuel words
    if takeOperand (rest.drop 1) = .operator .conjunction then
      let (second, rest) ← everyTest fuel (rest.drop 2)
      pure (first && second, rest)
    else pure (first, rest)

/-- A test, or the opposite of one. -/
def negatedTest (fuel : Nat) (words : List (List Char)) : Act (Bool × List (List Char)) :=
  match fuel with
  | 0 => pure (false, [])
  | fuel + 1 => do
    if takeOperand words = .operator .negation then
      let rest := if words.drop 1 = [] then words else words.drop 1
      if words.drop 1 = [] then return (true, rest)
      let (holds, rest) ← negatedTest fuel rest
      pure (!holds, rest)
    else singleTest fuel words

/-- A single test. -/
def singleTest (fuel : Nat) (words : List (List Char)) : Act (Bool × List (List Char)) :=
  match fuel with
  | 0 => pure (false, [])
  | fuel + 1 => do
    match takeOperand words, words with
    | .ending, _ | _, [] => pure (false, words)
    | .operator .opening, _ :: rest => do
      if takeOperand rest = .operator .closing then return (false, rest)
      let (holds, rest) ← someTest fuel rest
      if takeOperand (rest.drop 1) != .operator .closing then
        refuseTest [] "closing paren expected".toList
      pure (holds, rest.drop 1)
    | .operator (.unary letter), _ :: rest =>
      match rest with
      | [] => refuseTest ['-', letter] "argument expected".toList
      | text :: _ => do pure (← unaryTest letter text, rest)
    | _, first :: sign :: rest =>
      match takeOperand (sign :: rest) with
      | .operator (.binary name) =>
        match rest with
        | [] => refuseTest name.toList "argument expected".toList
        | second :: _ => do pure (← binaryTest name first second, rest)
      | _ => pure (!first.isEmpty, words)
    | _, [text] => pure (!text.isEmpty, words)

end

/-- What words say together. -/
def wordsHold (words : List (List Char)) : Act Bool := do
  let (holds, rest) ← someTest (4 * words.length + 8) words
  match rest with
  | last :: _ :: _ => refuseTest last "unexpected operator".toList
  | _ => pure holds

/-- What words say; few of them are taken by their number. -/
def conditionHolds : (fuel : Nat) → List (List Char) → Act Bool
  | _, [] => pure false
  | 0, _ => pure false
  | fuel + 1, words => do
    let isBinary := words.length = 3 && (match (words.drop 1).head?.bind operator? with
      | some (.binary _) => true
      | _ => false)
    if (words.length = 3 || words.length = 4) && !isBinary then
      if words.head? = some ['('] && words.getLast? = some [')'] then
        wordsHold (words.drop 1).dropLast
      else if words.head? = some ['!'] then do pure (!(← conditionHolds fuel (words.drop 1)))
      else wordsHold words
    else if isBinary then
      match words with
      | [first, sign, second] => binaryTest (String.ofList sign) first second
      | _ => wordsHold words
    else wordsHold words

/-- Test a condition; a bracket has to be closed. -/
def test : Builtin := fun name arguments => do
  let isBracket := name = ['[']
  if isBracket && (arguments.getLast?.getD []).head? != some ']' then refuse "missing ]".toList
  let words := if isBracket then arguments.dropLast else arguments
  pure (if ← conditionHolds 4 words then 0 else 1)

end Checkup.Shell
