import Checkup.Shell.Bytes

/-!
# Expressions

Expressions over whole numbers of 64 bits and variables. They are worked out as
they are read, so a variable is set even if the expression turns out to be
flawed further on. What a condition leaves out is read, and does nothing.
-/

namespace Checkup.Shell.Arithmetic

/-- A token of an expression. -/
inductive Token where
  | number (value : Int)
  | name (name : List Char)
  | sign (sign : String)
  | unknown
  | ending
  deriving DecidableEq, Repr

/-- What is wrong with an expression. -/
inductive Flaw where
  /-- Something else was expected, or cannot be done. -/
  | words (words : String)
  /-- A variable that holds no number. -/
  | illegalNumber (text : List Char)
  deriving DecidableEq, Repr

/-- The message for a flaw of an expression. -/
def Flaw.message (expression : List Char) : Flaw → List Char
  | .words what => ofText ("arithmetic expression: " ++ what ++ ": \"") ++ expression ++ ['"']
  | .illegalNumber text => ofText "Illegal number: " ++ text

/-- The state of a calculation. -/
structure Desk where
  rest : List Char
  /-- The token behind what was read. -/
  token : Token := .ending
  /-- Variables that were set, the latest first. -/
  changes : List (List Char × Int) := []
  /-- The text of a variable. -/
  lookUp : List Char → List Char

/-- A calculation, which may fail. -/
abbrev Calculation := ExceptT Flaw (StateM Desk)

/-- The signs, longer ones before shorter ones with the same start. -/
def signs : List String :=
  ["<<=", ">>=", "&&", "||", "<<", ">>", "<=", ">=", "==", "!=", "+=", "-=", "*=", "/=", "%=",
   "&=", "|=", "^=", "+", "-", "*", "/", "%", "<", ">", "=", "!", "~", "(", ")", "?", ":", "&",
   "|", "^"]

/-- The token at the head of a text, and the text behind it. -/
def takeToken (text : List Char) : Token × List Char :=
  let text := text.dropWhile fun c => c = ' ' || c = '\t' || c = '\n'
  match text with
  | [] => (.ending, [])
  | c :: _ =>
    if c.isDigit then
      let scanned := scanNumber none text
      (.number scanned.value, scanned.rest)
    else if isNameStart c then (.name (text.takeWhile isNameChar), text.dropWhile isNameChar)
    else match signs.find? fun sign => sign.toList.isPrefixOf text with
      | some sign => (.sign sign, text.drop sign.length)
      | none => (.unknown, text)

/-- Read a token. -/
def nextToken : Calculation Token := modifyGet fun desk =>
  let (token, rest) := takeToken desk.rest
  (token, { desk with rest })

/-- Keep the token behind what was read. -/
def leave (token : Token) : Calculation Unit := modify fun desk => { desk with token }

/-- The token behind what was read. -/
def behind : Calculation Token := do pure (← get).token

/-- Fail. -/
def fail {α : Type} (words : String) : Calculation α := throw (.words words)

/-- A number of 64 bits. -/
def wrap (value : Int) : Int := value.bmod (Nat.pow 2 64)

/-- The bits of a number. -/
def bits (value : Int) : Nat := (value.emod (Nat.pow 2 64)).toNat

/-- One for a condition that holds, zero for one that does not. -/
def ofCondition (condition : Bool) : Int := if condition then 1 else 0

/-- How loosely a sign binds its two operands. -/
def looseness? (token : Token) : Option Nat :=
  match token with
  | .sign sign =>
    [["*", "/", "%"], ["+", "-"], ["<<", ">>"], ["<", "<=", ">", ">="], ["==", "!="], ["&"], ["^"],
      ["|"]].findIdx? (·.contains sign)
  | _ => none

/-- The sign of the change that an assignment makes; a plain one makes none. -/
def changeOf? (token : Token) : Option (Option String) :=
  match token with
  | .sign "=" => some none
  | .sign sign =>
    if ["+=", "-=", "*=", "/=", "%=", "<<=", ">>=", "&=", "|=", "^="].contains sign then
      some (some (sign.dropEnd 1).toString)
    else none
  | _ => none

/-- The value of a sign between two numbers. -/
def combine (sign : String) (left right : Int) : Calculation Int :=
  match sign with
  | "+" => pure (wrap (left + right))
  | "-" => pure (wrap (left - right))
  | "*" => pure (wrap (left * right))
  | "/" => if right = 0 then fail "division by zero" else pure (wrap (left.tdiv right))
  | "%" => if right = 0 then fail "division by zero" else pure (wrap (left.tmod right))
  | "<<" => pure (wrap (left * Int.ofNat (Nat.pow 2 (bits right % 64))))
  | ">>" => pure (wrap (left.fdiv (Int.ofNat (Nat.pow 2 (bits right % 64)))))
  | "&" => pure (wrap (bits left &&& bits right : Nat))
  | "|" => pure (wrap (bits left ||| bits right : Nat))
  | "^" => pure (wrap (bits left ^^^ bits right : Nat))
  | "<" => pure (ofCondition (left < right))
  | "<=" => pure (ofCondition (left ≤ right))
  | ">" => pure (ofCondition (right < left))
  | ">=" => pure (ofCondition (right ≤ left))
  | "==" => pure (ofCondition (left = right))
  | _ => pure (ofCondition (left ≠ right))

/-- The number of a variable. -/
def valueOf (name : List Char) : Calculation Int := do
  let desk ← get
  match desk.changes.lookup name with
  | some value => pure value
  | none =>
    let text := desk.lookUp name
    match wholeNumber? true text with
    | some value => pure value
    | none => throw (.illegalNumber text)

mutual

/-- A number, a variable, a bracketed expression, or one of these behind a sign. It
starts with a token, and the one behind that is known. -/
def primary (fuel : Nat) (idle : Bool) (token second : Token) : Calculation Int :=
  match fuel with
  | 0 => fail "expecting primary"
  | fuel + 1 =>
    match token with
    | .sign "(" => do
      let value ← assignment fuel idle second
      if (← behind) != .sign ")" then fail "expecting ')'"
      leave (← nextToken)
      pure value
    | .number value => do
      leave second
      pure value
    | .name name => do
      leave second
      if idle then pure 0 else valueOf name
    | .sign "+" => do primary fuel idle second (← nextToken)
    | .sign "-" => do pure (wrap (-(← primary fuel idle second (← nextToken))))
    | .sign "!" => do pure (ofCondition ((← primary fuel idle second (← nextToken)) = 0))
    | .sign "~" => do pure (wrap (-(← primary fuel idle second (← nextToken)) - 1))
    | _ => fail "expecting primary"

/-- Further operands, of signs that bind closer than a bound. The first sign was read. -/
def operations (fuel : Nat) (idle : Bool) (bound : Nat) (left : Int) (sign : String) :
    Calculation Int :=
  match fuel with
  | 0 => fail "expecting primary"
  | fuel + 1 => do
    let own := (looseness? (.sign sign)).getD 0
    let token ← nextToken
    let first ← primary fuel idle token (← nextToken)
    let right ←
      match ← behind with
      | .sign next =>
        if (looseness? (.sign next)).any (· < own) then operations fuel idle own first next
        else pure first
      | _ => pure first
    let value ← if idle then pure right else combine sign left right
    match ← behind with
    | .sign next =>
      if (looseness? (.sign next)).any (· < bound) then operations fuel idle bound value next
      else pure value
    | _ => pure value

/-- Operands with signs between them. -/
def operation (fuel : Nat) (idle : Bool) (token second : Token) : Calculation Int :=
  match fuel with
  | 0 => fail "expecting primary"
  | fuel + 1 => do
    let value ← primary fuel idle token second
    match ← behind with
    | .sign sign =>
      if (looseness? (.sign sign)).isSome then operations fuel idle 8 value sign else pure value
    | _ => pure value

/-- Conditions that have to hold together. -/
def conjunction (fuel : Nat) (idle : Bool) (token second : Token) : Calculation Int :=
  match fuel with
  | 0 => fail "expecting primary"
  | fuel + 1 => do
    let value ← operation fuel idle token second
    if (← behind) != .sign "&&" then return value
    let token ← nextToken
    let other ← conjunction fuel (idle || value = 0) token (← nextToken)
    pure (ofCondition (value ≠ 0 && other ≠ 0))

/-- Conditions of which one has to hold. -/
def disjunction (fuel : Nat) (idle : Bool) (token second : Token) : Calculation Int :=
  match fuel with
  | 0 => fail "expecting primary"
  | fuel + 1 => do
    let value ← conjunction fuel idle token second
    if (← behind) != .sign "||" then return value
    let token ← nextToken
    let other ← disjunction fuel (idle || value ≠ 0) token (← nextToken)
    pure (ofCondition (value ≠ 0 || other ≠ 0))

/-- One of two values, as a condition says. -/
def condition (fuel : Nat) (idle : Bool) (token second : Token) : Calculation Int :=
  match fuel with
  | 0 => fail "expecting primary"
  | fuel + 1 => do
    let value ← disjunction fuel idle token second
    if (← behind) != .sign "?" then return value
    let first ← assignment fuel (idle || value = 0) (← nextToken)
    if (← behind) != .sign ":" then fail "expecting ':'"
    let token ← nextToken
    let other ← condition fuel (idle || value ≠ 0) token (← nextToken)
    pure (if value ≠ 0 then first else other)

/-- A value that a variable may take. -/
def assignment (fuel : Nat) (idle : Bool) (token : Token) : Calculation Int :=
  match fuel with
  | 0 => fail "expecting primary"
  | fuel + 1 => do
    let second ← nextToken
    match token, changeOf? second with
    | .name name, some change => do
      let value ← assignment fuel idle (← nextToken)
      if idle then return value
      let value ← match change with
        | none => pure value
        | some sign => combine sign (← valueOf name) value
      modify fun desk => { desk with changes := (name, value) :: desk.changes }
      pure value
    | token, _ => condition fuel idle token second

end

/-- The value of an expression or what is wrong with it, and the variables that it sets,
the earliest first. -/
def evaluate (lookUp : List Char → List Char) (text : List Char) :
    Except Flaw Int × List (List Char × Int) :=
  let work : Calculation Int := do
    let value ← assignment (8 * text.length + 8) false (← nextToken)
    if (← behind) != .ending then fail "expecting EOF"
    pure value
  let (result, desk) := work.run.run { rest := text, lookUp }
  (result, desk.changes.reverse)

end Checkup.Shell.Arithmetic
