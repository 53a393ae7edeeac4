import Checkup.Shell.Utility.Expression

/-!
# How regular expressions are written

There are two ways. In the basic one the signs for groups, choices and counts
stand behind backslashes; in the extended one they stand alone.
-/

namespace Checkup.Shell

/-- What is wrong with an expression. -/
inductive ExpressionFault where
  | openBracket | openGroup | closedGroup | openCount | badCount | noCounted | badAgain
  | lastBackslash | badRange | badClass
  deriving DecidableEq, Repr

/-- The words for what is wrong. -/
def ExpressionFault.words : ExpressionFault → String
  | openBracket => "Unmatched [, [^, [:, [., or [="
  | openGroup => "Unmatched ( or \\("
  | closedGroup => "Unmatched ) or \\)"
  | openCount => "Unmatched \\\x7b"
  | badCount => "Invalid content of \\\x7b\\\x7d"
  | noCounted => "Invalid preceding regular expression"
  | badAgain => "Invalid back reference"
  | lastBackslash => "Trailing backslash"
  | badRange => "Invalid range end"
  | badClass => "Invalid character class name"

/-- The characters that brackets list, and the text behind them. A closing bracket may come
first. -/
def takeBrackets (fuel : Nat) (first : Bool) (has : Char → Bool) (text : List Char) :
    Except ExpressionFault ((Char → Bool) × List Char) :=
  match fuel, text with
  | 0, _ | _, [] => .error .openBracket
  | fuel + 1, c :: rest =>
    if c = ']' && !first then .ok (has, rest)
    else
      let single : Except ExpressionFault ((Char → Bool) × List Char) :=
        match rest with
        | '-' :: high :: more =>
          if high = ']' then takeBrackets fuel false (fun d => has d || d = c) rest
          else if high < c then .error .badRange
          else takeBrackets fuel false (fun d => has d || (c ≤ d && d ≤ high)) more
        | rest => takeBrackets fuel false (fun d => has d || d = c) rest
      match c, rest with
      | '[', ':' :: _ =>
        match takeClass? rest with
        | some (other, rest) => takeBrackets fuel false (fun d => has d || other d) rest
        | none => .error .badClass
      | '[', '=' :: d :: '=' :: ']' :: rest | '[', '.' :: d :: '.' :: ']' :: rest =>
        takeBrackets fuel false (fun e => has e || e = d) rest
      | '\\', 'n' :: rest => takeBrackets fuel false (fun d => has d || d = '\n') rest
      | '\\', 't' :: rest => takeBrackets fuel false (fun d => has d || d = '\t') rest
      | _, _ => single

/-- A sign of an expression. -/
inductive ExpressionSign where
  | part (part : Expression)
  | again (number : Nat)
  /-- Start of a line, or a plain caret. -/
  | caret
  | dollar
  | opening
  | closing
  | choice
  | count (least : Nat) (most : Option Nat)
  /-- A star, a plus or a question mark is plain where nothing is in front of it. -/
  | repetition (least : Nat) (most : Option Nat) (plain : Char)

/-- The counts between braces, and the text behind them. -/
def takeCount (extended : Bool) (text : List Char) :
    Except ExpressionFault (ExpressionSign × List Char) := do
  let low := text.takeWhile Char.isDigit
  let rest := text.drop low.length
  let least := digitsValue 10 low
  let (most, rest) ← match rest with
    | ',' :: rest =>
      let high := rest.takeWhile Char.isDigit
      let most := if high.isEmpty then none else some (digitsValue 10 high)
      pure (most, rest.drop high.length)
    | rest => if low.isEmpty then .error .badCount else pure (some least, rest)
  if most.any (· < least) then .error .badCount
  match extended, rest with
  | true, '\x7d' :: rest => .ok (.count least most, rest)
  | false, '\\' :: '\x7d' :: rest => .ok (.count least most, rest)
  | _, [] => .error .openCount
  | _, _ => .error .badCount

/-- The sign at the head of a text, and the text behind it. -/
def takeSign (extended : Bool) (c : Char) (rest : List Char) :
    Except ExpressionFault (ExpressionSign × List Char) :=
  let one (has : Char → Bool) : Except ExpressionFault (ExpressionSign × List Char) :=
    .ok (.part (.one has), rest)
  match c with
  | '.' => one fun _ => true
  | '^' => .ok (.caret, rest)
  | '$' => .ok (.dollar, rest)
  | '*' => .ok (.repetition 0 none '*', rest)
  | '[' => do
    let negated := rest.head? = some '^'
    let listed := if negated then rest.drop 1 else rest
    let (has, rest) ← takeBrackets (listed.length + 1) true (fun _ => false) listed
    .ok (.part (.one (if negated then fun c => !has c else has)), rest)
  | '\\' =>
    match rest with
    | [] => .error .lastBackslash
    | d :: rest =>
      let part (part : Expression) : Except ExpressionFault (ExpressionSign × List Char) :=
        .ok (.part part, rest)
      let sign (sign : ExpressionSign) : Except ExpressionFault (ExpressionSign × List Char) :=
        if extended then part (.one (· = d)) else .ok (sign, rest)
      match d with
      | '(' => sign .opening
      | ')' => sign .closing
      | '|' => sign .choice
      | '+' => sign (.repetition 1 none '+')
      | '?' => sign (.repetition 0 (some 1) '?')
      | '\x7b' => if extended then part (.one (· = d)) else takeCount false rest
      | 'w' => part (.one isWordChar)
      | 'W' => part (.one (!isWordChar ·))
      | 's' => part (.one isSpace)
      | 'S' => part (.one (!isSpace ·))
      | '<' => part (.anchor .wordStart)
      | '>' => part (.anchor .wordEnd)
      | 'b' => part (.anchor .wordEdge)
      | 'B' => part (.anchor .noWordEdge)
      | '`' => part (.anchor .lineStart)
      | 'n' => part (.one (· = '\n'))
      | 't' => part (.one (· = '\t'))
      | d =>
        if d.isDigit && d != '0' then .ok (.again (d.toNat - 48), rest) else part (.one (· = d))
  | '(' => if extended then .ok (.opening, rest) else one (· = c)
  | ')' => if extended then .ok (.closing, rest) else one (· = c)
  | '|' => if extended then .ok (.choice, rest) else one (· = c)
  | '+' => if extended then .ok (.repetition 1 none '+', rest) else one (· = c)
  | '?' => if extended then .ok (.repetition 0 (some 1) '?', rest) else one (· = c)
  | '\x7b' =>
    if !extended then one (· = c)
    else match takeCount true rest with
      | .ok result => .ok result
      | .error _ => one (· = c)
  | c => one (· = c)

/-- A text ends where a dollar sign stands for the end of a line. -/
def endsBranch (extended : Bool) (rest : List Char) : Bool :=
  rest.isEmpty ||
    (if extended then rest.head? = some ')' || rest.head? = some '|'
    else "\\)".toList.isPrefixOf rest || "\\|".toList.isPrefixOf rest)

/-- Choices, each of which is a row of parts that comes in reverse. -/
structure ExpressionDraft where
  choices : List Expression := []
  parts : List Expression := []

namespace ExpressionDraft

/-- One more part. -/
def add (part : Expression) (draft : ExpressionDraft) : ExpressionDraft :=
  { draft with parts := part :: draft.parts }

/-- The row of parts in hand. -/
def row (draft : ExpressionDraft) : Expression :=
  draft.parts.foldl (fun behind part => match behind with
    | .nothing => part
    | behind => .sequence part behind) .nothing

/-- The row in hand is a choice of its own. -/
def choose (draft : ExpressionDraft) : ExpressionDraft := { choices := draft.row :: draft.choices }

/-- The whole. -/
def whole (draft : ExpressionDraft) : Expression :=
  draft.choices.foldl (fun behind choice => .either choice behind) draft.row

end ExpressionDraft

/-- The expression that a text writes, behind a draft, the drafts around it with the numbers of
their groups, and the next number. -/
def readExpression (extended : Bool) (fuel : Nat) (draft : ExpressionDraft)
    (outer : List (Nat × ExpressionDraft))
    (number : Nat) (text : List Char) : Except ExpressionFault Expression :=
  match fuel, text with
  | 0, _ | _, [] =>
    match outer with
    | [] => .ok draft.whole
    | _ :: _ => .error .openGroup
  | fuel + 1, c :: rest => do
    let go (draft : ExpressionDraft) (rest : List Char) : Except ExpressionFault Expression :=
      readExpression extended fuel draft outer number rest
    let (sign, rest) ← takeSign extended c rest
    let count (least : Nat) (most : Option Nat) (plain : Option Char) :
        Except ExpressionFault Expression :=
      match draft.parts, plain with
      | .anchor .lineStart :: _, some c =>
        if extended then go draft rest else go (draft.add (.one (· = c))) rest
      | body :: parts, _ => go { draft with parts := .many least most body :: parts } rest
      | [], some c => if extended then go draft rest else go (draft.add (.one (· = c))) rest
      | [], none => .error .noCounted
    match sign with
    | .part part => go (draft.add part) rest
    | .again again =>
      if again < number then go (draft.add (.again again)) rest else .error .badAgain
    | .caret =>
      let part : Expression :=
        if extended || draft.parts.isEmpty then .anchor .lineStart else .one (· = '^')
      go (draft.add part) rest
    | .dollar =>
      let part : Expression :=
        if extended || endsBranch extended rest then .anchor .lineEnd else .one (· = '$')
      go (draft.add part) rest
    | .opening => readExpression extended fuel {} ((number, draft) :: outer) (number + 1) rest
    | .closing =>
      match outer with
      | (own, before) :: outer =>
        readExpression extended fuel (before.add (.group own draft.whole)) outer number rest
      | [] => if extended then go (draft.add (.one (· = ')'))) rest else .error .closedGroup
    | .choice => go draft.choose rest
    | .count least most => count least most none
    | .repetition least most plain => count least most (some plain)

/-- The expression that a text writes. -/
def expression (extended : Bool) (text : List Char) : Except ExpressionFault Expression :=
  readExpression extended (text.length + 1) {} [] 1 text

end Checkup.Shell
