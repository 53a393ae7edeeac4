import Checkup.Shell.Bytes

/-!
# Wildcards

Patterns of the shell: a star stands for any text, a question mark for one
character, and brackets for one of some characters. A backslash makes the
character behind it stand for itself.
-/

namespace Checkup.Shell

/-- Classes of characters, as they are named between brackets and colons. -/
def characterClasses : List (String × (Char → Bool)) :=
  [(":alnum:]", Char.isAlphanum), (":alpha:]", Char.isAlpha),
   (":blank:]", fun c => c = ' ' || c = '\t'), (":cntrl:]", fun c => c.toNat < 32 || c.toNat = 127),
   (":digit:]", Char.isDigit), (":graph:]", isGraphic), (":lower:]", Char.isLower),
   (":print:]", fun c => isGraphic c || c = ' '),
   (":punct:]", fun c => isGraphic c && !c.isAlphanum), (":space:]", isSpace),
   (":upper:]", Char.isUpper), (":xdigit:]", isDigitOf 16)]
where
  /-- A character that leaves a mark. -/
  isGraphic (c : Char) : Bool := 33 ≤ c.toNat && c.toNat ≤ 126

/-- The class that a text starts with, and the text behind it. -/
def takeClass? (text : List Char) : Option ((Char → Bool) × List Char) :=
  characterClasses.findSome? fun (name, has) =>
    if name.toList.isPrefixOf text then some (has, text.drop name.length) else none

/-- Whether a character is among those that brackets list, and the pattern behind the
closing bracket. The first character listed may be a closing bracket itself. -/
def takeSet? (fuel : Nat) (sought : Char) (first found : Bool) (pattern : List Char) :
    Option (Bool × List Char) :=
  match fuel, pattern with
  | 0, _ | _, [] => none
  | fuel + 1, c :: rest =>
    if c = ']' && !first then some (found, rest)
    else match if c = '[' then takeClass? rest else none with
      | some (has, rest) => takeSet? fuel sought false (found || has sought) rest
      | none =>
        match if c = '\\' then rest else c :: rest with
        | [] => none
        | low :: rest =>
          let single := takeSet? fuel sought false (found || sought = low) rest
          match rest with
          | '-' :: high :: more =>
            if high = ']' then single
            else
              let range (high : Char) (more : List Char) : Option (Bool × List Char) :=
                let within := signedByte low ≤ signedByte sought &&
                  signedByte sought ≤ signedByte high
                takeSet? fuel sought false (found || within) more
              match high, more with
              | '\\', high :: more => range high more
              | high, more => range high more
          | ['-'] => none
          | _ => single

/-- Whether a text is one of those that a pattern stands for. -/
def matchesPattern (pattern text : List Char) : Bool :=
  match pattern, text with
  | [], text => text.isEmpty
  | '*' :: pattern, [] => matchesPattern pattern []
  | '*' :: pattern, c :: text =>
    matchesPattern pattern (c :: text) || matchesPattern ('*' :: pattern) text
  | _ :: _, [] => false
  | '?' :: pattern, _ :: text => matchesPattern pattern text
  | '\\' :: d :: pattern, c :: text => c = d && matchesPattern pattern text
  | '[' :: pattern, c :: text =>
    let negated := pattern.head? = some '!'
    let listed := if negated then pattern.drop 1 else pattern
    match takeSet? (listed.length + 1) c true false listed with
    | some (found, rest) =>
      found != negated && matchesPattern (rest.drop (rest.length - pattern.length)) text
    | none => c = '[' && matchesPattern pattern text
  | d :: pattern, c :: text => c = d && matchesPattern pattern text
termination_by (pattern.length, text.length)
decreasing_by all_goals (simp_wf; try simp only [Prod.lex_def]; try simp_all; try omega)

/-- A text that only stands for itself, as a pattern. -/
def guardPattern (text : List Char) : List Char := text.flatMap fun c => ['\\', c]

/-- A pattern holds a sign that may stand for more than itself. -/
def mayMatchMore (pattern : List Char) : Bool := pattern.any fun c => c = '*' || c = '?' || c = '['

/-- Where a text is cut that a pattern stands for at its start or at its end: the shortest or
the longest such part. A null character ends what is compared, so that of several texts with
null characters between them the first one counts from its start, and each one from where it is
cut. -/
def cutPlace? (atEnd longest : Bool) (pattern text : List Char) : Option Nat :=
  let compared (place : Nat) : List Char :=
    (if atEnd then text.drop place else text.take place).takeWhile (·.toNat != 0)
  let fromLeft := atEnd = longest
  let places :=
    if fromLeft then List.range ((text.takeWhile (·.toNat != 0)).length + 1)
    else (List.range (text.length + 1)).reverse
  places.find? fun place => matchesPattern pattern (compared place)

end Checkup.Shell
