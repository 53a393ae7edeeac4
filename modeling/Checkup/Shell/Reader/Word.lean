import Checkup.Shell.Reader

/-!
# Reading words

A word goes on to the next blank or sign that no quotes, braces or brackets hold.
Documents and prompts are read as words in double quotes that end elsewhere.
-/

namespace Checkup.Shell

/-- What is read as a word. -/
inductive WordKind where
  | plain
  /-- A word that ends a document, in which nothing is expanded. -/
  | endMark
  | document (announcement : Announcement)
  | prompt

/-- The word is no part of a command: quotes around all of it mean nothing. -/
def WordKind.isText : WordKind → Bool
  | document _ | prompt => true
  | plain | endMark => false

/-- What encloses the parts in hand: nothing, braces, which may stand in double
quotes, or the brackets of an expression. -/
inductive Enclosure where
  | none
  | braces (doubled : Bool)
  | sum
  deriving DecidableEq

/-- The quotes that are open. -/
inductive Quotes where
  | none
  | single
  | double
  /-- The quotes of an expression, which hold all signs but brackets. -/
  | sum
  deriving DecidableEq

/-- Parts of a word as far as they are read, the latest first. -/
structure Draft where
  parts : List Part := []
  quoted : Bool := false

namespace Draft

/-- One more part. -/
def push (part : Part) (draft : Draft) : Draft := { draft with parts := part :: draft.parts }

/-- One more part that is quoted. -/
def quote (part : Part) (draft : Draft) : Draft := ⟨part :: draft.parts, true⟩

end Draft

/-- The place in a word: what encloses it, the quotes, how deep in the brackets of an
expression, and whether it is in quotes of its own between doubled braces. -/
structure Place where
  enclosure : Enclosure := .none
  quotes : Quotes := .none
  depth : Nat := 0
  inner : Bool := false

/-- Signs that end a word. -/
def endsWord (c : Char) : Bool := " \t<>();&|".toList.contains c

/-- Signs that mean something in a word, and nothing in quotes. -/
def isQuotable (c : Char) : Bool := "!*?[=~:/-]".toList.contains c

/-- Parameters that are named by one sign. -/
def isSpecialName (c : Char) : Bool := c.isDigit || "!?#*@$-".toList.contains c

/-- The next character of a word. -/
def nextOf (fuel : Nat) (place : Place) : Reading (Option Char) :=
  if place.quotes = .single then nextChar else nextJoined fuel

/-- The tabs at the start of a line are dropped. -/
def dropTabs (fuel : Nat) (c : Option Char) : Reading (Option Char) :=
  match fuel, c with
  | fuel + 1, some '\t' => do dropTabs fuel (← nextChar)
  | _, c => pure c

/-- Whether a line is the end mark of a document. If it is not, nothing was read. -/
def isEndMarkLine (fuel : Nat) (c : Option Char) : List Char → Reading Bool
  | [] =>
    match c with
    | some '\n' | none => do
      passLine
      pure true
    | c => do
      giveBack c
      pure false
  | m :: mark => do
    if c = some m then
      if ← isEndMarkLine fuel (← nextJoined fuel) mark then pure true
      else
        giveBack c
        pure false
    else
      giveBack c
      pure false

/-- The first character of a line, none if the line ends a document. -/
def lineStart (fuel : Nat) (kind : WordKind) (c : Option Char) : Reading (Option Char) :=
  match kind with
  | .document announcement => do
    let c ← if announcement.dropsTabs then dropTabs fuel c else pure c
    if ← isEndMarkLine fuel c announcement.endMark then pure none
    else match c with
      | some _ => nextChar
      | none => pure none
  | _ => pure c

/-- Read on as long as characters belong to a name. -/
def readWhile (fuel : Nat) (belongs : Char → Bool) (c : Option Char) :
    Reading (List Char × Option Char) :=
  match fuel with
  | 0 => misread "too long"
  | fuel + 1 =>
    match c with
    | some d =>
      if belongs d then do
        let (name, after) ← readWhile fuel belongs (← nextJoined fuel)
        pure (d :: name, after)
      else pure ([], c)
    | none => pure ([], c)

/-- A parameter as it is named: the name, whether its length is meant, and the
character behind it. Without a name nothing can be asked of it. -/
structure Naming where
  name : List Char := []
  length : Bool := false
  valid : Bool := true
  after : Option Char

/-- The name that starts with a character. -/
def readName (fuel : Nat) (braced length : Bool) (c : Option Char) : Reading (Option Naming) := do
  match c with
  | some d =>
    if isNameStart d then
      let (name, after) ← readWhile fuel isNameChar c
      pure (some { name, length, after })
    else if d.isDigit then
      if braced then
        let (name, after) ← readWhile fuel Char.isDigit c
        pure (some { name, length, after })
      else pure (some { name := [d], length, after := ← nextJoined fuel })
    else pure none
  | none => pure none

/-- The parameter that starts with a character, between braces or without them. -/
def readNaming (fuel : Nat) (braced : Bool) (c : Option Char) : Reading Naming := do
  match ← readName fuel braced false c with
  | some naming => pure naming
  | none =>
    if c = some '\x7d' then return { valid := false, after := c }
    let after ← nextJoined fuel
    let isSpecial (c : Option Char) : Bool := c.any isSpecialName
    if braced && c = some '#' then
      match ← readName fuel braced true after with
      | some naming => return naming
      | none =>
        let third ← nextJoined fuel
        if after = some '\x7d' || third != some '\x7d' then
          giveBack third
          pure { name := ['#'], after }
        else if isSpecial after then
          pure { name := after.toList, length := true, after := third }
        else pure { valid := false, after := third }
    else if isSpecial c then pure { name := c.toList, after }
    else pure { valid := false, after }

/-- What is asked of a parameter between braces: the use, whether an empty value counts
as none, and whether the word behind it is a pattern. -/
def readUse (fuel : Nat) (naming : Naming) : Reading (ParameterUse × Bool × Bool) := do
  if !naming.valid then
    giveBack naming.after
    return (.unknown, false, false)
  if naming.length then
    giveBack naming.after
    return (if naming.after = some '\x7d' then .length else .unknown, false, false)
  let trim (sign : Char) : Reading (ParameterUse × Bool × Bool) := do
    let c ← nextJoined fuel
    if c = some sign then pure (.trim (sign = '%') true, false, true)
    else
      giveBack c
      pure (.trim (sign = '%') false, false, true)
  let use (c : Option Char) : ParameterUse := match c with
    | some '\x7d' => .value
    | some '-' => .default
    | some '+' => .instead
    | some '?' => .demand
    | some '=' => .assign
    | _ => .unknown
  match naming.after with
  | some '%' => trim '%'
  | some '#' => trim '#'
  | some ':' => do pure (use (← nextJoined fuel), true, false)
  | c => pure (use c, false, false)

/-- The text up to the closing backquote. -/
def readBackquoted (fuel : Nat) (doubled : Bool) : Reading (List Char) :=
  match fuel with
  | 0 => misread "too long"
  | fuel + 1 => do
    match ← nextJoined fuel with
    | none => misread "EOF in backquote substitution"
    | some '\x60' => pure []
    | some '\\' => do
      let c ← nextChar
      let kept := match c with
        | some d =>
          if d = '\\' || d = '\x60' || d = '$' || (doubled && d = '"') then [d] else ['\\', d]
        | none => ['\\']
      pure (kept ++ (← readBackquoted fuel doubled))
    | some c => do
      if c = '\n' then passLine
      pure (c :: (← readBackquoted fuel doubled))

/-- Read a list of commands from a text of its own. -/
def readApart (text : List Char) (list : Reading (Option Script)) : Reading (Option Script) := do
  let before ← get
  set { before with rest := text, interrupted := [], ahead := [], line := 1, announced := [] }
  let script ← list
  modify fun reader => { reader with
    rest := before.rest, interrupted := before.interrupted, ahead := before.ahead
    line := before.line, announced := before.announced, again := false }
  pure script

/-- Read a list of commands up to a closing bracket. -/
def readBracketed (list : Reading (Option Script)) (token : Reading Token) :
    Reading (Option Script) := do
  let announced := (← get).announced
  modify fun reader => { reader with announced := [] }
  let script ← list
  if (← token) != .closing then unexpected (some .closing)
  modify fun reader => { reader with announced }
  pure script

/-- The parts that a backslash and the next character are. -/
def escaped (kind : WordKind) (place : Place) (c : Option Char) : List Part :=
  let braced := match place.enclosure with
    | .braces _ => true
    | _ => false
  match c with
  | none => [.guarded '\\']
  | some d =>
    let kept := (place.quotes = .double || place.quotes = .sum) &&
      d != '\\' && d != '\x60' && d != '$' &&
      (d != '"' || (kind.isText && !braced)) && (d != '\x7d' || !braced)
    if kept then [.guarded d, .guarded '\\'] else [.guarded d]

mutual

/-- Read parts up to the end of their enclosure, beginning with a character that was
read already. Nested lists of commands and tokens are read as given. -/
def readParts (fuel : Nat) (list : Reading (Option Script)) (token : Reading Token)
    (kind : WordKind) (place : Place) (c : Option Char) (draft : Draft) :
    Reading (Draft × Option Char) :=
  match fuel with
  | 0 => misread "too long"
  | fuel + 1 => do
    let goOn (place : Place) (draft : Draft) : Reading (Draft × Option Char) := do
      readParts fuel list token kind place (← nextOf fuel place) draft
    let mark (draft : Draft) : Draft := if kind.isText then draft else draft.push .mark
    match c with
    | none =>
      match place.enclosure with
      | .sum => misread "Missing '))'"
      | enclosure =>
        if place.quotes != .none && !kind.isText then misread "Unterminated quoted string"
        else if enclosure != .none then misread "Missing '\x7d'"
        else pure (draft, none)
    | some '\n' =>
      if place.enclosure = .none && place.quotes = .none then pure (draft, c)
      else do
        passLine
        let first ← lineStart fuel kind (← nextOf fuel place)
        readParts fuel list token kind place first (draft.push (.char '\n'))
    | some d =>
      if place.quotes = .single then
        match kind with
        | .document _ =>
          if place.enclosure = .none then goOn place (draft.push (.char d))
          else if d = '\x27' then
            goOn { place with quotes := .none } { draft with quoted := true }
          else goOn place (draft.push (.char d))
        | _ =>
          if d = '\x27' then
            goOn { place with quotes := .none } (mark { draft with quoted := true })
          else if d = '\\' || isQuotable d then goOn place (draft.push (.guarded d))
          else goOn place (draft.push (.char d))
      else if d = '\\' then do
        let e ← nextChar
        goOn place ⟨escaped kind place e ++ draft.parts, true⟩
      else if d = '$' then
        if kind matches .endMark then goOn place (draft.push (.char d))
        else do goOn place (← readDollar fuel list token kind place draft)
      else if d = '\x60' then
        if kind matches .endMark then goOn place (draft.push (.char d))
        else do
          let text ← readBackquoted fuel (place.quotes = .double || place.quotes = .sum)
          goOn place (draft.push (.command (← readApart text list)))
      else if place.quotes = .sum then
        if d = '(' then goOn { place with depth := place.depth + 1 } (draft.push (.char d))
        else if d != ')' then goOn place (draft.push (.char d))
        else if place.depth = 0 then do
          let e ← nextJoined fuel
          if e = some ')' then pure (draft, none)
          else
            giveBack e
            goOn place (draft.push (.char d))
        else goOn { place with depth := place.depth - 1 } (draft.push (.char d))
      else if d = '"' then
        if kind.isText && place.enclosure = .none then goOn place (draft.push (.char d))
        else if place.quotes = .none then
          goOn { place with quotes := .double, inner := place.enclosure != .none } (mark draft)
        else if place.enclosure = .braces true then
          goOn { place with inner := !place.inner } (mark { draft with quoted := true })
        else goOn { place with quotes := .none, inner := false } (mark { draft with quoted := true })
      else if d = '\x7d' && place.enclosure != .none && !place.inner then pure (draft, none)
      else if place.quotes = .double then
        goOn place (draft.push (if isQuotable d then .guarded d else .char d))
      else if d = '\x27' then goOn { place with quotes := .single } (mark draft)
      else if endsWord d && place.enclosure = .none then pure (draft, c)
      else goOn place (draft.push (.char d))

/-- Read what a dollar sign starts. -/
def readDollar (fuel : Nat) (list : Reading (Option Script)) (token : Reading Token)
    (kind : WordKind) (place : Place) (draft : Draft) : Reading Draft :=
  match fuel with
  | 0 => misread "too long"
  | fuel + 1 => do
    let c ← nextJoined fuel
    if c = some '(' then
      let d ← nextJoined fuel
      if d = some '(' then
        let place : Place := { enclosure := .sum, quotes := .sum }
        let (inside, _) ← readParts fuel list token kind place (← nextJoined fuel)
          { quoted := draft.quoted }
        pure ⟨.sum inside.parts.reverse :: draft.parts, inside.quoted⟩
      else
        giveBack d
        pure (draft.push (.command (← readBracketed list token)))
    else if c = some '\x7b' then
      let naming ← readNaming fuel true (← nextJoined fuel)
      let (use, alsoEmpty, isPattern) ← readUse fuel naming
      if use = .value && !alsoEmpty then
        pure (draft.push (.parameter naming.name .value false []))
      else
        let doubled := !isPattern && place.quotes != .none
        let inside : Place :=
          { enclosure := .braces doubled, quotes := if doubled then .double else .none }
        let (word, _) ← readParts fuel list token kind inside (← nextJoined fuel)
          { quoted := draft.quoted }
        pure ⟨.parameter naming.name use alsoEmpty word.parts.reverse :: draft.parts, word.quoted⟩
    else if c.any fun d => isNameStart d || isSpecialName d then
      let naming ← readNaming fuel false c
      giveBack naming.after
      pure (draft.push (.parameter naming.name .value false []))
    else
      giveBack c
      pure (draft.push (.char '$'))

end

end Checkup.Shell
