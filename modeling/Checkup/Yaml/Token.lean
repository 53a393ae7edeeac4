import Checkup.Yaml.Block
import Checkup.Yaml.Plain
import Checkup.Yaml.Property
import Checkup.Yaml.Supply

/-!
# Tokens of YAML

A text is cut into tokens. Where a collection in block style starts and ends is
seen from the indentation, and that a scalar or a collection was a key is only
seen from the colon behind it: it must then stand on the same line, at most
`keyReach` characters before, and the token for the key is put in where it
started.
-/

namespace Checkup.Yaml

/-- A token. -/
inductive Token where
  | directive (directive : Directive)
  | documentStart
  | documentEnd
  | blockSequence
  | blockMapping
  | blockEnd
  | openSequence
  | closeSequence
  | openMapping
  | closeMapping
  | entry
  | comma
  | key
  | value
  | aliasOf (name : String)
  | anchor (name : String)
  | tag (tag : TagText)
  | scalar (text : String) (isPlain : Bool)
  /-- The end of the text. -/
  | done
  /-- Where the text cannot be cut any further. -/
  | broken (flaw : Flaw)
  deriving DecidableEq, Repr

/-- A place where a key may have started. -/
structure KeyStart where
  /-- Number of tokens before it. -/
  position : Nat
  /-- Nothing but a key may start there. -/
  required : Bool
  index : Nat
  line : Nat
  column : Nat

/-- How far a colon may stand behind the start of its key. -/
def keyReach : Nat := 1024

/-- A text that is cut into tokens. -/
structure Lexer where
  cursor : Cursor
  /-- Number of open brackets. -/
  depth : Nat := 0
  /-- Column of the innermost block collection. -/
  indent : Int := -1
  /-- Columns of the block collections around it. -/
  outer : List Int := []
  /-- A key may start here. -/
  allowsKey : Bool := true
  /-- Where a key may have started, by the number of open brackets. -/
  keys : List (Nat × KeyStart) := []
  /-- The tokens so far, last first. -/
  tokens : List Token := []

namespace Lexer

/-- What a step gives. -/
abbrev Result := Except Flaw Lexer

/-- The cursor stands inside brackets. -/
def inFlow (lexer : Lexer) : Bool := lexer.depth != 0

/-- The rest of the text. -/
def rest (lexer : Lexer) : List Char := lexer.cursor.rest

/-- One more token. -/
def push (lexer : Lexer) (token : Token) : Lexer := { lexer with tokens := token :: lexer.tokens }

/-- A token put in behind the first ones. -/
def pushAt (lexer : Lexer) (position : Nat) (token : Token) : Lexer :=
  { lexer with tokens := lexer.tokens.insertIdx (lexer.tokens.length - position) token }

/-- Go on after some characters. -/
def skip (lexer : Lexer) (count : Nat) : Lexer := { lexer with cursor := lexer.cursor.skip count }

/-- Go on where a rest of the text starts. -/
def moveTo (lexer : Lexer) (rest : List Char) : Lexer :=
  { lexer with cursor := lexer.cursor.moveTo rest }

/-- Say whether a key may start. -/
def allowing (lexer : Lexer) (allowsKey : Bool) : Lexer := { lexer with allowsKey }

/-- Forget where a key may have started inside the innermost brackets. -/
def dropKey (lexer : Lexer) : Result :=
  match lexer.keys.lookup lexer.depth with
  | none => .ok lexer
  | some key =>
    if key.required then .error .malformed
    else .ok { lexer with keys := lexer.keys.filter fun entry => entry.1 != lexer.depth }

/-- Remember that a key may start here. -/
def saveKey (lexer : Lexer) : Result :=
  if lexer.allowsKey then do
    let lexer ← lexer.dropKey
    let cursor := lexer.cursor
    let key : KeyStart :=
      { position := lexer.tokens.length
        required := !lexer.inFlow && decide (lexer.indent = cursor.column)
        index := cursor.index
        line := cursor.line
        column := cursor.column }
    .ok { lexer with keys := (lexer.depth, key) :: lexer.keys }
  else .ok lexer

/-- A key that started there can no longer be completed. -/
def isStale (lexer : Lexer) (key : KeyStart) : Bool :=
  key.line != lexer.cursor.line || decide (keyReach < lexer.cursor.index - key.index)

/-- Forget the starts of keys that are too far behind. -/
def dropStaleKeys (lexer : Lexer) : Result :=
  if lexer.keys.any fun entry => lexer.isStale entry.2 && entry.2.required then .error .malformed
  else .ok { lexer with keys := lexer.keys.filter fun entry => !lexer.isStale entry.2 }

/-- End block collections that are indented further than a column. -/
def unwindFrom (column : Int) : List Int → Lexer → Lexer
  | [], lexer => lexer
  | outer :: more, lexer =>
    if column < lexer.indent then
      unwindFrom column more ({ lexer with indent := outer, outer := more }.push .blockEnd)
    else lexer

/-- The same, which does nothing inside brackets. -/
def unwind (lexer : Lexer) (column : Int) : Lexer :=
  if lexer.inFlow then lexer else unwindFrom column lexer.outer lexer

/-- A block collection starts at a column, if it is indented further than what is around it. -/
def isDeeper (lexer : Lexer) (column : Nat) : Bool := decide (lexer.indent < column)

/-- Go into a block collection. -/
def enter (lexer : Lexer) (column : Nat) : Lexer :=
  { lexer with indent := column, outer := lexer.indent :: lexer.outer }

/-- Start a block collection here, if it is indented further than what is around it. -/
def openBlock (lexer : Lexer) (token : Token) : Lexer :=
  if lexer.isDeeper lexer.cursor.column then (lexer.enter lexer.cursor.column).push token else lexer

/-- Characters up to the next token, and whether a line ends among them. -/
def blanks : (inComment : Bool) → List Char → Bool × List Char
  | _, [] => (false, [])
  | inComment, c :: rest =>
    if isBreak c then (true, (blanks false rest).2)
    else if inComment || c = '#' then blanks true rest
    else if c = ' ' then blanks false rest
    else (false, c :: rest)

/-- Go to the next token. A byte order mark at the head of the text is passed over. -/
def toToken (lexer : Lexer) : Lexer :=
  let lexer :=
    if lexer.cursor.index = 0 && lexer.rest.head? = some '\uFEFF' then lexer.skip 1 else lexer
  let (broken, rest) := blanks false lexer.rest
  let lexer := lexer.moveTo rest
  if broken && !lexer.inFlow then lexer.allowing true else lexer

/-- A directive or a document marker ends everything before it. -/
def endDocument (lexer : Lexer) : Result := do
  let lexer ← (lexer.unwind (-1)).dropKey
  .ok (lexer.allowing false)

/-- A directive. -/
def fetchDirective (lexer : Lexer) : Result := do
  let lexer ← lexer.endDocument
  match directive? lexer.rest.tail with
  | some (directive, rest) => .ok ((lexer.moveTo rest).push (.directive directive))
  | none => .error .malformed

/-- A document marker. -/
def fetchMarker (lexer : Lexer) (token : Token) : Result := do
  let lexer ← lexer.endDocument
  .ok ((lexer.skip 3).push token)

/-- An opening bracket, which may start a key. -/
def fetchOpen (lexer : Lexer) (token : Token) : Result := do
  let lexer ← lexer.saveKey
  .ok (({ lexer with depth := lexer.depth + 1, allowsKey := true }.skip 1).push token)

/-- A closing bracket. -/
def fetchClose (lexer : Lexer) (token : Token) : Result := do
  let lexer ← lexer.dropKey
  .ok (({ lexer with depth := lexer.depth - 1, allowsKey := false }.skip 1).push token)

/-- A comma. -/
def fetchComma (lexer : Lexer) : Result := do
  let lexer ← lexer.dropKey
  .ok (((lexer.allowing true).skip 1).push .comma)

/-- The sign of an entry. -/
def fetchEntry (lexer : Lexer) : Result := do
  if !lexer.inFlow && !lexer.allowsKey then .error .malformed
  else
    let lexer := if lexer.inFlow then lexer else lexer.openBlock .blockSequence
    let lexer ← lexer.dropKey
    .ok (((lexer.allowing true).skip 1).push .entry)

/-- The sign of a key. -/
def fetchKey (lexer : Lexer) : Result := do
  if !lexer.inFlow && !lexer.allowsKey then .error .malformed
  else
    let lexer := if lexer.inFlow then lexer else lexer.openBlock .blockMapping
    let lexer ← lexer.dropKey
    .ok (((lexer.allowing !lexer.inFlow).skip 1).push .key)

/-- A colon behind something that started where a key may start. -/
def completeKey (lexer : Lexer) (key : KeyStart) : Lexer :=
  let lexer := { lexer with keys := lexer.keys.filter fun entry => entry.1 != lexer.depth }
  let lexer := lexer.pushAt key.position .key
  let lexer :=
    if !lexer.inFlow && lexer.isDeeper key.column then
      (lexer.enter key.column).pushAt key.position .blockMapping
    else lexer
  lexer.allowing false

/-- A colon. -/
def fetchValue (lexer : Lexer) : Result :=
  match lexer.keys.lookup lexer.depth with
  | some key => .ok (((lexer.completeKey key).skip 1).push .value)
  | none =>
    if !lexer.inFlow && !lexer.allowsKey then .error .malformed
    else
      let lexer := if lexer.inFlow then lexer else lexer.openBlock .blockMapping
      .ok (((lexer.allowing !lexer.inFlow).skip 1).push .value)

/-- A token that may be a key, read from the text behind its sign. -/
def fetchNamed {α : Type} (lexer : Lexer) (read : List Char → Option (α × List Char))
    (token : α → Token) : Result := do
  let lexer ← lexer.saveKey
  match read lexer.rest.tail with
  | some (found, rest) => .ok (((lexer.allowing false).moveTo rest).push (token found))
  | none => .error .malformed

/-- A block scalar. -/
def fetchBlock (lexer : Lexer) (folded : Bool) : Result := do
  let lexer ← (lexer.allowing true).dropKey
  let (text, rest) ← blockText folded lexer.indent lexer.rest.tail
  .ok ((lexer.moveTo rest).push (.scalar (String.ofList text) false))

/-- A quoted scalar. -/
def fetchQuoted (lexer : Lexer) (double : Bool) : Result := do
  let lexer ← lexer.saveKey
  let (text, rest) ← quotedText double lexer.rest.tail
  .ok (((lexer.allowing false).moveTo rest).push (.scalar (String.ofList text) false))

/-- A plain scalar. -/
def fetchPlain (lexer : Lexer) : Result := do
  let lexer ← lexer.saveKey
  let found := plainText lexer.inFlow (lexer.indent + 1) lexer.rest
  .ok (((lexer.allowing found.broken).moveTo found.rest).push
    (.scalar (String.ofList found.text) true))

/-- Signs that start no plain scalar. -/
def signs : List Char := "-?:,[]\x7b\x7d#&*!|>\x27\"%@`".toList

/-- A plain scalar starts with `c` in front of `rest`. -/
def startsPlain (lexer : Lexer) (c : Char) (rest : List Char) : Bool :=
  !(signs.contains c || c = '\t') ||
    (!atWordEnd rest && (c = '-' || (!lexer.inFlow && (c = '?' || c = ':'))))

/-- The token that starts with `c` in front of `rest`. -/
def fetch (lexer : Lexer) (c : Char) (rest : List Char) : Result :=
  let lineStart := lexer.cursor.column = 0
  if c = '%' ∧ lineStart then lexer.fetchDirective
  else if lineStart ∧ startsMarker '-' (c :: rest) then lexer.fetchMarker .documentStart
  else if lineStart ∧ startsMarker '.' (c :: rest) then lexer.fetchMarker .documentEnd
  else if c = '[' then lexer.fetchOpen .openSequence
  else if c = '\x7b' then lexer.fetchOpen .openMapping
  else if c = ']' then lexer.fetchClose .closeSequence
  else if c = '\x7d' then lexer.fetchClose .closeMapping
  else if c = ',' then lexer.fetchComma
  else if c = '-' ∧ atWordEnd rest then lexer.fetchEntry
  else if c = '?' ∧ (lexer.inFlow ∨ atWordEnd rest) then lexer.fetchKey
  else if c = ':' ∧ (lexer.inFlow ∨ atWordEnd rest) then lexer.fetchValue
  else if c = '*' then lexer.fetchNamed anchorName? .aliasOf
  else if c = '&' then lexer.fetchNamed anchorName? .anchor
  else if c = '!' then lexer.fetchNamed tagText? .tag
  else if c = '|' ∧ !lexer.inFlow then lexer.fetchBlock false
  else if c = '>' ∧ !lexer.inFlow then lexer.fetchBlock true
  else if c = '\x27' then lexer.fetchQuoted false
  else if c = '"' then lexer.fetchQuoted true
  else if lexer.startsPlain c rest then lexer.fetchPlain
  else .error .malformed

/-- The tokens so far without those from the start of a key on that a colon
could still complete: they are not settled yet. -/
def settled (lexer : Lexer) : List Token :=
  let open_ := lexer.keys.filter fun entry => !lexer.isStale entry.2
  let count := open_.foldl (fun count entry => min count entry.2.position) lexer.tokens.length
  lexer.tokens.drop (lexer.tokens.length - count)

/-- The settled tokens and the flaw behind them. -/
def breakOff (lexer : Lexer) (flaw : Flaw) : List Token :=
  (.broken flaw :: lexer.settled).reverse

/-- The next token, with the starts and ends of block collections before it. -/
def next (lexer : Lexer) : Result := do
  let lexer ← lexer.toToken.dropStaleKeys
  match lexer.rest with
  | [] =>
    let lexer ← lexer.endDocument
    .ok (lexer.push .done)
  | c :: rest => (lexer.unwind lexer.cursor.column).fetch c rest

/-- All tokens of a text. What is met behind the text is met by every token
that reaches its end. -/
def run (wall : Option Flaw) (lexer : Lexer) : List Token :=
  match lexer.next with
  | .error .unfinished => lexer.breakOff (wall.getD .malformed)
  | .error flaw => lexer.breakOff flaw
  | .ok further =>
    match wall, further.rest with
    | some flaw, [] => lexer.breakOff flaw
    | _, _ =>
      if further.tokens.head? ≠ some .done ∧ further.rest.length < lexer.rest.length then
        further.run wall
      else further.tokens.reverse
termination_by lexer.rest.length

end Lexer

/-- The tokens of a text; the last is the end or the place where it is broken. -/
def tokens (supply : Supply) : List Token :=
  ({ cursor := { rest := supply.text } } : Lexer).run supply.wall

end Checkup.Yaml
