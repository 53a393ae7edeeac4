import Checkup.Shell.Wildcard

/-!
# Regular expressions

A regular expression stands for texts. Of all the texts that it stands for at the
first place where it stands for any, the longest is meant. Parts of it are
numbered, and what they stand for may have to come again.
-/

namespace Checkup.Shell

/-- A place between characters. -/
inductive Anchor where
  | lineStart | lineEnd | wordStart | wordEnd | wordEdge | noWordEdge | noWordBefore | noWordBehind
  deriving DecidableEq, Repr

/-- A regular expression. -/
inductive Expression where
  | nothing
  | one (has : Char → Bool)
  | anchor (edge : Anchor)
  | sequence (first second : Expression)
  | either (first second : Expression)
  /-- So many times at least, and so many at most if there is a limit. -/
  | many (least : Nat) (most : Option Nat) (body : Expression)
  /-- A numbered part. -/
  | group (number : Nat) (body : Expression)
  /-- What a numbered part stood for, once more. -/
  | again (number : Nat)

/-- A character of a word. -/
def isWordChar (c : Char) : Bool := c.isAlphanum || c = '_'

/-- A text that is searched. Whether it starts a line may be told. -/
structure Haystack where
  text : Array Char
  /-- Line feeds separate lines. -/
  lines : Bool := false
  /-- Letters are the same in upper and lower case. -/
  folds : Bool := false

namespace Haystack

/-- An anchor holds at a place. -/
def holds (haystack : Haystack) (place : Nat) (anchor : Anchor) : Bool :=
  let before := 0 < place && isWordChar (haystack.text[place - 1]?.getD ' ')
  let behind := isWordChar (haystack.text[place]?.getD ' ')
  match anchor with
  | .lineStart => place = 0 || (haystack.lines && haystack.text[place - 1]? = some '\n')
  | .lineEnd =>
    place = haystack.text.size || (haystack.lines && haystack.text[place]? = some '\n')
  | .wordStart => !before && behind
  | .wordEnd => before && !behind
  | .wordEdge => before != behind
  | .noWordEdge => before = behind
  | .noWordBefore => !before
  | .noWordBehind => !behind

/-- The character at a place is one of some. -/
def hasAt (haystack : Haystack) (place : Nat) (has : Char → Bool) : Bool :=
  match haystack.text[place]? with
  | some c => has c || (haystack.folds && (has c.toLower || has c.toUpper))
  | none => false

/-- The text between two places. -/
def between (haystack : Haystack) (start stop : Nat) : List Char :=
  (haystack.text.extract start stop).toList

end Haystack

namespace Expression

/-- The expression has a part that has to come again. -/
def hasAgain : Expression → Bool
  | again _ => true
  | sequence a b | either a b => a.hasAgain || b.hasAgain
  | many _ _ a | group _ a => a.hasAgain
  | nothing | one _ | anchor _ => false

/-- Places with others that are not among them yet. -/
def joinPlaces (places more : List Nat) : List Nat :=
  places ++ more.filter (!places.contains ·)

/-- Places that a step leads to from some, again and again, so often at most. -/
def closure (step : List Nat → List Nat) : (fuel : Nat) → (reached fresh : List Nat) → List Nat
  | 0, reached, _ => reached
  | fuel + 1, reached, fresh =>
    let next := (step fresh).filter (!reached.contains ·)
    if next.isEmpty then reached else closure step fuel (joinPlaces reached next) next

/-- A step, so many times. -/
def repeated (step : List Nat → List Nat) : Nat → List Nat → List Nat
  | 0, places => places
  | count + 1, places => repeated step count (step places)

/-- The places where the texts that an expression stands for end, for some places where
they start. Parts that come again are not followed. -/
def ends (haystack : Haystack) : Expression → List Nat → List Nat
  | nothing, places => places
  | one has, places => (places.filter fun place => haystack.hasAt place has).map (· + 1)
  | .anchor edge, places => places.filter fun place => haystack.holds place edge
  | sequence a b, places => ends haystack b (ends haystack a places)
  | either a b, places => joinPlaces (ends haystack a places) (ends haystack b places)
  | many least most a, places =>
    let start := (repeated (ends haystack a) least places).eraseDups
    let fuel := match most with
      | some most => most - least
      | none => haystack.text.size + 1
    closure (ends haystack a) fuel start start
  | group _ a, places => ends haystack a places
  | again _, _ => []

/-- What numbered parts stand for: a number, a start and an end. -/
abbrev Groups := List (Nat × Nat × Nat)

/-- Try to do something some more times, as often as possible first. -/
def attemptMany (step : (Nat × Groups) → ((Nat × Groups) → Option (Nat × Groups)) →
    Option (Nat × Groups)) (least : Nat) (most : Option Nat) :
    (fuel : Nat) → (Nat × Groups) → ((Nat × Groups) → Option (Nat × Groups)) → Option (Nat × Groups)
  | 0, state, next => if least = 0 then next state else none
  | fuel + 1, state, next =>
    let once : Option (Nat × Groups) :=
      if most = some 0 then none
      else step state fun after =>
        if after.1 = state.1 && least = 0 then none
        else attemptMany step (least - 1) (most.map (· - 1)) fuel after next
    match once with
    | some result => some result
    | none => if least = 0 then next state else none

/-- Follow an expression from a place, and go on behind it. The first way that leads to an
end is taken. -/
def follow (haystack : Haystack) : Expression → (Nat × Groups) →
    ((Nat × Groups) → Option (Nat × Groups)) → Option (Nat × Groups)
  | nothing, state, next => next state
  | one has, (place, groups), next =>
    if haystack.hasAt place has then next (place + 1, groups) else none
  | .anchor edge, (place, groups), next =>
    if haystack.holds place edge then next (place, groups) else none
  | sequence a b, state, next =>
    follow haystack a state fun state => follow haystack b state next
  | either a b, state, next =>
    match follow haystack a state next with
    | some result => some result
    | none => follow haystack b state next
  | many least most a, state, next =>
    attemptMany (follow haystack a) least most (haystack.text.size + least + 1 - state.1) state next
  | group number a, (place, groups), next =>
    follow haystack a (place, groups) fun (stop, groups) =>
      next (stop, (number, place, stop) :: groups.filter fun group => group.1 != number)
  | again number, (place, groups), next =>
    match groups.lookup number with
    | none => none
    | some (start, stop) =>
      let fold (text : List Char) : List Char :=
        if haystack.folds then text.map Char.toLower else text
      if fold (haystack.between place (place + stop - start)) = fold (haystack.between start stop) then
        next (place + stop - start, groups)
      else none

/-- What a found text is, and what its parts stand for. -/
structure Found where
  start : Nat
  stop : Nat
  groups : Groups

/-- The longest text that an expression stands for at a place. -/
def foundAt? (haystack : Haystack) (expression : Expression) (start : Nat) : Option Found :=
  if expression.hasAgain then
    (follow haystack expression (start, []) some).map fun (stop, groups) => ⟨start, stop, groups⟩
  else match ends haystack expression [start] with
    | [] => none
    | first :: others =>
      let stop := others.foldl max first
      let result := follow haystack expression (start, []) fun state =>
        if state.1 = stop then some state else none
      some ⟨start, stop, (result.map Prod.snd).getD []⟩

/-- The first text that an expression stands for, from a place on. -/
def find? (haystack : Haystack) (expression : Expression) (start : Nat) : Option Found :=
  (List.range (haystack.text.size + 1 - start)).findSome? fun i =>
    expression.foundAt? haystack (start + i)

/-- The expression stands for a text somewhere. -/
def occurs (haystack : Haystack) (expression : Expression) : Bool :=
  if expression.hasAgain then (expression.find? haystack 0).isSome
  else !(ends haystack expression (List.range (haystack.text.size + 1))).isEmpty

/-- An expression for a text as it is. -/
def literal (text : List Char) : Expression :=
  text.foldr (fun c rest => sequence (one (· = c)) rest) nothing

end Expression

end Checkup.Shell
