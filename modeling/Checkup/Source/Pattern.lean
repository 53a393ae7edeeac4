import Checkup.Source.FunctionSpan

/-!
# Patterns in sources

Shapes of source text that call for tidying up, found without a grammar.
-/

namespace Checkup.Source

open Checkup.Text

/-- The patterns that are looked for. -/
inductive Pattern where
  | inlineErrorBoundary
  | multipleComponents
  | deepNesting
  | mixedConcerns
  deriving DecidableEq, Repr

namespace Pattern

/-- All patterns. -/
def all : List Pattern := [inlineErrorBoundary, multipleComponents, deepNesting, mixedConcerns]

/-- The name of a pattern. -/
def name : Pattern → String
  | inlineErrorBoundary => "inline-error-boundary"
  | multipleComponents => "multiple-components"
  | deepNesting => "deep-jsx-nesting"
  | mixedConcerns => "mixed-concerns"

end Pattern

/-- A class with `Error` in its name that extends a component. -/
def errorBoundary : Recogniser Unit := fun _ text => do
  let rest ← takeBlanks? (← after? "class".toList text)
  let (name, rest) ← run? isWord rest
  let rest ← if occurs "Error".toList name then takeBlanks? rest else none
  let rest ← takeBlanks? (← after? "extends".toList rest)
  let rest := afterOptional "Pure".toList (afterOptional "React.".toList rest)
  let rest ← after? "Component".toList rest
  if wordEnds rest then some () else none

/-- What a component is declared with. -/
def afterDeclarator? (text : List Char) : Option (List Char) :=
  match after? "const".toList text with
  | some rest => some rest
  | none => after? "function".toList text

/-- The text after `default` and blanks, if that stands there. -/
def afterDefault (text : List Char) : List Char :=
  ((after? "default".toList text).bind takeBlanks?).getD text

/-- An exported constant or function whose name has a capital letter. -/
def exportedComponent : Recogniser Unit := fun _ text => do
  let rest ← takeBlanks? (← after? "export".toList text)
  let rest ← takeBlanks? (← afterDeclarator? (afterDefault rest))
  match rest with
  | [] => none
  | c :: rest =>
    if c.isUpper then
      match trimStart (rest.dropWhile Char.isAlphanum) with
      | mark :: _ =>
        if mark = '=' || mark = ':' || mark = '(' || mark = '<' then some () else none
      | [] => none
    else none

/-- The elements that only group others; a tag without a name is one, too. -/
def groupingNames : List String := ["div", "Fragment", "React.Fragment"]

/-- The text after the name of a grouping element, if that stands there. -/
def afterGroupingName (text : List Char) : List Char :=
  (groupingNames.findSome? fun name => after? name.toList text).getD text

/-- The text after an opening tag of a grouping element. -/
def afterOpenTag? (text : List Char) : Option (List Char) := do
  match afterGroupingName (← after? ['<'] text) with
  | '>' :: rest => some rest
  | c :: rest =>
    if isBlank c then after? ['>'] (rest.dropWhile fun d => d != '<' && d != '>') else none
  | [] => none

/-- An opening tag with another one behind it. -/
def nestedTags : Recogniser Unit := fun _ text => do
  let _ ← afterOpenTag? (trimStart (← afterOpenTag? text))
  some ()

/-- A tag of any name that is closed somewhere. -/
def anyTag : Recogniser Unit := fun _ text => do
  match ← after? ['<'] text with
  | c :: rest => if isWord c && rest.contains '>' then some () else none
  | [] => none

/-- A word and an opening bracket. -/
def call (name : String) : Recogniser Unit := fun _ text => do
  let _ ← after? ['('] (trimStart (← after? name.toList text))
  some ()

/-- A condition. -/
def condition : Recogniser Unit := fun before text =>
  if wordStarts before then call "if" before text else none

/-- How often something is found. -/
def countOf (recognise : Recogniser Unit) (content : List Char) : Nat :=
  (sightings recognise none content).length

/-- Something is found. -/
def finds (recognise : Recogniser Unit) (content : List Char) : Bool :=
  (firstSighting recognise none content).isSome

/-- More pairs of nested tags than this are deep nesting. -/
def nestedPairsLimit : Nat := 10

/-- Markup together with much logic. -/
def mixesConcerns (content : List Char) : Bool :=
  finds anyTag content &&
    ((3 < countOf (call ".map") content && 2 < countOf (call ".filter") content) ||
      10 < countOf condition content)

/-- A text has a pattern. -/
def Pattern.isIn (content : List Char) : Pattern → Bool
  | .inlineErrorBoundary => finds errorBoundary content && (declared? content).isSome
  | .multipleComponents => 2 < countOf exportedComponent content
  | .deepNesting => nestedPairsLimit < countOf nestedTags content
  | .mixedConcerns => mixesConcerns content

/-- The patterns of a text. -/
def patterns (content : List Char) : List Pattern := Pattern.all.filter (Pattern.isIn content)

end Checkup.Source
