import Checkup.Text.Counting

/-!
# Hook calls

A component's hook calls tell how much it does. A call is a name that starts
with `use` and a capital letter, at a word start, with an opening bracket
behind it. Every call is of exactly one kind.
-/

namespace Checkup.Source

open Checkup.Text

/-- The kinds of hook calls. -/
inductive MarkerKind where
  | state
  | effect
  | memo
  | callback
  | ref
  | query
  | mutation
  | custom
  deriving DecidableEq, Repr

namespace MarkerKind

/-- All kinds. -/
def all : List MarkerKind := [state, effect, memo, callback, ref, query, mutation, custom]

/-- The kinds that make a component complex; queries and mutations are access to data. -/
def ofComponent : List MarkerKind := [state, effect, memo, callback, ref, custom]

/-- The name of a kind. -/
def name : MarkerKind → String
  | state => "state"
  | effect => "effect"
  | memo => "memo"
  | callback => "callback"
  | ref => "ref"
  | query => "query"
  | mutation => "mutation"
  | custom => "custom"

/-- The hooks that have a kind of their own. -/
def namedHooks : List (String × MarkerKind) :=
  [("useState", state), ("useEffect", effect), ("useMemo", memo), ("useCallback", callback),
   ("useRef", ref), ("useQuery", query), ("useMutation", mutation)]

/-- The kind of a hook. -/
def ofHook (hook : List Char) : MarkerKind :=
  (namedHooks.lookup (String.ofList hook)).getD custom

end MarkerKind

/-- An ASCII letter or digit. -/
def isNameChar (c : Char) : Bool := c.isAlphanum

/-- The name of the hook that is called at a position. -/
def hookCall : Recogniser (List Char) := fun before text => do
  let rest ← if wordStarts before then after? "use".toList text else none
  match rest with
  | [] => none
  | c :: rest =>
    if c.isUpper then
      match trimStart (rest.dropWhile isNameChar) with
      | bracket :: _ =>
        if bracket = '<' || bracket = '(' then
          some ("use".toList ++ c :: rest.takeWhile isNameChar)
        else none
      | [] => none
    else none

/-- The kinds of all hook calls of a text, in order. -/
def markers (content : List Char) : List MarkerKind :=
  (sightings hookCall none content).map MarkerKind.ofHook

end Checkup.Source
