import Checkup.Shell.Expansion
import Checkup.Shell.Streams

/-!
# File names

A field that is a pattern stands for the files that match it, in the order of
their bytes; without such a file it stands for itself.
-/

namespace Checkup.Shell

/-- The components of a pattern. A slash behind a backslash is a slash. -/
def components : List Char → List (List Char)
  | [] => [[]]
  | '/' :: rest => [] :: components rest
  | '\\' :: '/' :: rest => [] :: components rest
  | '\\' :: c :: rest => longer ['\\', c] (components rest)
  | c :: rest => longer [c] (components rest)
where
  /-- The first component with more in front. -/
  longer (start : List Char) : List (List Char) → List (List Char)
    | [] => [start]
    | component :: rest => (start ++ component) :: rest

/-- Brackets close in the text behind an opening one. -/
def closesSet : List Char → Bool
  | [] => false
  | '\\' :: _ :: rest | _ :: rest =>
    match rest with
    | ']' :: _ => true
    | rest => closesSet rest

/-- A component stands for more than itself. -/
def isWild : List Char → Bool
  | [] => false
  | '*' :: _ | '?' :: _ => true
  | '\\' :: _ :: rest => isWild rest
  | '[' :: rest => closesSet (if rest.head? = some '!' then rest.drop 1 else rest) || isWild rest
  | _ :: rest => isWild rest

/-- A text without the backslashes that guard its characters. -/
def unguarded : List Char → List Char
  | '\\' :: c :: rest => c :: unguarded rest
  | c :: rest => c :: unguarded rest
  | [] => []

/-- The names in a folder that a component stands for. -/
def namesMatching (tree : FileTree) (folder component : List Char) : List (List Char) :=
  match tree.list (namedPath folder) with
  | .error _ => []
  | .ok entries =>
    let names := "." :: ".." :: entries.map Prod.fst
    let showsHidden := (unguarded (component.take 2)).head? = some '.'
    (names.map ofText).filter fun name =>
      (showsHidden || name.head? != some '.') && matchesPattern component name

/-- The paths that components stand for, behind what leads to them. -/
def pathsMatching (tree : FileTree) (start : List Char) :
    List (List Char) → List (List Char)
  | [] => []
  | [component] =>
    if isWild component then (namesMatching tree start component).map (start ++ ·)
    else
      let path := start ++ unguarded component
      match lookAt tree path with
      | .ok _ => [path]
      | .error _ => []
  | component :: rest =>
    if isWild component then
      (namesMatching tree start component).flatMap fun name =>
        pathsMatching tree (start ++ name ++ ['/']) rest
    else pathsMatching tree (start ++ unguarded component ++ ['/']) rest

/-- The texts that a field stands for. -/
def filesMatching (tree : FileTree) (field : List Glyph) : List (List Char) :=
  let text := Glyph.text field
  let pattern := Glyph.pattern field
  let parts := components pattern
  if !mayMatchMore text || !parts.any isWild then [text]
  else match pathsMatching tree [] parts with
    | [] => [text]
    | paths => paths.mergeSort textBefore

/-- The fields of a word. -/
def expandFields (capture : Script → Act (List Char)) (word : Word) : Act (List (List Char)) := do
  let stretches ← expandWord capture .argument word
  let shell ← theShell
  let fields := splitFields shell.separators none stretches
  if shell.settings.contains .noglob then pure (fields.map Glyph.text)
  else do
    let tree ← theTree
    pure (fields.flatMap (filesMatching tree))

/-- The fields of some words. -/
def expandAll (capture : Script → Act (List Char)) : List Word → Act (List (List Char))
  | [] => pure []
  | word :: words => do
    let fields ← expandFields capture word
    pure (fields ++ (← expandAll capture words))

end Checkup.Shell
