import Checkup.Shell.Filenames
import Checkup.Shell.Format

/-!
# Commands of the shell

Commands that a shell carries out itself. Each takes its arguments, and yields
a status; a command that refuses its arguments fails.
-/

namespace Checkup.Shell

/-- A command of the shell, which knows the name it is called by. -/
abbrev Builtin := List Char → List (List Char) → Act Nat

/-- Options in front of arguments: letters, and values behind those that have a colon. -/
def takeOptions (letters : List Char) : List (List Char) → Act (List (Char × List Char) × List (List Char))
  | [] => pure ([], [])
  | argument :: rest =>
    match argument with
    | ['-', '-'] => pure ([], rest)
    | '-' :: c :: text => do
      let (found, value?) ← split letters (c :: text)
      match value? with
      | none => do
        let (more, rest) ← takeOptions letters rest
        pure (found ++ more, rest)
      | some (letter, value) =>
        if !value.isEmpty then do
          let (more, rest) ← takeOptions letters rest
          pure (found ++ (letter, value) :: more, rest)
        else match rest with
          | value :: rest => do
            let (more, rest) ← takeOptions letters rest
            pure (found ++ (letter, value) :: more, rest)
          | [] => refuse ("No arg for -".toList ++ letter :: " option".toList)
    | _ => pure ([], argument :: rest)
where
  /-- The letters of an argument up to one that has a value, and what is left for it. -/
  split (letters : List Char) : List Char →
      Act (List (Char × List Char) × Option (Char × List Char))
    | [] => pure ([], none)
    | c :: text => do
      if c = ':' || !letters.contains c then refuse ("Illegal option -".toList ++ [c])
      else if (letters.dropWhile (· != c)).drop 1 |>.head? |> (· = some ':') then
        pure ([], some (c, text))
      else do
        let (more, value?) ← split letters text
        pure ((c, []) :: more, value?)

/-- A count that an argument names. -/
def countOf (text : List Char) : Act Nat := do
  match count? text with
  | some count => pure count
  | none => refuse ("Illegal number: ".toList ++ text)

/-- Write to the second stream, and tell whether that was possible. -/
def put (name text : List Char) : Act Nat := do
  if text.isEmpty then return 0
  if ← write 1 text then pure 0
  else
    complain (name ++ ": I/O error".toList)
    pure 1

end Checkup.Shell
