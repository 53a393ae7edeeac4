import Checkup.Shell.Bytes

/-!
# Scripts

A script is a tree of commands. The words of a command are rows of parts: what
was written, parameters, commands whose output is used, and expressions.
-/

namespace Checkup.Shell

/-- What braces ask of a parameter. -/
inductive ParameterUse where
  | value
  | length
  /-- Another text instead of none. -/
  | default
  /-- The same, which the parameter keeps. -/
  | assign
  /-- The end of the script instead of none. -/
  | demand
  /-- Another text instead of one. -/
  | instead
  /-- The value without the start or the end that matches a pattern. -/
  | trim (atEnd longest : Bool)
  /-- Nothing that a shell knows. -/
  | unknown
  deriving DecidableEq, Repr

/-- What a redirection does with a file. -/
inductive FileUse where
  | read
  | readWrite
  | write
  /-- Write even if the shell keeps the files that are there. -/
  | overwrite
  | append
  deriving DecidableEq, Repr

mutual

/-- A part of a word. -/
inductive Part where
  | char (c : Char)
  /-- A character that stands for itself, whatever else it could mean. -/
  | guarded (c : Char)
  /-- Quotes open or close. -/
  | mark
  /-- A parameter. What is asked of it may count an empty value as none, and
  may come with a word. -/
  | parameter (name : List Char) (use : ParameterUse) (alsoEmpty : Bool) (word : List Part)
  /-- The output of a script. -/
  | command (script : Option Script)
  /-- The value of an expression. -/
  | sum (expression : List Part)

/-- Where a redirection leads. -/
inductive Target where
  | file (use : FileUse) (name : List Part)
  /-- Where another stream leads; no stream closes this one. -/
  | stream (number : Option Nat)
  /-- The same, with a word for the number. -/
  | streamNamed (word : List Part)
  /-- A document of the script, by its number. -/
  | document (number : Nat)

/-- A redirection of a stream. -/
inductive Redirect where
  | of (stream : Nat) (target : Target)

/-- A script. Commands know the line that they start on. -/
inductive Script where
  | simple (line : Nat) (assignments words : List (List Part)) (redirects : List Redirect)
  | pipeline (commands : List Script) (background : Bool)
  | background (body : Script) (redirects : List Redirect)
  | subshell (line : Nat) (body : Script) (redirects : List Redirect)
  | redirected (line : Nat) (body : Script) (redirects : List Redirect)
  | negated (body : Script)
  | both (first second : Script)
  | either (first second : Script)
  | sequence (first second : Script)
  | choice (test body : Script) (otherwise : Option Script)
  | loop (untilTrue : Bool) (test body : Script)
  | each (line : Nat) (name : List Char) (words : List (List Part)) (body : Script)
  | select (line : Nat) (word : List Part) (branches : List (List (List Part) × Option Script))
  | define (line : Nat) (name : List Char) (body : Script)

end

/-- A word. -/
abbrev Word := List Part

namespace Part

/-- The character of a part that is one. -/
def char? : Part → Option Char
  | char c => some c
  | _ => none

/-- The character of a part that stands for one, guarded or not. -/
def anyChar? : Part → Option Char
  | char c | guarded c => some c
  | _ => none

end Part

namespace Word

/-- The text of a word in which nothing is quoted and nothing is expanded. -/
def bare? (word : Word) : Option (List Char) := word.mapM Part.char?

/-- The text of a word whose quotes are taken away. -/
def unquoted (word : Word) : List Char := word.filterMap Part.anyChar?

/-- All arguments, each a field of its own. -/
def allArguments : Word := [.mark, .parameter ['@'] .value false [], .mark]

/-- The word starts with a name and an equals sign. -/
def isAssignment (word : Word) : Bool :=
  let text := (word.takeWhile fun part => part.char?.isSome).filterMap Part.char?
  (assignment? text).isSome

end Word

end Checkup.Shell
