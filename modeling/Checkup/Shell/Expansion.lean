import Checkup.Shell.Arithmetic
import Checkup.Shell.Field
import Checkup.Shell.Variables
import Checkup.Shell.Wildcard

/-!
# Expansion

What words stand for: parameters, the output of commands and expressions are
put in, and quotes tell which of it is cut into fields or may be a pattern.
-/

namespace Checkup.Shell

/-- What a word is expanded for. -/
structure Purpose where
  /-- It is cut into fields. -/
  splits : Bool := false
  /-- A tilde at its start stands for a home. -/
  tilde : Bool := false
  /-- The same for a tilde behind a colon, and behind an equals sign if none came yet. -/
  colonTilde : Bool := false
  equalsTilde : Bool := false
  /-- It stands instead of a parameter, so what was written is cut as well. -/
  within : Bool := false
  quoted : Bool := false
  deriving DecidableEq, Repr

namespace Purpose

/-- A word of a command. -/
def argument : Purpose := { splits := true, tilde := true }

/-- The value of a variable. -/
def assignment : Purpose := { colonTilde := true, equalsTilde := true }

/-- A word that is one text. -/
def single : Purpose := { tilde := true }

/-- A document or a prompt. -/
def text : Purpose := { quoted := true }

end Purpose

/-- Glyphs of a text that something yields. -/
def yielded (quoted : Bool) (text : List Char) : List Glyph :=
  if quoted then text.map fun c =>
    if c = '\\' || "!*?[=~:/-]".toList.contains c then .guarded c else .plain c
  else text.map .plain

/-- The stretch of a text that something yields. -/
def yieldedStretch (quoted : Bool) (text : List Char) : Stretch :=
  ⟨if quoted then .fixed else .cut, yielded quoted text⟩

/-- The letters of the settings that are on. -/
def ShellState.flags (shell : ShellState) : List Char :=
  (Setting.table.reverse.filterMap fun (setting, _, letter) =>
    if shell.settings.contains setting then letter else none)

/-- The value of a parameter as it is put into a word, if it is set. -/
def ShellState.parameter? (shell : ShellState) (purpose : Purpose) (quoted : Bool) (name : List Char) :
    Option (List Char) :=
  let joined (between : List Char) : List Char := joinWith between shell.arguments
  let first : List Char := match shell.value? "IFS".toList with
    | some separators => separators.take 1
    | none => [' ']
  match name with
  | ['$'] => some (showNumber shell.number)
  | ['?'] => some (showNumber shell.status)
  | ['#'] => some (showNumber shell.arguments.length)
  | ['!'] => shell.lastJob.map fun number => showNumber number
  | ['-'] => some shell.flags
  | ['@'] | ['*'] =>
    if !purpose.splits then some (joined first)
    else if !quoted then some (joined (if (shell.value? "IFS".toList).isSome then [null] else [' ']))
    else some (joined (if name = ['@'] then [null] else first))
  | name =>
    if name.all Char.isDigit then
      match digitsValue 10 name with
      | 0 => some shell.name
      | number + 1 => shell.arguments[number]?
    else shell.value? name

/-- The value of a parameter counts as none. -/
def lacks (alsoEmpty : Bool) : Option (List Char) → Bool
  | none => true
  | some value => alsoEmpty && value.isEmpty

/-- The home of a user. -/
def ShellState.home? (shell : ShellState) (user : List Char) : Option (List Char) :=
  if user.isEmpty then shell.value? "HOME".toList
  else if user = "root".toList then some "/root".toList
  else none

/-- The name behind a tilde, and the parts behind it, if a home may be meant. -/
def takeUser? (purpose : Purpose) : List Part → Option (List Char × List Part)
  | [] => some ([], [])
  | .char c :: rest =>
    if c = '/' || (c = ':' && purpose.colonTilde) then some ([], .char c :: rest)
    else (takeUser? purpose rest).map fun (user, rest) => (c :: user, rest)
  | _ => none

/-- The home that parts start with, and the parts behind it. -/
def ShellState.takeHome? (shell : ShellState) (purpose : Purpose) : List Part →
    Option (Stretch × List Part)
  | .char '~' :: rest => do
    let (user, rest) ← takeUser? purpose rest
    let home ← shell.home? user
    some (⟨.fixed, yielded true home⟩, rest)
  | _ => none

/-- The characters at the head of parts, up to one behind which a tilde may stand. -/
def takeChars (purpose : Purpose) : List Part → List Char × List Part
  | .char c :: rest =>
    if (c = ':' && purpose.colonTilde) || (c = '=' && purpose.equalsTilde) then ([c], rest)
    else
      let (chars, rest) := takeChars purpose rest
      (c :: chars, rest)
  | rest => ([], rest)

/-- A text without line feeds at its end. -/
def withoutLastFeeds (text : List Char) : List Char :=
  (text.reverse.dropWhile (· = '\n')).reverse

/-- Fail because a parameter is not set. -/
def refuseUnset {α : Type} (name words : List Char) : Act α := refuse (name ++ [':', ' '] ++ words)

/-- The value of an expression, which may set variables. -/
def calculate (text : List Char) : Act (List Char) := do
  let shell ← theShell
  let (result, changes) := Arithmetic.evaluate (fun name => (shell.value? name).getD []) text
  for (name, value) in changes do
    setVariable name (showNumber value)
  match result with
  | .ok value => pure (showNumber value)
  | .error flaw => refuse (flaw.message text)

/-- How many steps the expansion of a word may take. -/
def expansionFuel : Nat := 1000000000

mutual

/-- What parts stand for. `capture` gives the output of a script, and `inQuotes` tells
whether quotes are open. -/
def expandParts (fuel : Nat) (capture : Script → Act (List Char)) (purpose : Purpose)
    (inQuotes : Bool) (parts : List Part) : Act (List Stretch) :=
  match fuel with
  | 0 => throw .late
  | fuel + 1 => do
    let quoted := purpose.quoted || inQuotes
    let shell ← theShell
    match if purpose.tilde then shell.takeHome? purpose parts else none with
    | some (home, rest) => do
      let more ← expandParts fuel capture { purpose with tilde := false } inQuotes rest
      return home :: more
    | none => pure ()
    let purpose := { purpose with tilde := false }
    match parts with
    | [] => pure []
    | .mark :: rest => do
      match if inQuotes then none else allArguments? rest with
      | some rest => do
        let first ← expandParameter fuel capture { purpose with quoted := true } true ['@'] .value
          false []
        pure (first ++ (← expandParts fuel capture purpose inQuotes rest))
      | none => do
        let more ← expandParts fuel capture purpose (!inQuotes) rest
        pure (⟨.fixed, [.mark]⟩ :: more)
    | .guarded c :: rest => do
      let more ← expandParts fuel capture purpose inQuotes rest
      pure (⟨.fixed, [.guarded c]⟩ :: more)
    | .char c :: rest => do
      let (chars, after) := takeChars purpose (.char c :: rest)
      let last := chars.getLastD c
      let next := { purpose with
        tilde := (last = ':' && purpose.colonTilde) || (last = '=' && purpose.equalsTilde)
        equalsTilde := purpose.equalsTilde && last != '=' }
      let more ← expandParts fuel capture next inQuotes after
      let zone : Zone := if purpose.within && !quoted then .cut else .fixed
      pure (⟨zone, chars.map .plain⟩ :: more)
    | .parameter name .value true word :: _ => do
      let first ← expandParameter fuel capture purpose quoted name .value false []
      pure (first ++ (← expandParts fuel capture purpose inQuotes word))
    | .parameter name use alsoEmpty word :: rest => do
      let first ← expandParameter fuel capture purpose quoted name use alsoEmpty word
      pure (first ++ (← expandParts fuel capture purpose inQuotes rest))
    | .command script? :: rest => do
      let text ← match script? with
        | some script => capture script
        | none => pure []
      let first := yieldedStretch quoted (withoutLastFeeds (text.filter (· != null)))
      pure (first :: (← expandParts fuel capture purpose inQuotes rest))
    | .sum expression :: rest => do
      let text := Stretch.text (← expandParts fuel capture {} false expression)
      let first := yieldedStretch quoted (← calculate text)
      pure (first :: (← expandParts fuel capture purpose inQuotes rest))
where
  /-- The parts behind all arguments as they stand between quotes. -/
  allArguments? : List Part → Option (List Part)
    | .parameter ['@'] .value false [] :: .mark :: rest => some rest
    | _ => none

/-- What a parameter stands for. -/
def expandParameter (fuel : Nat) (capture : Script → Act (List Char)) (purpose : Purpose)
    (quoted : Bool) (name : List Char) (use : ParameterUse) (alsoEmpty : Bool) (word : List Part) :
    Act (List Stretch) :=
  match fuel with
  | 0 => throw .late
  | fuel + 1 => do
    if use = .unknown then refuse "Bad substitution".toList
    let shell ← theShell
    let value? := shell.parameter? purpose quoted name
    let listed := quoted && name = ['@'] && !shell.arguments.isEmpty
    let stretch (glyphs : List Glyph) : List Stretch :=
      [⟨if listed then .listed else if quoted then .fixed else .cut, glyphs⟩]
    let itself : List Stretch := stretch (yielded quoted (value?.getD []))
    let instead : Act (List Stretch) :=
      expandParts fuel capture { purpose with tilde := true, within := true, quoted } false word
    let alone : Act (List Char) := do
      pure (Stretch.text (← expandParts fuel capture { tilde := true } false word))
    match use with
    | .default => if lacks alsoEmpty value? then instead else pure itself
    | .instead => if lacks alsoEmpty value? then pure (stretch []) else instead
    | .assign =>
      if lacks alsoEmpty value? then do
        setVariable name (← alone)
        let value := ((← theShell).parameter? purpose quoted name).getD []
        pure (stretch (yielded quoted value))
      else pure itself
    | .demand =>
      if lacks alsoEmpty value? then do
        let words ← alone
        if word.isEmpty then
          refuseUnset name
            ("parameter not set" ++ if alsoEmpty then " or null" else "").toList
        else refuseUnset name words
      else pure itself
    | use => do
      if value?.isNone && (← isOn .nounset) then
        refuseUnset name "parameter not set".toList
      match use, value? with
      | .length, value? =>
        let text := if (name = ['*'] || name = ['@']) && shell.separators.isEmpty then
            shell.arguments.flatten
          else value?.getD []
        pure (stretch (yielded quoted (showNumber text.length)))
      | .trim atEnd longest, some value => do
        let pattern := Glyph.pattern (Stretch.glyphsOf
          (← expandParts fuel capture { tilde := true } false word))
        let glyphs := yielded quoted value
        let kept := match cutPlace? atEnd longest pattern value with
          | some place => if atEnd then glyphs.take place else glyphs.drop place
          | none => glyphs
        pure (stretch kept)
      | _, _ => pure itself

end

/-- What a word stands for. -/
def expandWord (capture : Script → Act (List Char)) (purpose : Purpose) (word : Word) :
    Act (List Stretch) :=
  expandParts expansionFuel capture purpose false word

/-- What a word stands for, as one text. -/
def expandText (capture : Script → Act (List Char)) (purpose : Purpose) (word : Word) :
    Act (List Char) := do
  pure (Stretch.text (← expandWord capture purpose word))

/-- The pattern that a word stands for. -/
def expandPattern (capture : Script → Act (List Char)) (word : Word) : Act (List Char) := do
  pure (Glyph.pattern (Stretch.glyphsOf (← expandWord capture .single word)))

end Checkup.Shell
