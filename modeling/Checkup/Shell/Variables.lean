import Checkup.Shell.Machine

/-!
# Variables

Setting and hiding variables. A variable that is read only keeps its value, and
trying to change it ends a script.
-/

namespace Checkup.Shell

/-- What else is said about a variable when it is set. -/
structure Marking where
  exported : Bool := false
  readOnly : Bool := false

/-- Give a variable a value, or take its value away; with no value at all it only gets the
marks. The name is known to be one. -/
def putValue (name : List Char) (value : Option (Option (List Char))) (marking : Marking) :
    Act Unit := do
  let shell ← theShell
  let before? := shell.bindings.lookup name
  if value.isSome && before?.any (·.readOnly) then refuse (name ++ ofText ": is read only")
  let before := before?.getD { value := none }
  let exported :=
    before.exported || marking.exported || (value.isSome && shell.settings.contains .allexport)
  let after : Variable :=
    { value := value.getD before.value, exported, readOnly := before.readOnly || marking.readOnly }
  let gone := value = some none && !marking.exported && !marking.readOnly
  changeShell fun shell => shell.putVariable name (if gone then none else some after)
  if name = "PATH".toList && value.isSome then changeShell fun shell => { shell with found := [] }
  if name = "OPTIND".toList then
    match value with
    | some (some text) =>
      match count? text with
      | some number =>
        changeShell fun shell => { shell with nextOption := max number 1, nextLetter := none }
      | none => refuse (ofText "Illegal number: " ++ text)
    | _ => changeShell fun shell => { shell with nextOption := 1, nextLetter := none }

/-- Fail unless a text is a name. -/
def demandName (name : List Char) : Act Unit := do
  if !isName name then refuse (name ++ ofText ": bad variable name")

/-- Set a variable. -/
def setVariable (name value : List Char) : Act Unit := do
  demandName name
  putValue name (some (some value)) {}

/-- Take the value of a variable away. -/
def unsetVariable (name : List Char) : Act Unit := do
  demandName name
  putValue name (some none) {}

/-- The name in front of an equals sign, and what is behind it if there is one. -/
def nameAndValue (text : List Char) : List Char × Option (List Char) :=
  let name := text.takeWhile (· != '=')
  match text.drop name.length with
  | _ :: value => (name, some value)
  | [] => (name, none)

/-- Hide a variable until the layer in hand is taken off. With a dash the settings are
hidden. -/
def hide (text : List Char) (marking : Marking) : Act Unit := do
  let (name, value?) := nameAndValue text
  let shell ← theShell
  let toLayer (change : Layer → Layer) : Act Unit := changeShell fun shell =>
    { shell with
      hidden := match shell.hidden with
        | layer :: rest => change layer :: rest
        | [] => [] }
  if text = ['-'] then
    toLayer fun layer => { layer with settings := layer.settings.or (some shell.settings) }
  else do
    demandName name
    let before? := shell.bindings.lookup name
    match value?, before? with
    | some value, _ => putValue name (some (some value)) marking
    | none, some _ => pure ()
    | none, none => changeShell fun shell => shell.putVariable name (some { value := none })
    toLayer fun layer =>
      { layer with bindings := (name, before?) :: layer.bindings }

/-- The shell without the innermost layer: what it hid is as before. -/
def ShellState.uncover (shell : ShellState) : ShellState :=
  match shell.hidden with
  | [] => shell
  | layer :: rest =>
    let restored := layer.bindings.foldl (fun shell (name, held?) =>
      let shell := shell.putVariable name held?
      if name = "OPTIND".toList then
        { shell with
          nextOption := max (((held?.bind (·.value)).bind count?).getD 1) 1, nextLetter := none }
      else shell) shell
    { restored with hidden := rest, settings := layer.settings.getD restored.settings }

/-- Do something behind a layer of its own. -/
def withLayer {α : Type} (work : Act α) : Act α := do
  let depth := (← theShell).hidden.length
  changeShell fun shell => { shell with hidden := {} :: shell.hidden }
  ensuring work (changeShell fun shell => if depth < shell.hidden.length then shell.uncover else shell)

/-- A text as a line of a listing shows it, behind a command and a name. -/
def listing (command : List Char) (bindings : List (List Char × Variable)) : List Char :=
  (bindings.mergeSort fun a b => textBefore a.1 b.1).flatMap fun (name, held) =>
    let shown := match held.value with
      | some value => '=' :: singleQuoted value
      | none => []
    (if command.isEmpty then [] else command ++ [' ']) ++ name ++ shown ++ ['\n']

end Checkup.Shell
