import Checkup.Run
import Checkup.Text.Occurrence
import Checkup.Text.Word

/-!
# Arguments of the command line

Arguments are options and operands. The command has options of its own, then
comes the name of what it is to do, and then the options of that.
-/

namespace Checkup

/-- An option: its name, and whether it takes a value. -/
structure OptionForm where
  name : String
  takesValue : Bool

/-- An option that was given, with its value if it takes one. -/
structure GivenOption where
  name : String
  value : String := ""
  deriving DecidableEq, Repr

/-- Arguments that were read: options in their order, and operands. -/
structure Arguments where
  options : List GivenOption := []
  operands : List String := []
  deriving DecidableEq, Repr

namespace Arguments

/-- One more option in front. -/
def withOption (name value : String) (arguments : Arguments) : Arguments :=
  { arguments with options := ⟨name, value⟩ :: arguments.options }

/-- One more operand in front. -/
def withOperand (operand : String) (arguments : Arguments) : Arguments :=
  { arguments with operands := operand :: arguments.operands }

/-- The name of an option and the value attached to it behind an equals sign. -/
def splitOption (argument : String) : String × Option String :=
  match Text.cutFirst? '=' argument.toList with
  | some (name, value) => (String.ofList name, some (String.ofList value))
  | none => (argument, none)

/-- An argument that is no operand: a hyphen and more. -/
def isOption (argument : String) : Bool :=
  match argument.toList with
  | '-' :: _ :: _ => true
  | _ => false

/-- Read arguments by the forms of their options. Two hyphens end the options;
so does the first operand, unless options may stand between operands. An
unknown option, a missing value and a value that is not wanted are mistakes. -/
def read (forms : List OptionForm) (mixed : Bool) : List String → Option Arguments
  | [] => some {}
  | "--" :: rest => some { operands := rest }
  | argument :: rest =>
    if isOption argument then
      let (name, attached) := splitOption argument
      match forms.find? fun form => form.name = name with
      | none => none
      | some form =>
        match form.takesValue, attached, rest with
        | true, some value, rest => (read forms mixed rest).map (withOption name value)
        | true, none, value :: rest => (read forms mixed rest).map (withOption name value)
        | true, none, [] => none
        | false, none, rest => (read forms mixed rest).map (withOption name "")
        | false, some _, _ => none
    else if mixed then (read forms mixed rest).map (withOperand argument)
    else some { operands := argument :: rest }

/-- An option was given. -/
def has (arguments : Arguments) (name : String) : Bool :=
  arguments.options.any fun option => option.name = name

/-- The last value of an option. -/
def value? (arguments : Arguments) (name : String) : Option String :=
  (arguments.options.reverse.find? fun option => option.name = name).map (·.value)

/-- The first of some options that was given. -/
def firstOf? (arguments : Arguments) (names : List String) : Option String :=
  (arguments.options.find? fun option => names.contains option.name).map (·.name)

end Arguments

/-- What the command is asked to do. -/
inductive Command where
  /-- Show how it is used. -/
  | help
  /-- Complain about the arguments. -/
  | mistake
  /-- Show the version. -/
  | version
  /-- Write a template for settings. -/
  | template (file : String)
  /-- Make a run. -/
  | run (config : Option String) (verbose : Bool) (flags : RunFlags) (reportFolder : Option String)
  deriving DecidableEq, Repr

namespace Command

/-- The options of the command itself. -/
def commonForms : List OptionForm :=
  [⟨"--config", true⟩, ⟨"--verbose", false⟩, ⟨"--version", false⟩, ⟨"--help", false⟩]

/-- The options of a run. -/
def runForms : List OptionForm :=
  [⟨"--quick", false⟩, ⟨"--fix", false⟩, ⟨"--report-dir", true⟩, ⟨"--help", false⟩]

/-- The options of writing a template. -/
def templateForms : List OptionForm := [⟨"--output", true⟩, ⟨"--help", false⟩]

/-- Read arguments that may hold nothing but options; a call for help comes first. -/
def readOptions (forms : List OptionForm) (arguments : List String)
    (make : Arguments → Command) : Command :=
  match Arguments.read forms true arguments with
  | none => mistake
  | some arguments =>
    if arguments.has "--help" then help
    else if !arguments.operands.isEmpty then mistake
    else make arguments

/-- A run by its arguments. -/
def readRun (common : Arguments) (arguments : List String) : Command :=
  readOptions runForms arguments fun arguments =>
    run (common.value? "--config") (common.has "--verbose")
      { quick := arguments.has "--quick", fix := arguments.has "--fix" }
      (arguments.value? "--report-dir")

/-- A template by its arguments. -/
def readTemplate (arguments : List String) : Command :=
  readOptions templateForms arguments fun arguments =>
    template ((arguments.value? "--output").getD Settings.defaultFile)

/-- What an unknown name leads to: one that looks like an option shows the usage. -/
def ofUnknown (name : String) : Command :=
  match name.toList with
  | [] => mistake
  | c :: _ => if Text.isWord c && c != '_' then mistake else help

/-- The command that some arguments ask for. -/
def ofArguments (arguments : List String) : Command :=
  if arguments.isEmpty then help
  else
    match Arguments.read commonForms false arguments with
    | none => mistake
    | some common =>
      match common.firstOf? ["--help", "--version"] with
      | some "--version" => version
      | some _ => help
      | none =>
        match common.operands with
        | [] => mistake
        | "run" :: rest => readRun common rest
        | "init" :: rest => readTemplate rest
        | name :: _ => ofUnknown name

end Command

end Checkup
