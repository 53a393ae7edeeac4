import Checkup.Text.Quoted
import Checkup.Text.Utf8

/-!
# Faults

Everything that can go wrong, by its cause. A fault inside one check ends up in
the report as the name of its kind and its message.
-/

namespace Checkup

/-- The ways in which the file system refuses. -/
inductive FileTrouble where
  | missing
  | exists
  | notFolder
  | isFolder
  deriving DecidableEq, Repr

/-- A refusal of the file system, with the path as it was given. -/
structure FileFault where
  trouble : FileTrouble
  path : String
  deriving DecidableEq, Repr

namespace FileTrouble

/-- The number of a refusal. -/
def number : FileTrouble → Nat
  | missing => 2
  | «exists» => 17
  | notFolder => 20
  | isFolder => 21

/-- The words of a refusal. -/
def words : FileTrouble → String
  | missing => "No such file or directory"
  | «exists» => "File exists"
  | notFolder => "Not a directory"
  | isFolder => "Is a directory"

end FileTrouble

/-- A refusal as messages show it. -/
def FileFault.message (fault : FileFault) : String :=
  "[Errno " ++ toString fault.trouble.number ++ "] " ++ fault.trouble.words ++ ": " ++
    Text.quote fault.path

/-- Bytes that are no text, as messages show it. -/
def Text.Utf8Fault.message (fault : Text.Utf8Fault) : String :=
  let place :=
    if fault.length = 1 then
      "byte 0x" ++ String.ofList (Text.hex 2 fault.byte.toNat) ++ " in position " ++
        toString fault.position
    else
      "bytes in position " ++ toString fault.position ++ "-" ++
        toString (fault.position + fault.length - 1)
  let words := match fault.flaw with
    | .badStart => "invalid start byte"
    | .badContinuation => "invalid continuation byte"
    | .cutShort => "unexpected end of data"
  "'utf-8' codec can't decode " ++ place ++ ": " ++ words

/-- The causes of failure. -/
inductive Fault where
  /-- A list or a mapping where a table is looked up by value. -/
  | unhashable (kindName : String)
  /-- An infinite number where a whole one is needed. -/
  | infiniteNumber
  /-- A whole number that is too large for what is to be made of it. -/
  | hugeNumber
  /-- A quotient that is too large for a floating-point number. -/
  | hugeQuotient
  /-- A number that is none where a whole one is needed. -/
  | noNumber
  /-- A run of digits that is too long to be read. -/
  | tooManyDigits (count : Nat)
  /-- A whole number with too many digits to be written. -/
  | tooLongNumber
  /-- A path or an argument that holds the null character. -/
  | nullCharacter
  /-- A text that writes no whole number. -/
  | notWhole (text : String)
  /-- A value of the wrong kind. -/
  | wrongKind (message : String)
  /-- A value that lacks an operation that texts have. -/
  | notText (message : String)
  /-- A value that is not among the admitted ones. -/
  | notMember (literal family : String)
  /-- A letter that stands for no severity. -/
  | unknownLetter (letter : String)
  /-- An issue line without its separators. -/
  | malformedIssue
  /-- A text that is no JSON document. -/
  | notJson
  /-- A key that a document lacks. -/
  | missingKey (key : String)
  /-- Bytes that are no text. -/
  | notUtf8 (fault : Text.Utf8Fault)
  /-- A refusal of the file system. -/
  | file (fault : FileFault)
  /-- A configuration that cannot be used. -/
  | config (message : String)
  /-- A value of a configuration that cannot be built, such as a day that does not exist. -/
  | badValue (message : String)
  /-- A text without the character that is looked at. -/
  | cutShort
  /-- Whatever a tool call raises. -/
  | tool (kind message : String)
  deriving DecidableEq, Repr

namespace Fault

/-- A tool that is not installed. -/
def toolNotFound (message : String) : Fault := .tool "ToolNotFoundError" message

/-- A tool that did not finish in time. -/
def toolTimeout (message : String) : Fault := .tool "ToolTimeoutError" message

/-- The name of the kind of a fault, as the report of a crash shows it. -/
def kind : Fault → String
  | unhashable _ | wrongKind _ => "TypeError"
  | infiniteNumber | hugeNumber | hugeQuotient => "OverflowError"
  | noNumber | tooManyDigits _ | tooLongNumber | nullCharacter | notWhole _ | notMember _ _
  | unknownLetter _ | malformedIssue | badValue _ => "ValueError"
  | notText _ => "AttributeError"
  | cutShort => "IndexError"
  | notJson => "JSONDecodeError"
  | missingKey _ => "KeyError"
  | notUtf8 _ => "UnicodeDecodeError"
  | file fault => match fault.trouble with
    | .missing => "FileNotFoundError"
    | .exists => "FileExistsError"
    | .notFolder => "NotADirectoryError"
    | .isFolder => "IsADirectoryError"
  | config _ => "ConfigError"
  | tool kind _ => kind

/-- The message of a fault. -/
def message : Fault → String
  | unhashable kindName => "unhashable type: '" ++ kindName ++ "'"
  | infiniteNumber => "cannot convert float infinity to integer"
  | hugeNumber => "int too large to convert to float"
  | hugeQuotient => "integer division result too large for a float"
  | noNumber => "cannot convert float NaN to integer"
  | tooManyDigits count =>
    "Exceeds the limit (4300 digits) for integer string conversion: value has " ++ toString count ++
      " digits; use sys.set_int_max_str_digits() to increase the limit"
  | tooLongNumber =>
    "Exceeds the limit (4300 digits) for integer string conversion; " ++
      "use sys.set_int_max_str_digits() to increase the limit"
  | nullCharacter => "embedded null byte"
  | notWhole text => "invalid literal for int() with base 10: " ++ Text.quote text
  | wrongKind message | notText message | config message | badValue message
  | tool _ message => message
  | notMember literal family => literal ++ " is not a valid " ++ family
  | unknownLetter letter => "Unknown severity letter: " ++ Text.quote letter
  | malformedIssue => "not enough values to unpack"
  | cutShort => "string index out of range"
  | notJson => "not a JSON document"
  | missingKey key => Text.quote key
  | notUtf8 fault => fault.message
  | file fault => fault.message

end Fault

/-- A result or the fault that prevented it. -/
abbrev Outcome (α : Type) := Except Fault α

/-- How many digits a whole number may have to be written. -/
def writableDigits : Nat := 4300

/-- A whole number is short enough to be written. -/
def isWritable (n : Int) : Bool := n.natAbs < Nat.pow 10 writableDigits

/-- The text of a whole number, if it is short enough. -/
def writeWhole (n : Int) : Outcome String :=
  if isWritable n then .ok (toString n) else .error .tooLongNumber

end Checkup
