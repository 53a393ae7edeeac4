import Checkup.Shell.Script

/-!
# Readers of scripts

A reader goes through the text of a script. It knows the line, the token that it
saw last, and the documents that are still to come. A word that is an alias is
read as the text that it stands for, and the reader goes on behind it.
-/

namespace Checkup.Shell

/-- Why a script is not understood, and on which line. -/
structure ScriptFault where
  line : Nat
  words : String
  deriving DecidableEq, Repr

/-- A token. -/
inductive Token where
  | ending
  | newline
  | semicolon
  | ampersand
  | both
  | either
  | pipe
  | opening
  | closing
  /-- Two semicolons. -/
  | branchEnd
  | redirection
  | word
  | keyword (name : String)
  deriving DecidableEq, Repr

namespace Token

/-- How a token is called in a message. -/
def name : Token → String
  | ending => "end of file"
  | newline => "newline"
  | semicolon => "\";\""
  | ampersand => "\"&\""
  | both => "\"&&\""
  | either => "\"||\""
  | pipe => "\"|\""
  | opening => "\"(\""
  | closing => "\")\""
  | branchEnd => "\";;\""
  | redirection => "redirection"
  | word => "word"
  | keyword name => "\"" ++ name ++ "\""

/-- The words that are keywords where a command starts. -/
def keywords : List String :=
  ["!", "case", "do", "done", "elif", "else", "esac", "fi", "for", "if", "in", "then", "until",
   "while", "\x7b", "\x7d"]

/-- A list of commands ends in front of the token. -/
def endsList : Token → Bool
  | ending | closing | branchEnd => true
  | keyword name => ["do", "done", "elif", "else", "esac", "fi", "then", "\x7d"].contains name
  | _ => false

end Token

/-- A text that is taken up again behind the text of an alias. -/
structure Interruption where
  name : List Char
  /-- The text of the alias ends with a blank, so the next word may be one too. -/
  spaced : Bool
  rest : List Char

/-- A document that starts on one of the next lines. -/
structure Announcement where
  number : Nat
  /-- The line that ends it. -/
  endMark : List Char
  /-- Tabs at the start of its lines are dropped. -/
  dropsTabs : Bool
  /-- It is taken as it is written. -/
  quoted : Bool

/-- The state of a reader. -/
structure Reader where
  rest : List Char
  interrupted : List Interruption := []
  /-- Lines behind those in hand. -/
  ahead : List Char := []
  /-- Lines are kept to be shown as they are reached. -/
  shows : Bool := false
  /-- Lines to show, the latest first. -/
  shown : List (List Char) := []
  line : Nat := 1
  token : Token := .ending
  /-- The token is to be read again. -/
  again : Bool := false
  word : Word := []
  /-- Something in the word is quoted. -/
  wordQuoted : Bool := false
  /-- The stream and the kind of the redirection that was read. -/
  redirection : Option (Nat × List Char) := none
  /-- What the next token may be: a line feed to pass over, a keyword, an alias, or
  the end mark of a document. -/
  skipsNewlines : Bool := false
  allowsKeyword : Bool := false
  allowsAlias : Bool := false
  isEndMark : Bool := false
  announced : List Announcement := []
  documents : List (Nat × Word) := []
  nextDocument : Nat := 0
  aliases : List (List Char × List Char) := []
  /-- Aliases whose text is being read. -/
  busy : List (List Char) := []
  /-- Those of them whose text has just ended. -/
  leaving : List (List Char) := []

/-- Reading, which may fail. -/
abbrev Reading := ExceptT ScriptFault (StateM Reader)

namespace Reader

/-- A reader of a text. -/
def ofString (text : List Char) : Reader := { rest := text }

/-- A reader that takes its text line by line. -/
def ofLines (text : List Char) (shows : Bool) : Reader := { rest := [], ahead := text, shows }

/-- The first line of a text with its line feed, and the rest. -/
def cutLine : List Char → List Char × List Char
  | [] => ([], [])
  | c :: rest =>
    if c = '\n' then (['\n'], rest)
    else
      let (line, after) := cutLine rest
      (c :: line, after)

/-- The next line comes to hand. -/
def fetch (reader : Reader) : Reader :=
  let (line, ahead) := cutLine reader.ahead
  { reader with
    rest := line, ahead,
    shown := if reader.shows && !line.isEmpty then line :: reader.shown else reader.shown }

/-- Where a text is at its end, go on behind the alias that it stands for. -/
def resume (reader : Reader) : List Interruption → Reader
  | [] => { reader with interrupted := [] }
  | interruption :: outer =>
    let reader := { reader with
      rest := interruption.rest
      interrupted := outer
      allowsAlias := reader.allowsAlias || interruption.spaced
      leaving := interruption.name :: reader.leaving }
    if interruption.rest.isEmpty then resume reader outer else reader

/-- The next character, if there is one. -/
def next (reader : Reader) : Option Char × Reader :=
  let reader := { reader with
    busy := reader.busy.filter fun name => !reader.leaving.contains name
    leaving := [] }
  let reader := if reader.rest.isEmpty then resume reader reader.interrupted else reader
  let reader := if reader.rest.isEmpty then fetch reader else reader
  match reader.rest with
  | [] => (none, reader)
  | c :: rest => (some c, { reader with rest })

/-- Put a character back. -/
def giveBack (c : Option Char) (reader : Reader) : Reader :=
  match c with
  | some c => { reader with rest := c :: reader.rest }
  | none => reader

/-- Nothing is left of the text. -/
def atEnd (reader : Reader) : Bool :=
  reader.rest.isEmpty && reader.ahead.isEmpty && reader.interrupted.all (·.rest.isEmpty)

end Reader

/-- Read a character. -/
def nextChar : Reading (Option Char) := modifyGet Reader.next

/-- Put a character back. -/
def giveBack (c : Option Char) : Reading Unit := modify (Reader.giveBack c)

/-- A line was passed. -/
def passLine : Reading Unit := modify fun reader => { reader with line := reader.line + 1 }

/-- Fail on the line in hand. -/
def misread {α : Type} (words : String) : Reading α := do
  throw ⟨(← get).line, "Syntax error: " ++ words⟩

/-- The most characters that a message about a token has. -/
def messageLength : Nat := 63

/-- Fail at the last token. -/
def unexpected {α : Type} (expected : Option Token) : Reading α := do
  let words := (← get).token.name ++ " unexpected" ++
    (match expected with
    | some token => " (expecting " ++ token.name ++ ")"
    | none => "")
  misread (words.take messageLength).toString

/-- A character behind which lines are joined: a backslash in front of a line feed is
passed over together with it. -/
def nextJoined (fuel : Nat) : Reading (Option Char) :=
  match fuel with
  | 0 => misread "too long"
  | fuel + 1 => do
    match ← nextChar with
    | some '\\' =>
      match ← nextChar with
      | some '\n' => do
        passLine
        nextJoined fuel
      | c => do
        giveBack c
        pure (some '\\')
    | c => pure c

end Checkup.Shell
