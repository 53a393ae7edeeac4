import Checkup.Shell.Reader.Word

/-!
# Reading commands

A script is read one complete command after the other, so that what a command
does, an alias for one, is known where the next is read.
-/

namespace Checkup.Shell

/-- What the next token may be. -/
def allow (newline keyword substitute : Bool) : Reading Unit :=
  modify fun reader => { reader with
    skipsNewlines := newline, allowsKeyword := keyword, allowsAlias := substitute }

/-- The next token is the last one again. -/
def readAgain : Reading Unit := modify fun reader => { reader with again := true }

/-- The token that was read. -/
def become (token : Token) : Reading Token := do
  modify fun reader => { reader with token }
  pure token

/-- The signs of a redirection behind the first. -/
def readRedirection (fuel : Nat) (stream : Option Nat) (first : Char) : Reading Token := do
  let c ← nextJoined fuel
  let signs ←
    match first, c with
    | '>', some '>' => pure ">>"
    | '>', some '|' => pure ">|"
    | '>', some '&' => pure ">&"
    | '<', some '&' => pure "<&"
    | '<', some '>' => pure "<>"
    | '<', some '<' => do
      let d ← nextJoined fuel
      if d = some '-' then pure "<<-"
      else
        giveBack d
        pure "<<"
    | _, c => do
      giveBack c
      pure (if first = '>' then ">" else "<")
  let usual := if first = '>' then 1 else 0
  modify fun reader => { reader with redirection := some (stream.getD usual, signs.toList) }
  become .redirection

/-- The stream that the text in front of a redirection names. -/
def streamOf? : List Part → Option (Option Nat)
  | [] => some none
  | [.char c] => if c.isDigit then some (some (c.toNat - 48)) else none
  | _ => none

/-- The first character of a token, behind blanks and comments. -/
def skipBlanks (fuel : Nat) (inComment : Bool) : Reading (Option Char) :=
  match fuel with
  | 0 => misread "too long"
  | fuel + 1 =>
    if inComment then do
      match ← nextChar with
      | some '\n' => do
        giveBack (some '\n')
        skipBlanks fuel false
      | some _ => skipBlanks fuel true
      | none => pure none
    else do
      match ← nextJoined fuel with
      | some ' ' | some '\t' => skipBlanks fuel false
      | some '#' => skipBlanks fuel true
      | c => pure c

/-- A sign that is doubled or not. -/
def readSign (fuel : Nat) (sign : Char) (doubled single : Token) : Reading Token := do
  let c ← nextJoined fuel
  if c = some sign then become doubled
  else
    giveBack c
    become single

/-- The texts that redirections of streams may name. -/
def streamTarget (word : Word) : Target :=
  match word with
  | [.char '-'] => .stream none
  | [.char c] => if c.isDigit then .stream (some (c.toNat - 48)) else .streamNamed word
  | word => .streamNamed word

/-- One command behind the other. -/
def inSequence : Option Script → Script → Script
  | some first, second => .sequence first second
  | none, second => second

/-- A command in the background. -/
def inBackground : Script → Script
  | .pipeline commands _ => .pipeline commands true
  | .redirected _ body redirects => .background body redirects
  | script => .background script []

/-- Names that no function may have. -/
def reservedNames : List String :=
  [".", ":", "break", "continue", "eval", "exec", "exit", "export", "local", "readonly", "return",
   "set", "shift", "times", "trap", "unset"]

mutual

/-- Read a token; keywords and aliases are words here. -/
def readRaw (fuel : Nat) : Reading Token :=
  match fuel with
  | 0 => misread "too long"
  | fuel + 1 => do
    if (← get).again then
      modify fun reader => { reader with again := false }
      return (← get).token
    match ← skipBlanks fuel false with
    | none => become .ending
    | some '\n' => do
      passLine
      become .newline
    | some '&' => readSign fuel '&' .both .ampersand
    | some '|' => readSign fuel '|' .either .pipe
    | some ';' => readSign fuel ';' .branchEnd .semicolon
    | some '(' => become .opening
    | some ')' => become .closing
    | some c => do
      let kind : WordKind := if (← get).isEndMark then .endMark else .plain
      let (draft, last) ← readParts fuel (readList fuel false true none) (readToken fuel) kind {}
        (some c) {}
      let stream? := if draft.quoted then none else streamOf? draft.parts
      match stream?, last with
      | some stream, some '<' => readRedirection fuel stream '<'
      | some stream, some '>' => readRedirection fuel stream '>'
      | _, _ => do
        giveBack last
        modify fun reader => { reader with word := draft.parts.reverse, wordQuoted := draft.quoted }
        become .word

/-- Read a token. -/
def readToken (fuel : Nat) : Reading Token :=
  match fuel with
  | 0 => misread "too long"
  | fuel + 1 => do
    let before ← get
    let token ← if before.skipsNewlines then readPastNewlines fuel else readRaw fuel
    let reader ← get
    let allowsKeyword := before.allowsKeyword || reader.allowsKeyword
    let allowsAlias := before.allowsAlias || reader.allowsAlias
    set { reader with
      skipsNewlines := false, allowsKeyword := false, allowsAlias := false, isEndMark := false }
    let bare := (reader.word.bare?).getD []
    if token != .word || reader.wordQuoted || bare.isEmpty then pure token
    else if allowsKeyword && Token.keywords.contains (String.ofList bare) then
      become (.keyword (String.ofList bare))
    else match if allowsAlias then reader.aliases.lookup bare else none with
      | none => pure token
      | some text =>
        if reader.busy.contains bare then pure token
        else do
          let spaced := text.getLast?.any fun c => c = ' ' || c = '\t'
          modify fun reader =>
            if text.isEmpty then reader
            else { reader with
              rest := text, busy := bare :: reader.busy
              interrupted := ⟨bare, spaced, reader.rest⟩ :: reader.interrupted }
          allow before.skipsNewlines allowsKeyword allowsAlias
          readToken fuel

/-- Read a token behind line feeds. -/
def readPastNewlines (fuel : Nat) : Reading Token :=
  match fuel with
  | 0 => misread "too long"
  | fuel + 1 => do
    let token ← readRaw fuel
    if token = .newline then
      readDocuments fuel
      readPastNewlines fuel
    else pure token

/-- Read the documents that were announced. -/
def readDocuments (fuel : Nat) : Reading Unit :=
  match fuel with
  | 0 => misread "too long"
  | fuel + 1 => do
    match (← get).announced with
    | [] => pure ()
    | announcement :: later => do
      modify fun reader => { reader with announced := [] }
      let kind : WordKind := .document announcement
      let place : Place := { quotes := if announcement.quoted then .single else .double }
      let c ← lineStart fuel kind (← nextOf fuel place)
      let (draft, _) ← readParts fuel (readList fuel false true none) (readToken fuel) kind place c {}
      modify fun reader => { reader with
        announced := later
        documents := (announcement.number, draft.parts.reverse) :: reader.documents }
      readDocuments fuel

/-- Read a list of commands. At the top it ends with the line; otherwise it may be over
where a token ends it, at once or behind the first command. -/
def readList (fuel : Nat) (top mayEnd : Bool) (before : Option Script) :
    Reading (Option Script) :=
  match fuel with
  | 0 => misread "too long"
  | fuel + 1 => do
    allow (!top) true true
    let token ← readToken fuel
    if token = .newline then
      readDocuments fuel
      return before
    if token = .ending then
      readDocuments fuel
      modify fun reader => { reader with token := .ending, again := true }
      return before
    readAgain
    if mayEnd && !top && token.endsList then return before
    let script ← readConditions fuel (← readPipeline fuel)
    let token ← readToken fuel
    let script := if token = .ampersand then inBackground script else script
    let all := some (inSequence before script)
    match token with
    | .newline | .ending => do
      readAgain
      readList fuel top true all
    | .ampersand | .semicolon => readList fuel top true all
    | _ => do
      if top then unexpected none
      readAgain
      pure all

/-- Read commands that depend on the status of those in front of them. -/
def readConditions (fuel : Nat) (first : Script) : Reading Script :=
  match fuel with
  | 0 => misread "too long"
  | fuel + 1 => do
    match ← readToken fuel with
    | .both => do
      allow true true true
      readConditions fuel (.both first (← readPipeline fuel))
    | .either => do
      allow true true true
      readConditions fuel (.either first (← readPipeline fuel))
    | _ => do
      readAgain
      pure first

/-- Read a pipeline. -/
def readPipeline (fuel : Nat) : Reading Script :=
  match fuel with
  | 0 => misread "too long"
  | fuel + 1 => do
    let negated := (← readToken fuel) = .keyword "!"
    if negated then allow false true true else readAgain
    let first ← readCommand fuel
    let commands ← readStages fuel
    let script := if commands.isEmpty then first else .pipeline (first :: commands) false
    pure (if negated then .negated script else script)

/-- Read further commands of a pipeline. -/
def readStages (fuel : Nat) : Reading (List Script) :=
  match fuel with
  | 0 => misread "too long"
  | fuel + 1 => do
    if (← readToken fuel) = .pipe then
      allow true true true
      let command ← readCommand fuel
      pure (command :: (← readStages fuel))
    else
      readAgain
      pure []

/-- Read a list that is not empty. Only at the end of the text may it be, where the
token that has to follow is missed. -/
def readBody (fuel : Nat) : Reading Script :=
  match fuel with
  | 0 => misread "too long"
  | fuel + 1 => do
    pure ((← readList fuel false false none).getD (.simple 0 [] [] []))

/-- Read a token that has to come. -/
def readExpected (fuel : Nat) (token : Token) : Reading Unit :=
  match fuel with
  | 0 => misread "too long"
  | fuel + 1 => do
    if (← readToken fuel) != token then unexpected (some token)

/-- Read a command. -/
def readCommand (fuel : Nat) : Reading Script :=
  match fuel with
  | 0 => misread "too long"
  | fuel + 1 => do
    let line := (← get).line
    match ← readToken fuel with
    | .keyword "if" => do
      let script ← readChoice fuel
      readRedirected fuel line script
    | .keyword "while" => do
      let script ← readLoop fuel false
      readRedirected fuel line script
    | .keyword "until" => do
      let script ← readLoop fuel true
      readRedirected fuel line script
    | .keyword "for" => do
      let script ← readEach fuel line
      readRedirected fuel line script
    | .keyword "case" => do
      let script ← readSelect fuel line
      readRedirected fuel line script
    | .opening => do
      let body ← readBody fuel
      readExpected fuel .closing
      readRedirected fuel line (.subshell line body [])
    | .keyword "\x7b" => do
      let body ← readBody fuel
      readExpected fuel (.keyword "\x7d")
      readRedirected fuel line body
    | .word | .redirection => do
      readAgain
      let line := (← get).line
      readSimple fuel line true [] [] []
    | _ => unexpected none

/-- Read the redirections behind a command that has an end of its own. -/
def readRedirected (fuel : Nat) (line : Nat) (script : Script) : Reading Script :=
  match fuel with
  | 0 => misread "too long"
  | fuel + 1 => do
    allow false true true
    let redirects ← readRedirects fuel
    pure (match redirects, script with
      | [], script => script
      | redirects, .subshell line body _ => .subshell line body redirects
      | redirects, script => .redirected line script redirects)

/-- Read redirections. -/
def readRedirects (fuel : Nat) : Reading (List Redirect) :=
  match fuel with
  | 0 => misread "too long"
  | fuel + 1 => do
    if (← readToken fuel) = .redirection then
      let redirect ← readTarget fuel
      pure (redirect :: (← readRedirects fuel))
    else
      readAgain
      pure []

/-- Read where a redirection leads. -/
def readTarget (fuel : Nat) : Reading Redirect :=
  match fuel with
  | 0 => misread "too long"
  | fuel + 1 => do
    let (stream, signs) := ((← get).redirection).getD (0, [])
    let isDocument := signs.take 2 = ['<', '<']
    modify fun reader => { reader with isEndMark := isDocument }
    if (← readToken fuel) != .word then unexpected none
    let reader ← get
    if isDocument then
      let number := reader.nextDocument
      let announcement : Announcement :=
        { number, endMark := Word.unquoted reader.word, dropsTabs := signs.length = 3
          quoted := reader.wordQuoted }
      set { reader with
        nextDocument := number + 1, announced := reader.announced ++ [announcement] }
      pure (.of stream (.document number))
    else
      let file (use : FileUse) : Redirect := .of stream (.file use reader.word)
      pure (match String.ofList signs with
        | ">" => file .write
        | ">|" => file .overwrite
        | ">>" => file .append
        | "<>" => file .readWrite
        | "<" => file .read
        | _ => .of stream (streamTarget reader.word))

/-- Read a command of words, or the definition of a function. -/
def readSimple (fuel : Nat) (line : Nat) (mayAssign : Bool) (assignments words : List Word)
    (redirects : List Redirect) : Reading Script :=
  match fuel with
  | 0 => misread "too long"
  | fuel + 1 => do
    allow false false mayAssign
    match ← readToken fuel with
    | .word => do
      let word := (← get).word
      if mayAssign && Word.isAssignment word then
        readSimple fuel line true (assignments ++ [word]) words redirects
      else readSimple fuel line false assignments (words ++ [word]) redirects
    | .redirection => do
      let redirect ← readTarget fuel
      readSimple fuel line mayAssign assignments words (redirects ++ [redirect])
    | token => do
      match words with
      | [word] =>
        if token = .opening && assignments.isEmpty && redirects.isEmpty then
          readExpected fuel .closing
          let name := ((Word.bare? word).getD [])
          if !isName name || reservedNames.contains (String.ofList name) then
            misread "Bad function name"
          allow true true true
          let line := (← get).line
          return .define line name (← readCommand fuel)
      | _ => pure ()
      readAgain
      pure (.simple line assignments words redirects)

/-- Read what follows `if`. -/
def readChoice (fuel : Nat) : Reading Script :=
  match fuel with
  | 0 => misread "too long"
  | fuel + 1 => do
    let test ← readBody fuel
    readExpected fuel (.keyword "then")
    let body ← readBody fuel
    match ← readToken fuel with
    | .keyword "elif" => do pure (.choice test body (some (← readChoice fuel)))
    | .keyword "else" => do
      let otherwise ← readBody fuel
      readExpected fuel (.keyword "fi")
      pure (.choice test body (some otherwise))
    | token => do
      if token != .keyword "fi" then unexpected (some (.keyword "fi"))
      pure (.choice test body none)

/-- Read what follows `while` or `until`. -/
def readLoop (fuel : Nat) (untilTrue : Bool) : Reading Script :=
  match fuel with
  | 0 => misread "too long"
  | fuel + 1 => do
    let test ← readBody fuel
    readExpected fuel (.keyword "do")
    let body ← readBody fuel
    readExpected fuel (.keyword "done")
    pure (.loop untilTrue test body)

/-- Read words up to a token of another kind. -/
def readWords (fuel : Nat) : Reading (List Word) :=
  match fuel with
  | 0 => misread "too long"
  | fuel + 1 => do
    if (← readToken fuel) = .word then
      let word := (← get).word
      pure (word :: (← readWords fuel))
    else pure []

/-- Read what follows `for`. -/
def readEach (fuel : Nat) (line : Nat) : Reading Script :=
  match fuel with
  | 0 => misread "too long"
  | fuel + 1 => do
    let token ← readToken fuel
    let reader ← get
    let name := (Word.bare? reader.word).getD []
    if token != .word || reader.wordQuoted || !isName name then misread "Bad for loop variable"
    allow true true true
    let words ←
      if (← readToken fuel) = .keyword "in" then do
        let words ← readWords fuel
        let token := (← get).token
        if token != .newline && token != .semicolon then unexpected none
        pure words
      else do
        if (← get).token != .semicolon then readAgain
        pure [Word.allArguments]
    allow true true true
    readExpected fuel (.keyword "do")
    let body ← readBody fuel
    readExpected fuel (.keyword "done")
    pure (.each line name words body)

/-- Read what follows `case`. -/
def readSelect (fuel : Nat) (line : Nat) : Reading Script :=
  match fuel with
  | 0 => misread "too long"
  | fuel + 1 => do
    readExpected fuel .word
    let word := (← get).word
    allow true true true
    readExpected fuel (.keyword "in")
    allow true true false
    let first ← readToken fuel
    pure (.select line word (← readBranches fuel first))

/-- Read branches, the first of which starts with a token that was read. -/
def readBranches (fuel : Nat) (token : Token) : Reading (List (List Word × Option Script)) :=
  match fuel with
  | 0 => misread "too long"
  | fuel + 1 => do
    if token = .keyword "esac" then return []
    if token = .opening then let _ ← readToken fuel
    let patterns ← readPatterns fuel
    if (← get).token != .closing then unexpected (some .closing)
    let body ← readList fuel false true none
    allow true true false
    let last ← readToken fuel
    if last = .keyword "esac" then return [(patterns, body)]
    if last != .branchEnd then unexpected (some .branchEnd)
    allow true true false
    let next ← readToken fuel
    pure ((patterns, body) :: (← readBranches fuel next))

/-- Read patterns, the first of which was read. -/
def readPatterns (fuel : Nat) : Reading (List Word) :=
  match fuel with
  | 0 => misread "too long"
  | fuel + 1 => do
    let pattern := (← get).word
    if (← readToken fuel) = .pipe then
      let _ ← readToken fuel
      pure (pattern :: (← readPatterns fuel))
    else pure [pattern]

end

/-- How many steps reading may take. -/
def readingFuel : Nat := 1000000000

/-- Read the next complete command: nothing at the end of the text, and no command on
an empty line. -/
def readCommandLine : Reading (Option (Option Script)) := do
  modify fun reader => { reader with
    again := false, skipsNewlines := false, allowsKeyword := false, allowsAlias := false
    isEndMark := false, announced := [] }
  let script ← readList readingFuel true false none
  match script, (← get).token with
  | none, .ending => pure none
  | script, _ => pure (some script)

/-- Read a text as between double quotes. -/
def readPrompt : Reading Word := do
  let list := readList readingFuel false true none
  let c ← nextJoined readingFuel
  let (draft, _) ← readParts readingFuel list (readToken readingFuel) .prompt
    { quotes := .double } c {}
  pure draft.parts.reverse

end Checkup.Shell
