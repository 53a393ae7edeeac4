import Checkup.Shell.Starting
import Checkup.Shell.Utility.Files

/-!
# Finding files

Folders are walked through, and an expression says what is done with every file
in them.
-/

namespace Checkup.Shell

/-- What is asked about a file, or done with it. -/
inductive FindTest where
  | always (holds : Bool)
  | name (pattern : List Char) (folds : Bool)
  | path (pattern : List Char)
  | kind (letter : Char)
  | empty
  | size (sign : Char) (count : Nat) (unit : Nat)
  | print (mark : Char)
  | printFormat (format : List Char)
  | prune
  | delete
  | quit
  /-- Start a program, with the file in place of braces. -/
  | exec (words : List (List Char))
  /-- Start a program for all files at once. -/
  | execAll (words : List (List Char))
  | no (test : FindTest)
  | both (first second : FindTest)
  | either (first second : FindTest)
  | sequence (first second : FindTest)

namespace FindTest

/-- The test does something that replaces printing. -/
def acts : FindTest → Bool
  | print _ | printFormat _ | delete | quit | exec _ | execAll _ => true
  | no test => test.acts
  | both a b | either a b | sequence a b => a.acts || b.acts
  | _ => false

/-- A walk that deletes looks at what a folder holds before the folder. -/
def deletes : FindTest → Bool
  | delete => true
  | no test => test.deletes
  | both a b | either a b | sequence a b => a.deletes || b.deletes
  | _ => false

/-- A size with its sign and unit. -/
def readSize (text : List Char) : FindTest :=
  let sign := if text.head? = some '+' || text.head? = some '-' then text.headD ' ' else ' '
  let rest := text.dropWhile fun c => c = '+' || c = '-'
  let digits := rest.takeWhile Char.isDigit
  let unit := match rest.drop digits.length with
    | ['c'] => 1
    | ['w'] => 2
    | ['k'] => 1024
    | ['M'] => 1048576
    | _ => 512
  .size sign (digitsValue 10 digits) unit

/-- The words of a program up to their end, whether all files are meant, and the words
behind. -/
def takeProgram : List (List Char) → Option (List (List Char) × Bool × List (List Char))
  | [] => none
  | [';'] :: rest => some ([], false, rest)
  | ['\x7b', '\x7d'] :: ['+'] :: rest => some ([], true, rest)
  | word :: rest => (takeProgram rest).map fun (words, all, rest) => (word :: words, all, rest)

/-- Two tests, of which the second may be missing. -/
def andThen (first : FindTest) : Option FindTest → FindTest
  | some second => .both first second
  | none => first

/-- The test that some words write, up to a closing bracket or the end. The level tells which
operators are read: lists, choices, rows, or single tests. -/
def read (fuel : Nat) (level : Nat) (words : List (List Char)) :
    Except String (FindTest × List (List Char)) :=
  match fuel with
  | 0 => .error "invalid expression"
  | fuel + 1 =>
    match level with
    | 3 => do
      let (first, rest) ← read fuel 2 words
      match rest with
      | [','] :: rest => do
        let (second, rest) ← read fuel 3 rest
        .ok (.sequence first second, rest)
      | rest => .ok (first, rest)
    | 2 => do
      let (first, rest) ← read fuel 1 words
      match rest with
      | ['-', 'o'] :: rest | ['-', 'o', 'r'] :: rest => do
        let (second, rest) ← read fuel 2 rest
        .ok (.either first second, rest)
      | rest => .ok (first, rest)
    | 1 => do
      let (first, rest) ← read fuel 0 words
      match rest with
      | [] | [')'] :: _ | [','] :: _ | ['-', 'o'] :: _ | ['-', 'o', 'r'] :: _ => .ok (first, rest)
      | ['-', 'a'] :: rest | ['-', 'a', 'n', 'd'] :: rest => do
        let (second, rest) ← read fuel 1 rest
        .ok (.both first second, rest)
      | rest => do
        let (second, rest) ← read fuel 1 rest
        .ok (.both first second, rest)
    | _ =>
      match words with
      | [] => .error "invalid expression; you have used a binary operator with nothing before it."
      | word :: rest =>
        let valued (make : List Char → Except String FindTest) :
            Except String (FindTest × List (List Char)) :=
          match rest with
          | value :: rest => (make value).map (·, rest)
          | [] => .error ("missing argument to `" ++ toText word ++ "'")
        let skipped : Except String (FindTest × List (List Char)) := valued fun _ => .ok (.always true)
        match String.ofList word with
        | "!" | "-not" => do
          let (test, rest) ← read fuel 0 rest
          .ok (.no test, rest)
        | "(" => do
          match ← read fuel 3 rest with
          | (test, [')'] :: rest) => .ok (test, rest)
          | _ => .error "invalid expression; I was expecting to find a ')' somewhere but did not see one."
        | "-name" => valued fun pattern => .ok (.name pattern false)
        | "-iname" => valued fun pattern => .ok (.name pattern true)
        | "-path" | "-wholename" => valued fun pattern => .ok (.path pattern)
        | "-type" => valued fun letters =>
          match letters with
          | ['f'] | ['d'] | ['l'] | ['b'] | ['c'] | ['p'] | ['s'] => .ok (.kind (letters.headD 'f'))
          | letters => .error ("Unknown argument to -type: " ++ toText (letters.take 1))
        | "-size" => valued fun text => .ok (readSize text)
        | "-empty" => .ok (.empty, rest)
        | "-print" => .ok (.print '\n', rest)
        | "-print0" => .ok (.print null, rest)
        | "-printf" => valued fun format => .ok (.printFormat format)
        | "-prune" => .ok (.prune, rest)
        | "-delete" => .ok (.delete, rest)
        | "-quit" => .ok (.quit, rest)
        | "-true" => .ok (.always true, rest)
        | "-false" => .ok (.always false, rest)
        | "-depth" => .ok (.always true, rest)
        | "-maxdepth" | "-mindepth" => skipped
        | "-exec" | "-ok" | "-execdir" =>
          match takeProgram rest with
          | none => .error ("missing argument to `" ++ toText word ++ "'")
          | some (words, all, rest) => .ok (if all then .execAll words else .exec words, rest)
        | text =>
          .error ((if word.head? = some '-' then "unknown predicate `" ++ text ++ "'"
            else "paths must precede expression: `" ++ text ++ "'"))

end FindTest

/-- A walk through folders as far as it went. -/
structure Walk where
  /-- The names for programs that are started for all of them. -/
  gathered : List (List (List Char) × List Char) := []
  pruned : Bool := false
  ended : Bool := false
  status : Nat := 0

/-- A text in place of braces in words. -/
def fillBraces (name : List Char) (words : List (List Char)) : List (List Char) :=
  words.map fun word => fill (word.length + 1) word
where
  /-- A text in place of braces. -/
  fill (fuel : Nat) (word : List Char) : List Char :=
    match fuel, word with
    | 0, word => word
    | fuel + 1, '\x7b' :: '\x7d' :: rest => name ++ fill fuel rest
    | fuel + 1, c :: rest => c :: fill fuel rest
    | _ + 1, [] => []

/-- A file as a format shows it. -/
def formatFound (name : List Char) (depth : Nat) (node : Node) : List Char → List Char
  | '%' :: letter :: rest =>
    (match letter with
      | 'p' => name
      | 'f' => lastName name
      | 'h' => folderName name
      | 'd' => showNumber depth
      | 's' => match node with
        | .file bytes => showNumber bytes.length
        | .folder _ => "4096".toList
      | 'y' => if node.isFolder then ['d'] else ['f']
      | '%' => ['%']
      | _ => []) ++ formatFound name depth node rest
  | '\\' :: c :: rest => (escapeLetter? c).getD c :: formatFound name depth node rest
  | c :: rest => c :: formatFound name depth node rest
  | [] => []

/-- Ask a test about a file. -/
def runTest (go : Doer) (call : List Char) (name : List Char) (depth : Nat) (node : Node) :
    FindTest → Walk → Act (Bool × Walk)
  | .always holds, walk => pure (holds, walk)
  | .name pattern folds, walk => do
    let last := lastName name
    let (pattern, last) := if folds then (pattern.map Char.toLower, last.map Char.toLower)
      else (pattern, last)
    pure (matchesPattern pattern last, walk)
  | .path pattern, walk => pure (matchesPattern pattern name, walk)
  | .kind letter, walk => pure ((letter = 'd' && node.isFolder) || (letter = 'f' && !node.isFolder), walk)
  | .empty, walk => pure ((match node with
    | .file bytes => bytes.isEmpty
    | .folder entries => entries.isEmpty), walk)
  | .size sign count unit, walk =>
    let bytes := match node with
      | .file bytes => bytes.length
      | .folder _ => 4096
    let blocks := (bytes + unit - 1) / unit
    let holds := if sign = '+' then decide (count < blocks) else if sign = '-' then decide (blocks < count)
      else blocks = count
    pure (holds, walk)
  | .print mark, walk => do
    say 1 (name ++ [mark])
    pure (true, walk)
  | .printFormat format, walk => do
    say 1 (formatFound name depth node format)
    pure (true, walk)
  | .prune, walk => pure (true, { walk with pruned := true })
  | .quit, walk => pure (true, { walk with ended := true })
  | .delete, walk => do
    let tree ← theTree
    match tree.locate (namedPath name), tree.top.at? (((tree.locate (namedPath name)).toOption).getD []) with
    | .ok place, some node =>
      if lastName name = ['.'] then pure (true, walk)
      else if node.entries.isEmpty then
        let changes := ({ tree, programs := (← theWorld).programs } : Changes).drop place
        changeWorld fun world => { world with
          tree := { changes.tree with workingFolder := world.tree.workingFolder }
          programs := changes.programs }
        pure (true, walk)
      else
        say 2 (call ++ ofText (": cannot delete " ++ quoted name ++ ": Directory not empty\n"))
        pure (false, { walk with status := 1 })
    | _, _ => pure (false, walk)
  | .exec words, walk => do
    let words := fillBraces name words
    match ← launch go words with
    | .ok status => pure (status = 0, walk)
    | .error missing => do
      let _ ← launchTrouble call (quoted (words.headD [])) missing
      pure (false, walk)
  | .execAll words, walk => pure (true, { walk with gathered := walk.gathered ++ [(words, name)] })
  | .no test, walk => do
    let (holds, walk) ← runTest go call name depth node test walk
    pure (!holds, walk)
  | .both a b, walk => do
    let (holds, walk) ← runTest go call name depth node a walk
    if holds && !walk.ended then runTest go call name depth node b walk else pure (false, walk)
  | .either a b, walk => do
    let (holds, walk) ← runTest go call name depth node a walk
    if holds || walk.ended then pure (true, walk) else runTest go call name depth node b walk
  | .sequence a b, walk => do
    let (_, walk) ← runTest go call name depth node a walk
    runTest go call name depth node b walk

/-- How a walk goes. -/
structure WalkPlan where
  test : FindTest
  least : Nat
  most : Option Nat
  /-- What a folder holds comes before the folder. -/
  inner : Bool

/-- Walk through a folder. -/
def walkThrough (go : Doer) (call : List Char) (plan : WalkPlan) (fuel depth : Nat) (name : List Char)
    (node : Node) (walk : Walk) : Act Walk :=
  match fuel with
  | 0 => pure walk
  | fuel + 1 => do
    let visit (walk : Walk) : Act Walk := do
      if walk.ended || depth < plan.least then pure walk
      else pure (← runTest go call name depth node plan.test walk).2
    let enter (walk : Walk) : Act Walk := do
      if walk.pruned || walk.ended || plan.most.any (· ≤ depth) then
        pure { walk with pruned := false }
      else
        let step (walk : Walk) (entry : String × Node) : Act Walk :=
          let path := if name.getLast? = some '/' then name ++ ofText entry.1
            else name ++ '/' :: ofText entry.1
          walkThrough go call plan fuel (depth + 1) path entry.2 walk
        node.entries.foldlM step walk
    if plan.inner then visit (← enter walk) else enter (← visit walk)

/-- Start programs for all names that were gathered for them. -/
def launchGathered (go : Doer) (call : List Char) (gathered : List (List (List Char) × List Char)) :
    List (List (List Char)) → Act Nat
  | [] => pure 0
  | words :: rest => do
    let names := (gathered.filter fun entry => entry.1 = words).map Prod.snd
    let status ← match ← launch go (words ++ names) with
      | .ok status => pure status
      | .error missing => launchTrouble call (quoted (words.headD [])) missing
    let others ← launchGathered go call gathered rest
    pure (if status != 0 then 1 else others)

/-- Find files. -/
def runFind (go : Doer) (call : List Char) (arguments : List (List Char)) : Act Nat := do
  let startsTest (word : List Char) : Bool :=
    (word.head? = some '-' && word.length != 1) || word = ['!'] || word = ['(']
  let names := arguments.takeWhile (!startsTest ·)
  let words := arguments.drop names.length
  let names := if names.isEmpty then [['.']] else names
  let depthAfter (option : String) : Option Nat :=
    (words.dropWhile (· != option.toList))[1]? |>.bind count?
  let parsed : Except String (FindTest × List (List Char)) :=
    if words.isEmpty then .ok (.always true, []) else FindTest.read (8 * words.length + 8) 3 words
  match parsed with
  | .error trouble => do
    say 2 (call ++ ofText (": " ++ trouble ++ "\n"))
    pure 1
  | .ok (_, _ :: _) => do
    say 2 (call ++ ofText ": invalid expression; you have too many ')'\n")
    pure 1
  | .ok (test, []) => do
    let inner := test.deletes || words.contains "-depth".toList
    let test := if test.acts then test else .both test (.print '\n')
    let plan : WalkPlan :=
      { test, least := (depthAfter "-mindepth").getD 0, most := depthAfter "-maxdepth", inner }
    let step (walk : Walk) (name : List Char) : Act Walk := do
      match lookAt (← theTree) name with
      | .ok node => walkThrough go call plan 200 0 name node { walk with pruned := false }
      | .error trouble => do
        say 2 (call ++ ofText (": " ++ quoted name ++ ": " ++ trouble.words ++ "\n"))
        pure { walk with status := 1 }
    let walk ← names.foldlM step {}
    let status ← launchGathered go call walk.gathered (walk.gathered.map Prod.fst).eraseDups
    pure (max walk.status status)

end Checkup.Shell
