import Checkup.Shell.Utility

/-!
# The system

Utilities that tell something about the system, and some that do next to
nothing.
-/

namespace Checkup.Shell

/-- Succeed. -/
def succeed : Utility := fun request => request.answer 0 []

/-- Fail. -/
def fail : Utility := fun request => request.answer 1 []

/-- Where programs are that are looked for in folders. -/
def programPlaces (request : Request) (name : List Char) : List (List Char) :=
  let runs (place : List Char) : Bool :=
    (systemProgram? place).isSome ||
      match lookAt request.tree place, request.tree.locate (namedPath place) with
      | .ok (.file _), .ok names => request.programs.contains names
      | _, _ => false
  if name.contains '/' then if runs name then [name] else []
  else
    let folders := pathFolders ((request.environment.lookup "PATH".toList).getD [])
    (folders.map fun folder => inFolder folder name).filter runs

/-- Where programs are. -/
def which : Utility := fun request =>
  let all := request.arguments.head? = some ['-', 'a']
  let names := if all then request.arguments.drop 1 else request.arguments
  let found := names.map fun name =>
    let places := programPlaces request name
    if all then places else places.take 1
  request.answer (if names.isEmpty || found.any List.isEmpty then 1 else 0)
    [(1, linesText found.flatten)]

/-- The values of variables. -/
def printenv : Utility := fun request =>
  if request.arguments.isEmpty then
    request.say (linesText (request.environment.map fun (name, value) => name ++ '=' :: value))
  else
    let values := request.arguments.map fun name => request.environment.lookup name
    request.answer (if values.all Option.isSome then 0 else 1) [(1, linesText (values.filterMap id))]

/-- The user. -/
def whoami : Utility := fun request => request.say "root\n".toList

/-- The user and the groups, by numbers and by names. -/
def idOfUser : Utility := fun request =>
  let options := takeArguments "ugGnr" "" [("user", 'u'), ("group", 'g'), ("groups", 'G'), ("name", 'n')]
    false request.arguments
  match options.refusal? request 1 with
  | some refusal => refusal
  | none =>
    if options.options.isEmpty then
      request.say "uid=0(root) gid=0(root) groups=0(root)\n".toList
    else request.say (if options.has 'n' then "root\n".toList else "0\n".toList)

/-- What the system is called. -/
def uname : Utility := fun request =>
  let options := takeArguments "asnrvmpio" "" [("all", 'a'), ("kernel-name", 's')] false
    request.arguments
  match options.refusal? request 1 with
  | some refusal => refusal
  | none =>
    let has (letter : Char) : Bool := options.has letter || options.has 'a'
    let parts : List String :=
      (if has 's' || options.options.isEmpty then ["Linux"] else []) ++
        (if has 'n' then ["localhost"] else []) ++ (if has 'm' then ["x86_64"] else []) ++
        (if has 'o' then ["GNU/Linux"] else [])
    request.say (ofText (String.intercalate " " parts ++ "\n"))

/-- The name of the host. -/
def hostname : Utility := fun request => request.say "localhost\n".toList

/-- The folder in hand. -/
def currentFolder : Utility := fun request =>
  request.say (ofText (Path.absoluteText request.tree.workingFolder ++ "\n"))

/-- Write arguments, with escapes replaced if that is asked for. -/
def echoArguments : Utility := fun request =>
  let isOption (argument : List Char) : Bool := match argument with
    | '-' :: c :: rest => (c :: rest).all fun c => "neE".toList.contains c
    | _ => false
  let letters := (request.arguments.takeWhile isOption).flatten
  let words := request.arguments.dropWhile isOption
  let text := joinWith [' '] words
  let (text, ends) := if letters.contains 'e' then unescape text else (text, false)
  request.say (if letters.contains 'n' || ends then text else text ++ ['\n'])

end Checkup.Shell
