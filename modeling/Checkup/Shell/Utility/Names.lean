import Checkup.Shell.Utility

/-!
# Names of files

Utilities that take the names of files apart, or follow them.
-/

namespace Checkup.Shell

/-- A text without slashes at its end. -/
def withoutSlashes (text : List Char) : List Char := (text.reverse.dropWhile (· = '/')).reverse

/-- The last name of a path. -/
def lastName (path : List Char) : List Char :=
  let trimmed := withoutSlashes path
  if trimmed.isEmpty then if path.isEmpty then [] else ['/']
  else (trimmed.reverse.takeWhile (· != '/')).reverse

/-- A path without its last name. -/
def folderName (path : List Char) : List Char :=
  let trimmed := withoutSlashes path
  if trimmed.isEmpty then if path.isEmpty then ['.'] else ['/']
  else if !trimmed.contains '/' then ['.']
  else
    let folder := withoutSlashes (trimmed.reverse.dropWhile (· != '/')).reverse
    if folder.isEmpty then ['/'] else folder

/-- A name without an ending, which may not be all of it. -/
def withoutEnding (ending name : List Char) : List Char :=
  if !ending.isEmpty && ending.isSuffixOf name && ending.length < name.length then
    name.take (name.length - ending.length)
  else name

/-- The last name of paths. -/
def basename : Utility := fun request =>
  let options := takeArguments "az" "s" [("multiple", 'a'), ("suffix", 's'), ("zero", 'z')] true
    request.arguments
  match options.refusal? request 1, options.operands with
  | some refusal, _ => refusal
  | none, [] => request.refuseUse 1 "missing operand"
  | none, path :: rest =>
    let lineEnd := if options.has 'z' then [null] else ['\n']
    let several := options.has 'a' || options.has 's'
    let shown (ending path : List Char) : List Char := withoutEnding ending (lastName path) ++ lineEnd
    match several, rest with
    | true, rest =>
      request.say ((path :: rest).flatMap (shown ((options.value? 's').getD [])))
    | false, [] => request.say (shown [] path)
    | false, [ending] => request.say (shown ending path)
    | false, _ :: extra :: _ => request.refuseUse 1 ("extra operand " ++ quoted extra)

/-- Paths without their last names. -/
def dirname : Utility := fun request =>
  let options := takeArguments "z" "" [("zero", 'z')] false request.arguments
  match options.refusal? request 1 with
  | some refusal => refusal
  | none =>
    if options.operands.isEmpty then request.refuseUse 1 "missing operand"
    else request.say (linesText (options.operands.map folderName))

/-- The path from the root that a path leads to, if all but its last name is there. -/
def realPath (tree : FileTree) (whole : Bool) (path : List Char) : Except FileTrouble (List Char) :=
  let place (names : List String) : List Char := ofText (Path.absoluteText names)
  if path.isEmpty then .error .missing
  else match lookAt tree path, tree.locate (namedPath path) with
    | .ok _, .ok names => .ok (place names)
    | .ok _, .error trouble => .error trouble
    | .error .missing, _ =>
      if whole then .error .missing
      else match tree.locate (namedPath (folderName path)) with
        | .ok names => .ok (place (names ++ [toText (lastName path)]))
        | .error trouble => .error trouble
    | .error trouble, _ => .error trouble

/-- Paths from the root. -/
def realpath : Utility := fun request =>
  let options := takeArguments "emqszLP" "" [("canonicalize-existing", 'e'), ("canonicalize-missing", 'm'),
    ("quiet", 'q')] false request.arguments
  match options.refusal? request 1 with
  | some refusal => refusal
  | none =>
    if options.operands.isEmpty then request.refuseUse 1 "missing operand"
    else
      let found := options.operands.map fun path =>
        if options.has 'm' && !path.isEmpty then
          .ok (ofText (Path.absoluteText ((namedPath path).resolve request.tree.workingFolder)))
        else (realPath request.tree (options.has 'e') path).mapError (path, ·)
      let complaints := found.filterMap fun
        | .error (path, trouble) =>
          if options.has 'q' then none else some (request.complaint (troubleWith path trouble))
        | .ok _ => none
      let failed := found.any fun
        | .error _ => true
        | .ok _ => false
      request.answer (if failed then 1 else 0)
        (complaints ++ [(1, linesText (found.filterMap Except.toOption))])

/-- Where links lead, of which there are none; or paths from the root. -/
def readlink : Utility := fun request =>
  let options := takeArguments "femnqsvz" "" [("canonicalize", 'f'), ("canonicalize-existing", 'e'),
    ("canonicalize-missing", 'm'), ("no-newline", 'n')] false request.arguments
  match options.refusal? request 1 with
  | some refusal => refusal
  | none =>
    if options.operands.isEmpty then request.refuseUse 1 "missing operand"
    else if !(options.has 'f' || options.has 'e' || options.has 'm') then request.answer 1 []
    else
      let found := options.operands.filterMap fun path =>
        (realPath request.tree (options.has 'e') path).toOption
      let text := if options.has 'n' then found.flatten else linesText found
      request.answer (if found.length < options.operands.length then 1 else 0) [(1, text)]

end Checkup.Shell
