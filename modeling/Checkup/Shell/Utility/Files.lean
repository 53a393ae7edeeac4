import Checkup.Shell.Utility.Names

/-!
# Changing files

Utilities that make, move, copy and remove files.
-/

namespace Checkup.Shell

/-- Files as far as they are changed, with what was said about it. -/
structure Changes where
  tree : FileTree
  /-- Files that may be started. -/
  programs : List (List String)
  output : List (Nat × List Char) := []
  status : Nat := 0

namespace Changes

/-- A complaint more. -/
def complain (changes : Changes) (complaint : Nat × List Char) : Changes :=
  { changes with output := changes.output ++ [complaint], status := 1 }

/-- A line more. -/
def tell (changes : Changes) (line : String) : Changes :=
  { changes with output := changes.output ++ [(1, ofText (line ++ "\n"))] }

/-- A node at a place, with the marks of the files in it. -/
def put (changes : Changes) (place : List String) (node : Node) (marks : List (List String)) : Changes :=
  match place.getLast? with
  | none => changes
  | some name =>
    { changes with
      tree := changes.tree.put place.dropLast name node
      programs := marks.map (place ++ ·) ++ changes.programs.filter (!place.isPrefixOf ·) }

/-- Without the node at a place. -/
def drop (changes : Changes) (place : List String) : Changes :=
  match place.getLast? with
  | none => changes
  | some name =>
    { changes with
      tree := { changes.tree with top := changes.tree.top.update (Node.erase name) place.dropLast }
      programs := changes.programs.filter (!place.isPrefixOf ·) }

/-- The marks of the files at a place or below. -/
def marksOf (changes : Changes) (place : List String) : List (List String) :=
  changes.programs.filterMap (Path.below? place)

end Changes

/-- Changes from a request on. -/
def Request.changes (request : Request) : Changes :=
  { tree := request.tree, programs := request.programs }

/-- The answer with changes. -/
def Request.changed (request : Request) (changes : Changes) : Answer :=
  { request.answer changes.status changes.output with
    tree := changes.tree, programs := changes.programs }

/-- What a name leads to. -/
def findIn (tree : FileTree) (name : List Char) : Except FileTrouble (List String × Node) :=
  match lookAt tree name, tree.locate (namedPath name) with
  | .ok node, .ok place => .ok (place, node)
  | .ok _, .error trouble | .error trouble, _ => .error trouble

/-- The place of a name that need not be there itself. -/
def placeFor (tree : FileTree) (name : List Char) : Except FileTrouble (List String) :=
  match findIn tree name with
  | .ok (place, _) => .ok place
  | .error .missing =>
    if name.isEmpty then .error .missing
    else match findIn tree (folderName name) with
      | .ok (place, .folder _) => .ok (place ++ [toText (lastName name)])
      | .ok (_, .file _) => .error .notFolder
      | .error trouble => .error trouble
  | .error trouble => .error trouble

/-- Make files that are not there. -/
def touch : Utility := fun request =>
  let options := takeArguments "acmh" "drt" [("no-create", 'c'), ("date", 'd'), ("reference", 'r')] false
    request.arguments
  match options.refusal? request 1 with
  | some refusal => refusal
  | none =>
    if options.operands.isEmpty then request.refuseUse 1 "missing file operand"
    else
      request.changed (options.operands.foldl (fun changes name =>
        let refuse (words : String) (trouble : FileTrouble) : Changes :=
          changes.complain (request.complaint (words ++ quoted name ++ ": " ++ trouble.words))
        match request.find name, findIn changes.tree name with
        | _, .ok _ => changes
        | .ok (.file []), _ => changes
        | _, .error .missing =>
          if options.has 'c' then changes
          else if name.getLast? = some '/' then refuse "setting times of " .missing
          else match placeFor changes.tree name with
            | .ok place => changes.put place (.file []) []
            | .error trouble => refuse "cannot touch " trouble
        | _, .error trouble =>
          refuse (if name.getLast? = some '/' then "setting times of " else "cannot touch ") trouble)
        request.changes)

/-- A name with all names above it, the shortest first. -/
def namesAbove (name : List Char) : List (List Char) :=
  let trimmed := withoutSlashes name
  let ends := (List.range trimmed.length).filter fun i =>
    trimmed[i]? = some '/' && i != 0 && trimmed[i - 1]? != some '/'
  ends.map trimmed.take ++ [trimmed]

/-- Make one folder. One that is there may be tolerated, and may be on the way to the last. -/
def makeOne (request : Request) (changes : Changes) (tells tolerant isLast : Bool)
    (name shown : List Char) : Changes :=
  let refuse (trouble : FileTrouble) : Changes :=
    changes.complain (request.complaint ("cannot create directory " ++ quoted shown ++ ": " ++
      trouble.words))
  match findIn changes.tree name with
  | .ok (_, .folder _) => if tolerant then changes else refuse .exists
  | .ok (_, .file _) => refuse (if isLast then .exists else .notFolder)
  | .error .missing =>
    match placeFor changes.tree name with
    | .ok place =>
      let changes := changes.put place (.folder []) []
      if tells then
        changes.tell (toText request.name ++ ": created directory " ++ quoted name)
      else changes
    | .error trouble => refuse trouble
  | .error trouble => refuse trouble

/-- Make folders. -/
def mkdir : Utility := fun request =>
  let options := takeArguments "pv" "m" [("parents", 'p'), ("verbose", 'v'), ("mode", 'm')] false
    request.arguments
  match options.refusal? request 1 with
  | some refusal => refusal
  | none =>
    if options.operands.isEmpty then request.refuseUse 1 "missing operand"
    else
      let tells := options.has 'v'
      request.changed (options.operands.foldl (fun changes name =>
        if !options.has 'p' then makeOne request changes tells false true name name
        else
          (namesAbove name).foldl (fun (changes, failed) step =>
            if failed then (changes, true)
            else
              let shown := match findIn changes.tree step with
                | .ok (_, .file _) => step
                | _ => name
              let isLast := step = withoutSlashes name
              let after := makeOne request { changes with status := 0 } tells true isLast step shown
              ({ after with status := max changes.status after.status }, after.status != 0))
            (changes, false) |>.1) request.changes)

/-- Remove empty folders. -/
def rmdir : Utility := fun request =>
  let options := takeArguments "pv" "" [("parents", 'p'), ("verbose", 'v'),
    ("ignore-fail-on-non-empty", 'i')] false request.arguments
  match options.refusal? request 1 with
  | some refusal => refusal
  | none =>
    if options.operands.isEmpty then request.refuseUse 1 "missing operand"
    else
      let names := options.operands.flatMap fun name =>
        if options.has 'p' then (namesAbove name).reverse else [name]
      request.changed (names.foldl (fun changes name =>
        let refuse (words : String) : Changes :=
          changes.complain (request.complaint ("failed to remove " ++ quoted name ++ ": " ++ words))
        match findIn changes.tree name with
        | .ok (place, .folder []) =>
          let changes := changes.drop place
          if options.has 'v' then
            changes.tell (toText request.name ++ ": removing directory, " ++ quoted name)
          else changes
        | .ok (_, .folder _) => if options.has 'i' then changes else refuse "Directory not empty"
        | .ok (_, .file _) => refuse FileTrouble.notFolder.words
        | .error trouble => refuse trouble.words) request.changes)

/-- What is said about a node that is removed with all that it holds. -/
def removalLines (fuel : Nat) (name : List Char) (node : Node) : List String :=
  match fuel, node with
  | 0, _ => []
  | _, .file _ => ["removed " ++ quoted name]
  | fuel + 1, .folder entries =>
    entries.flatMap (fun (entry, node) => removalLines fuel (name ++ '/' :: ofText entry) node) ++
      ["removed directory " ++ quoted name]

/-- Remove files, and folders if that is asked for. -/
def rm : Utility := fun request =>
  let options := takeArguments "frRidvI" ""
    [("force", 'f'), ("recursive", 'r'), ("dir", 'd'), ("verbose", 'v')] false request.arguments
  match options.refusal? request 1 with
  | some refusal => refusal
  | none =>
    let force := options.has 'f'
    let deep := options.has 'r' || options.has 'R'
    if options.operands.isEmpty && !force then request.refuseUse 1 "missing operand"
    else
      request.changed (options.operands.foldl (fun changes name =>
        let refuse (words : String) : Changes :=
          changes.complain (request.complaint ("cannot remove " ++ quoted name ++ ": " ++ words))
        match findIn changes.tree name with
        | .error trouble =>
          if force && (trouble = .missing || trouble = .notFolder) then changes else refuse trouble.words
        | .ok (place, node) =>
          let last := lastName name
          let remove : Changes :=
            let changes := changes.drop place
            if options.has 'v' then (removalLines 200 (withoutSlashes name) node).foldl Changes.tell changes
            else changes
          if !node.isFolder then remove
          else if deep && (last = ['.'] || last = ['.', '.']) then
            changes.complain (request.complaint
              ("refusing to remove '.' or '..' directory: skipping " ++ quoted name))
          else if deep && place.isEmpty then
            (changes.complain (request.complaint
              "it is dangerous to operate recursively on '/'")).complain
                (request.complaint "use --no-preserve-root to override this failsafe")
          else if deep then remove
          else if options.has 'd' then
            if node.entries.isEmpty then remove else refuse "Directory not empty"
          else refuse FileTrouble.isFolder.words) request.changes)

/-- The operands of a utility that moves or copies: what, where to, and whether that is a
folder into which it goes. -/
structure Transfer where
  sources : List (List Char)
  target : List Char
  into : Bool

/-- Where operands go, or a refusal. -/
def transfer (request : Request) (options : Options) : Except Answer Transfer :=
  let isFolder (name : List Char) : Bool := request.find name matches .ok (.folder _)
  match options.value? 't', options.operands with
  | _, [] => .error (request.refuseUse 1 "missing file operand")
  | some target, sources =>
    if isFolder target then .ok ⟨sources, target, true⟩
    else .error (request.refuse 1 ("target directory " ++ quoted target ++ ": " ++
      FileTrouble.missing.words))
  | none, [name] => .error (request.refuseUse 1 ("missing destination file operand after " ++ quoted name))
  | none, names =>
    let target := names.getLastD []
    let sources := names.dropLast
    if options.has 'T' then
      if 1 < sources.length then
        .error (request.refuseUse 1 ("extra operand " ++ quoted ((names[2]?).getD [])))
      else .ok ⟨sources, target, false⟩
    else if isFolder target then .ok ⟨sources, target, true⟩
    else if 1 < sources.length then
      .error (request.refuse 1 ("target " ++ quoted target ++ ": " ++
        (match request.find target with
          | .ok _ => FileTrouble.notFolder
          | .error trouble => trouble).words))
    else .ok ⟨sources, target, false⟩

/-- Where a source goes. -/
def Transfer.goal (transfer : Transfer) (source : List Char) : List Char :=
  if !transfer.into then transfer.target
  else if transfer.target.getLast? = some '/' then transfer.target ++ lastName source
  else transfer.target ++ '/' :: lastName source

/-- Move files. -/
def mv : Utility := fun request =>
  let options := takeArguments "finvuTb" "tS"
    [("force", 'f'), ("no-clobber", 'n'), ("verbose", 'v'), ("target-directory", 't'),
     ("no-target-directory", 'T')] false request.arguments
  match options.refusal? request 1, transfer request options with
  | some refusal, _ => refusal
  | none, .error answer => answer
  | none, .ok transfer =>
    request.changed (transfer.sources.foldl (fun changes source =>
      let goal := transfer.goal source
      let refuse (words : String) : Changes := changes.complain (request.complaint words)
      match findIn changes.tree source with
      | .error trouble => refuse ("cannot stat " ++ quoted source ++ ": " ++ trouble.words)
      | .ok (place, node) =>
        if (device? (namedPath goal)).isSome then changes.drop place
        else match placeFor changes.tree goal with
        | .error trouble =>
          refuse ("cannot move " ++ quoted source ++ " to " ++ quoted goal ++ ": " ++ trouble.words)
        | .ok target =>
          let held? := changes.tree.top.at? target
          if place = target then
            refuse (quoted source ++ " and " ++ quoted goal ++ " are the same file")
          else if place.isPrefixOf target then
            refuse ("cannot move " ++ quoted source ++ " to a subdirectory of itself, " ++ quoted goal)
          else if held?.isSome && options.has 'n' then changes
          else match held?, node with
            | some (.folder _), .file _ =>
              refuse ("cannot overwrite directory " ++ quoted goal ++ " with non-directory")
            | some (.file _), .folder _ =>
              refuse ("cannot overwrite non-directory " ++ quoted goal ++ " with directory " ++
                quoted source)
            | some (.folder (_ :: _)), .folder _ =>
              refuse ("cannot overwrite " ++ quoted goal ++ ": Directory not empty")
            | none, .file _ | some (.file _), .file _ | none, .folder _ | some (.folder []), .folder _ =>
              if goal.getLast? = some '/' && !node.isFolder then
                refuse ("cannot move " ++ quoted source ++ " to " ++ quoted goal ++ ": Not a directory")
              else
                let marks := changes.marksOf place
                let changes := (changes.drop place).put target node marks
                if options.has 'v' then
                  changes.tell ("renamed " ++ quoted source ++ " -> " ++ quoted goal)
                else changes) request.changes)

/-- The entries of one folder laid over those of another. -/
def overlay (fuel : Nat) (below above : Node) : Node :=
  match fuel, below, above with
  | 0, _, above => above
  | fuel + 1, .folder entries, .folder others =>
    .folder (others.foldl (fun entries (name, node) =>
      match entries.lookup name with
      | some held => Node.insert name (overlay fuel held node) entries
      | none => Node.insert name node entries) entries)
  | _, _, above => above

/-- Copy files. -/
def cp : Utility := fun request =>
  let options := takeArguments "rRafinpvudTLPHl" "tS"
    [("recursive", 'r'), ("archive", 'a'), ("force", 'f'), ("no-clobber", 'n'), ("verbose", 'v'),
     ("target-directory", 't'), ("no-target-directory", 'T'), ("preserve", 'p')] false request.arguments
  match options.refusal? request 1, transfer request options with
  | some refusal, _ => refusal
  | none, .error answer => answer
  | none, .ok transfer =>
    let deep := options.has 'r' || options.has 'R' || options.has 'a'
    let start := request.changes
    let start := if !options.has 'n' then start
      else { start with output := [request.complaint
        ("warning: behavior of -n is non-portable and may change in future; use --update=none instead")] }
    request.changed (transfer.sources.foldl (fun changes source =>
      let goal := transfer.goal source
      let refuse (words : String) : Changes := changes.complain (request.complaint words)
      let found : Except FileTrouble (List String × Node) := match findIn changes.tree source with
        | .error trouble =>
          if (device? (namedPath source)).isSome then .ok ([], .file []) else .error trouble
        | found => found
      match found with
      | .error trouble => refuse ("cannot stat " ++ quoted source ++ ": " ++ trouble.words)
      | .ok (place, node) =>
        if node.isFolder && !deep then refuse ("-r not specified; omitting directory " ++ quoted source)
        else if (device? (namedPath goal)).isSome then changes
        else match placeFor changes.tree goal with
        | .error trouble =>
          refuse ("cannot create " ++ (if node.isFolder then "directory " else "regular file ") ++
            quoted goal ++ ": " ++ trouble.words)
        | .ok target =>
          let held? := changes.tree.top.at? target
          if place = target && !node.isFolder then
            refuse (quoted source ++ " and " ++ quoted goal ++ " are the same file")
          else if node.isFolder && place.isPrefixOf target then
            refuse ("cannot copy a directory, " ++ quoted source ++ ", into itself, " ++ quoted goal)
          else if held?.isSome && options.has 'n' then changes
          else match held?, node with
            | some (.folder _), .file _ =>
              refuse ("cannot overwrite directory " ++ quoted goal ++ " with non-directory")
            | some (.file _), .folder _ =>
              refuse ("cannot overwrite non-directory " ++ quoted goal ++ " with directory " ++
                quoted source)
            | held?, node =>
              if held?.isNone && !node.isFolder && goal.getLast? = some '/' then
                refuse ("cannot create regular file " ++ quoted goal ++ ": Not a directory")
              else
                let marks := match held?, node with
                  | some _, .file _ => changes.marksOf target
                  | _, _ => changes.marksOf place
                let marks := match held? with
                  | some (.folder _) => marks ++ changes.marksOf target
                  | _ => marks
                let changes := changes.put target
                  (held?.elim node fun held => overlay 200 held node) marks
                if options.has 'v' then changes.tell (quoted source ++ " -> " ++ quoted goal)
                else changes) start)

/-- Give files further names. The further name holds what the file holds at that time. -/
def ln : Utility := fun request =>
  let options := takeArguments "sfnvTrLPd" "tS"
    [("symbolic", 's'), ("force", 'f'), ("verbose", 'v'), ("target-directory", 't'),
     ("no-target-directory", 'T')] false request.arguments
  let where? : Except Answer Transfer := match options.value? 't', options.operands with
    | none, [name] => .ok ⟨[name], ['.'], true⟩
    | _, _ => transfer request options
  let kind := if options.has 's' then "symbolic link " else "hard link "
  match options.refusal? request 1, where? with
  | some refusal, _ => refusal
  | none, .error answer => answer
  | none, .ok transfer =>
    request.changed (transfer.sources.foldl (fun changes source =>
      let goal := transfer.goal source
      let refuse (words : String) : Changes := changes.complain (request.complaint words)
      let refuseLink (shown : String) (trouble : FileTrouble) : Changes :=
        refuse ("failed to create " ++ kind ++ quoted goal ++ shown ++ ": " ++ trouble.words)
      match findIn changes.tree source with
      | .error trouble =>
        if options.has 's' then changes
        else refuse ("failed to access " ++ quoted source ++ ": " ++ trouble.words)
      | .ok (place, node) =>
        if node.isFolder && !options.has 's' then
          refuse (toText source ++ ": hard link not allowed for directory")
        else match placeFor changes.tree goal with
        | .error trouble => refuseLink (" => " ++ quoted source) trouble
        | .ok target =>
          let held? := changes.tree.top.at? target
          if held?.isSome && !options.has 'f' || (device? (namedPath goal)).isSome then
            refuseLink "" .exists
          else if held?.isSome && place = target then
            refuse (quoted source ++ " and " ++ quoted goal ++ " are the same file")
          else
            let changes := changes.put target node (changes.marksOf place)
            if options.has 'v' then
              changes.tell (quoted goal ++ (if options.has 's' then " -> " else " => ") ++ quoted source)
            else changes) request.changes)

/-- Whether a mode lets a file be started: nothing is said where it does not matter. -/
def startable? (mode : List Char) : Option (Option Bool) :=
  if !mode.isEmpty && mode.all (isDigitOf 8) then
    some (some (digitsValue 8 mode % 128 / 64 % 2 = 1))
  else
    (splitAt ',' mode).foldl (fun result clause =>
      let who := clause.takeWhile fun c => "ugoa".toList.contains c
      let mine := who.isEmpty || who.contains 'u' || who.contains 'a'
      match clause.drop who.length with
      | sign :: rights =>
        if !"+-=".toList.contains sign || !rights.all fun c => "rwxXst".toList.contains c then none
        else
          let starts := rights.contains 'x'
          result.map fun so =>
            if !mine then so
            else if sign = '=' then some starts
            else if starts then some (sign = '+')
            else so
      | [] => none) (some none)

/-- Change what may be done with files: whether they may be started. -/
def chmod : Utility := fun request =>
  let isOption (argument : List Char) : Bool :=
    argument.head? = some '-' && (argument.drop 1).all fun c => "Rvcf".toList.contains c
  let options := (request.arguments.takeWhile isOption).flatten
  match request.arguments.dropWhile isOption with
  | [] => request.refuseUse 1 "missing operand"
  | [mode] => request.refuseUse 1 ("missing operand after " ++ quoted mode)
  | mode :: files =>
    match startable? mode with
    | none => request.refuseUse 1 ("invalid mode: " ++ quoted mode)
    | some starts? =>
      request.changed (files.foldl (fun changes name =>
        match findIn changes.tree name with
        | .error trouble =>
          if (request.find name).toOption.isSome then changes
          else changes.complain (request.complaint
            ("cannot access " ++ quoted name ++ ": " ++ trouble.words))
        | .ok (place, node) =>
          let places := place :: (if options.contains 'R' then placesBelow 200 place node else [])
          match starts? with
          | none => changes
          | some starts =>
            let others := changes.programs.filter (!places.contains ·)
            { changes with programs := if starts then places ++ others else others })
        request.changes)
where
  /-- The places of all that a folder holds. -/
  placesBelow (fuel : Nat) (place : List String) (node : Node) : List (List String) :=
    match fuel with
    | 0 => []
    | fuel + 1 => node.entries.flatMap fun (name, node) =>
      (place ++ [name]) :: placesBelow fuel (place ++ [name]) node

/-- Write the input to the first stream and to files. -/
def tee : Utility := fun request =>
  let options := takeArguments "aip" "" [("append", 'a')] false request.arguments
  match options.refusal? request 1 with
  | some refusal => refusal
  | none =>
    let text := request.input
    let changes := options.operands.foldl (fun changes name =>
      let held := match findIn changes.tree name with
        | .ok (_, .file bytes) => if options.has 'a' then ofBytes bytes else []
        | _ => []
      match putText changes.tree name (held ++ text) with
      | .ok tree => { changes with tree }
      | .error trouble => changes.complain (request.complaint (troubleWith name trouble)))
      request.changes
    let copies := options.operands.filterMap fun name =>
      if name = "/dev/stderr".toList then some (2, text)
      else if name = "/dev/stdout".toList then some (1, text)
      else none
    { request.changed changes with
      output := changes.output ++ [(1, text)] ++ copies, rest := [] }

/-- A name for a file that nobody else has. -/
def mktemp : Utility := fun request =>
  let options := takeArguments "dqut" "p" [("directory", 'd'), ("tmpdir", 'p'), ("quiet", 'q')] false
    request.arguments
  let given := options.operands.headD "tmp.XXXXXXXXXX".toList
  let marks := (given.reverse.takeWhile (· = 'X')).length
  let folder : List Char :=
    match options.value? 'p' with
    | some folder => folder ++ ['/']
    | none => if options.operands.isEmpty || options.has 't' then "/tmp/".toList else []
  let base := folder ++ given.take (given.length - marks)
  let name? := (List.range 1000).findSome? fun i =>
    let digits := Nat.toDigits 10 i
    let name := base ++ List.replicate (marks - digits.length) 'a' ++ digits
    match request.find name with
    | .error _ => some name
    | .ok _ => none
  match options.refusal? request 1, name? with
  | some refusal, _ => refusal
  | none, none => request.answer 1 []
  | none, some name =>
    if marks < 3 then request.refuse 1 ("too few X's in template " ++ quoted given)
    else match placeFor request.tree name with
      | .error trouble =>
        request.refuse 1 ("failed to create " ++ (if options.has 'd' then "directory" else "file") ++
          " via template " ++ quoted (folder ++ given) ++ ": " ++ trouble.words)
      | .ok place =>
        let node : Node := if options.has 'd' then .folder [] else .file []
        request.changed { request.changes.put place node [] with output := [(1, name ++ ['\n'])] }

end Checkup.Shell
