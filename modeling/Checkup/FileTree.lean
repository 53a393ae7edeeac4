import Checkup.Fault
import Checkup.Path
import Checkup.Text.Lines

/-!
# File trees

Files with their bytes, folders with their entries, and a working folder from
which relative paths are followed. Paths are followed as the file system
follows them: every name on the way has to be there, and has to be a folder.
The entries of a folder are kept in the order of their names.
-/

namespace Checkup

/-- A file with its bytes, or a folder with its entries. -/
inductive Node where
  | file (bytes : List UInt8)
  | folder (entries : List (String × Node))
  deriving Inhabited

namespace Node

/-- A node is a folder. -/
def isFolder : Node → Bool
  | file _ => false
  | folder _ => true

/-- The entries of a folder; a file has none. -/
def entries : Node → List (String × Node)
  | file _ => []
  | folder entries => entries

/-- The entries with one more, in its place; an entry of the same name is replaced. -/
def insert (name : String) (node : Node) : List (String × Node) → List (String × Node)
  | [] => [(name, node)]
  | (other, held) :: rest =>
    if name < other then (name, node) :: (other, held) :: rest
    else if name = other then (name, node) :: rest
    else (other, held) :: insert name node rest

/-- The entries without one. -/
def erase (name : String) (entries : List (String × Node)) : List (String × Node) :=
  entries.filter fun entry => entry.1 != name

/-- The node that some names lead to. -/
def at? : Node → List String → Option Node
  | node, [] => some node
  | node, name :: names => (node.entries.lookup name).bind fun node => node.at? names
termination_by _ names => names

/-- Change the entries of the folder that some names lead to. -/
def update (change : List (String × Node) → List (String × Node)) : Node → List String → Node
  | file bytes, _ => file bytes
  | folder entries, [] => folder (change entries)
  | folder entries, name :: names =>
    folder (entries.map fun entry =>
      if entry.1 = name then (entry.1, entry.2.update change names) else entry)
termination_by _ names => names

/-- A name that was put in is found. -/
theorem lookup_insert_self (name : String) (node : Node) (entries : List (String × Node)) :
    (insert name node entries).lookup name = some node := by
  induction entries with
  | nil => simp [insert]
  | cons entry rest ih =>
    obtain ⟨other, held⟩ := entry
    unfold insert
    split
    · simp
    · split
      · simp
      · next h =>
        have hne : (name == other) = false := by simp [h]
        rw [List.lookup_cons, hne, ih]

/-- Every other name is found as before. -/
theorem lookup_insert_of_ne {name sought : String} (h : sought ≠ name) (node : Node)
    (entries : List (String × Node)) :
    (insert name node entries).lookup sought = entries.lookup sought := by
  have hs : (sought == name) = false := by simp [h]
  induction entries with
  | nil => simp [insert, List.lookup_cons, hs]
  | cons entry rest ih =>
    obtain ⟨other, held⟩ := entry
    unfold insert
    split
    · simp [List.lookup_cons, hs]
    · split
      · next he => subst he; simp [List.lookup_cons, hs]
      · simp only [List.lookup_cons, ih]

end Node

/-- A tree of folders and files, and the names of the working folder from the top. -/
structure FileTree where
  top : Node
  workingFolder : List String

namespace FileTree

/-- One name further from a place: the place has to be a folder that holds the name. -/
def step (tree : FileTree) (place : List String) (name : String) :
    Except FileTrouble (List String) :=
  match tree.top.at? place with
  | none => .error .missing
  | some (.file _) => .error .notFolder
  | some (.folder entries) =>
    if name = ".." then .ok place.dropLast
    else if (entries.lookup name).isSome then .ok (place ++ [name])
    else .error .missing

/-- The place that names lead to, from another place. -/
def locateFrom (tree : FileTree) : List String → List String → Except FileTrouble (List String)
  | place, [] => .ok place
  | place, name :: names =>
    match tree.step place name with
    | .ok next => locateFrom tree next names
    | .error trouble => .error trouble

/-- Where a path starts. -/
def start (tree : FileTree) (path : Path) : List String :=
  if path.isAbsolute then [] else tree.workingFolder

/-- The place that a path leads to. -/
def locate (tree : FileTree) (path : Path) : Except FileTrouble (List String) :=
  tree.locateFrom (tree.start path) path.names

/-- The node that a path leads to. -/
def find (tree : FileTree) (path : Path) : Except FileTrouble Node :=
  match tree.locate path with
  | .ok place =>
    match tree.top.at? place with
    | some node => .ok node
    | none => .error .missing
  | .error trouble => .error trouble

/-- A path leads somewhere. -/
def holds (tree : FileTree) (path : Path) : Bool :=
  match tree.find path with
  | .ok _ => true
  | .error _ => false

/-- A path leads to a file. -/
def hasFile (tree : FileTree) (path : Path) : Bool :=
  match tree.find path with
  | .ok node => !node.isFolder
  | .error _ => false

/-- A path leads to a folder. -/
def hasFolder (tree : FileTree) (path : Path) : Bool :=
  match tree.find path with
  | .ok node => node.isFolder
  | .error _ => false

/-- A refusal that names a path. -/
def refuse {α : Type} (trouble : FileTrouble) (path : Path) : Except FileFault α :=
  .error ⟨trouble, path.toString⟩

/-- The bytes of a file. -/
def readBytes (tree : FileTree) (path : Path) : Except FileFault (List UInt8) :=
  match tree.find path with
  | .ok (.file bytes) => .ok bytes
  | .ok (.folder _) => refuse .isFolder path
  | .error trouble => refuse trouble path

/-- A path that may be handed to the file system. -/
def accept (path : Path) : Outcome Path :=
  if path.holdsNull then .error .nullCharacter else .ok path

/-- The text of a file, with line feeds for all line ends. -/
def readText (tree : FileTree) (path : Path) : Outcome (List Char) := do
  match tree.readBytes (← accept path) with
  | .error fault => .error (.file fault)
  | .ok bytes =>
    match Text.decode bytes with
    | .ok text => .ok (Text.unifyLineEnds text)
    | .error fault => .error (.notUtf8 fault)

/-- The entries of a folder. -/
def list (tree : FileTree) (path : Path) : Except FileFault (List (String × Node)) :=
  match tree.find path with
  | .ok (.folder entries) => .ok entries
  | .ok (.file _) => refuse .notFolder path
  | .error trouble => refuse trouble path

/-- The tree with an entry of the folder at a place put in or replaced. -/
def put (tree : FileTree) (place : List String) (name : String) (node : Node) : FileTree :=
  { tree with top := tree.top.update (Node.insert name node) place }

/-- Make or overwrite a file. -/
def writeBytes (tree : FileTree) (path : Path) (bytes : List UInt8) : Except FileFault FileTree :=
  match tree.find path with
  | .ok (.folder _) => refuse .isFolder path
  | .ok (.file _) | .error .missing =>
    match tree.locate path.parent, path.name? with
    | .ok place, some name => .ok (tree.put place name (.file bytes))
    | .error trouble, _ => refuse trouble path
    | .ok _, none => refuse .isFolder path
  | .error trouble => refuse trouble path

/-- Make or overwrite a file that holds a text. -/
def writeText (tree : FileTree) (path : Path) (text : String) : Except FileFault FileTree :=
  tree.writeBytes path (Text.encode text)

/-- Make one folder; the folder above has to be there. -/
def makeFolder (tree : FileTree) (path : Path) : Except FileFault FileTree :=
  match tree.find path with
  | .ok _ => refuse .exists path
  | .error .missing =>
    match tree.locate path.parent, path.name? with
    | .ok place, some name => .ok (tree.put place name (.folder []))
    | .error trouble, _ => refuse trouble path
    | _, none => refuse .exists path
  | .error trouble => refuse trouble path

/-- Make a folder unless it is there. -/
def ensureFolder (tree : FileTree) (path : Path) : Except FileFault FileTree :=
  match tree.makeFolder path with
  | .ok tree => .ok tree
  | .error fault => if tree.hasFolder path then .ok tree else .error fault

/-- Make a folder, and those above it that are missing. What was made stays
even if a folder further down cannot be made. -/
def makeFolders (tree : FileTree) (path : Path) : FileTree × Except FileFault Unit :=
  match tree.ensureFolder path with
  | .ok tree => (tree, .ok ())
  | .error fault =>
    if fault.trouble = .missing ∧ path.names ≠ [] then
      match tree.makeFolders path.parent with
      | (tree, .error fault) => (tree, .error fault)
      | (tree, .ok ()) =>
        match tree.ensureFolder path with
        | .ok tree => (tree, .ok ())
        | .error fault => (tree, .error fault)
    else (tree, .error fault)
termination_by path.names.length
decreasing_by
  next h =>
    have := List.length_pos_iff.mpr h.2
    simp only [Path.parent, List.length_dropLast]
    omega

/-- The same for a path that may hold what no file system admits. -/
def ensureFolders (tree : FileTree) (path : Path) : FileTree × Outcome Unit :=
  match accept path with
  | .error fault => (tree, .error fault)
  | .ok path =>
    match tree.makeFolders path with
    | (tree, .ok ()) => (tree, .ok ())
    | (tree, .error fault) => (tree, .error (.file fault))

/-- Remove a file or a folder with all that it holds. -/
def remove (tree : FileTree) (path : Path) : Except FileFault FileTree :=
  match tree.locate path with
  | .error trouble => refuse trouble path
  | .ok place =>
    match place.getLast? with
    | none => .ok tree
    | some name => .ok { tree with top := tree.top.update (Node.erase name) place.dropLast }

end FileTree

end Checkup
