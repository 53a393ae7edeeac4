/-!
# Paths

A path is an anchor and the names below it. Single dots and repeated slashes
are dropped when a path is read; double dots stay until it is resolved.
-/

namespace Checkup

/-- A path. The anchor is empty for a relative path, and otherwise one slash or
exactly two. -/
structure Path where
  anchor : String
  names : List String
  deriving DecidableEq, Repr

namespace Path

/-- The pieces of a text between slashes. -/
def pieces : List Char → List (List Char)
  | [] => [[]]
  | c :: rest =>
    if c = '/' then [] :: pieces rest
    else match pieces rest with
      | [] => [[c]]
      | piece :: more => (c :: piece) :: more

/-- The names in a text: its pieces other than the empty one and the single dot. -/
def namesOf (text : List Char) : List String :=
  ((pieces text).filter fun piece => piece != [] && piece != ['.']).map String.ofList

/-- The anchor of a text: two slashes stay two, more are one. -/
def anchorOf : List Char → String
  | '/' :: '/' :: '/' :: _ => "/"
  | '/' :: '/' :: _ => "//"
  | '/' :: _ => "/"
  | _ => ""

/-- Read a path. -/
def ofString (text : String) : Path := ⟨anchorOf text.toList, namesOf text.toList⟩

/-- The text of a path; an empty relative path is a dot. -/
def toString (path : Path) : String :=
  if path.anchor.isEmpty && path.names.isEmpty then "."
  else path.anchor ++ String.intercalate "/" path.names

/-- A name on the way is refused by every file system: it holds the null character. -/
def holdsNull (path : Path) : Bool := path.names.any fun name => name.contains '\x00'

/-- A path starts at the root. -/
def isAbsolute (path : Path) : Bool := !path.anchor.isEmpty

/-- A path below another; an absolute one replaces it. -/
def join (base path : Path) : Path :=
  if path.isAbsolute then path else { base with names := base.names ++ path.names }

/-- A name below a path. -/
def child (base : Path) (name : String) : Path := { base with names := base.names ++ [name] }

/-- The path without its last name. -/
def parent (path : Path) : Path := { path with names := path.names.dropLast }

/-- The last name, if there is one. -/
def name? (path : Path) : Option String := path.names.getLast?

/-- Follow names from a folder, where a double dot leads to the folder above. -/
def follow (folder : List String) : List String → List String
  | [] => folder
  | name :: names => follow (if name = ".." then folder.dropLast else folder ++ [name]) names

/-- The names from the root, seen from the working folder. -/
def resolve (path : Path) (workingFolder : List String) : List String :=
  follow (if path.isAbsolute then [] else workingFolder) path.names

/-- The text of an absolute path without dots. -/
def absoluteText (names : List String) : String := "/" ++ String.intercalate "/" names

/-- The text of a path from the root, without dots. A path that no file system
admits stays as it is. -/
def absolute (workingFolder : List String) (path : Path) : String :=
  if path.holdsNull then path.toString else absoluteText (path.resolve workingFolder)

/-- The names below a folder, if they are below it. -/
def below? : (folder names : List String) → Option (List String)
  | [], names => some names
  | _ :: _, [] => none
  | f :: folder, n :: names => if f = n then below? folder names else none

/-- A path as it is shown: relative to the root folder if it lies below it, and
otherwise as it is. A root that no file system admits has nothing below it. -/
def shown (workingFolder : List String) (root path : Path) : String :=
  if root.holdsNull then path.toString
  else
    match below? (root.resolve workingFolder) (path.resolve workingFolder) with
    | some names => (⟨"", names⟩ : Path).toString
    | none => path.toString

end Path

end Checkup
