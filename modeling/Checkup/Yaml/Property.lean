import Checkup.Text.Utf8
import Checkup.Yaml.Quoted

/-!
# Directives, anchors and tags

The names and addresses that properties of nodes and directives of documents
are written with.
-/

namespace Checkup.Yaml

/-- A character of a name. -/
def isNameChar (c : Char) : Bool :=
  ('0' ≤ c && c ≤ '9') || ('A' ≤ c && c ≤ 'Z') || ('a' ≤ c && c ≤ 'z') || c = '-' || c = '_'

/-- A name and the rest after it. -/
def takeName (text : List Char) : List Char × List Char :=
  (text.takeWhile isNameChar, text.dropWhile isNameChar)

/-- A sign that may follow an anchor or an alias directly. -/
def followsName (text : List Char) : Bool :=
  atWordEnd text ||
    text.head?.any fun c =>
      c = '?' || c = ':' || c = ',' || c = ']' || c = '\x7d' || c = '%' || c = '@' || c = '\x60'

/-- The name of an anchor or an alias and the rest after it. -/
def anchorName? (text : List Char) : Option (String × List Char) :=
  let (name, rest) := takeName text
  if name.isEmpty || !followsName rest then none else some (String.ofList name, rest)

/-- A character of an address other than an escape. -/
def isAddressChar (c : Char) : Bool :=
  isNameChar c || "-;/?:@&=+$,_.!~*\x27()[]".toList.contains c

/-- The bytes of a row of escapes in an address, and the rest. -/
def escapedBytes? : List Char → Option (List UInt8 × List Char)
  | '%' :: a :: b :: rest => do
    let high ← hexValue? a
    let low ← hexValue? b
    let (bytes, rest) ← escapedBytes? rest
    some (UInt8.ofNat (16 * high + low) :: bytes, rest)
  | '%' :: _ => none
  | text => some ([], text)

/-- An address and the rest after it. -/
def takeAddress? : List Char → Option (List Char × List Char)
  | [] => some ([], [])
  | c :: text =>
    if c = '%' then
      match escapedBytes? (c :: text) with
      | none => none
      | some (bytes, rest) =>
        match Text.decode bytes with
        | .error _ => none
        | .ok piece =>
          if rest.length < text.length + 1 then
            (takeAddress? rest).map fun (more, rest) => (piece ++ more, rest)
          else none
    else if isAddressChar c then
      (takeAddress? text).map fun (more, rest) => (c :: more, rest)
    else some ([], c :: text)
termination_by text => text.length

/-- An address that is not empty, and the rest after it. -/
def address? (text : List Char) : Option (List Char × List Char) := do
  let (address, rest) ← takeAddress? text
  if rest.length < text.length then some (address, rest) else none

/-- A tag handle: an exclamation mark, or a name between two. -/
def handle? (text : List Char) : Option (List Char × List Char) :=
  match text with
  | '!' :: ' ' :: rest => some (['!'], ' ' :: rest)
  | '!' :: rest =>
    let (name, rest) := takeName rest
    match rest with
    | '!' :: rest => some ('!' :: name ++ ['!'], rest)
    | _ => none
  | _ => none

/-- A tag as it is written: a handle, if there is one, and what follows it. -/
structure TagText where
  handle : Option String
  suffix : String
  deriving DecidableEq, Repr

/-- The text of a tag up to its end holds a second exclamation mark. -/
def hasHandle (text : List Char) : Bool :=
  (text.takeWhile fun c => c != ' ' && !isBreak c).contains '!'

/-- A tag behind its exclamation mark, and the rest after it. -/
def tagText? (text : List Char) : Option (TagText × List Char) := do
  let (tag, rest) ← match text with
    | '<' :: rest => do
      let (address, rest) ← address? rest
      match rest with
      | '>' :: rest => some (⟨none, String.ofList address⟩, rest)
      | _ => none
    | text =>
      if atWordEnd text then some ((⟨none, "!"⟩ : TagText), text)
      else do
        let (handle, rest) ← if hasHandle text then handle? ('!' :: text) else some (['!'], text)
        let (suffix, rest) ← address? rest
        some (⟨some (String.ofList handle), String.ofList suffix⟩, rest)
  if atSpace rest then some (tag, rest) else none

/-- A directive at the head of a document. -/
inductive Directive where
  /-- The version of the format, by its first number. -/
  | version (major : Nat)
  /-- What a tag handle stands for. -/
  | handle (name address : String)
  /-- Any other directive. -/
  | unknown
  deriving DecidableEq, Repr

/-- A run of digits and the rest after it. -/
def takeDigits? (text : List Char) : Option (Nat × List Char) :=
  let isDigit (c : Char) : Bool := '0' ≤ c && c ≤ '9'
  let digits := text.takeWhile isDigit
  if digits.isEmpty then none
  else some (digits.foldl (fun value c => 10 * value + (c.toNat - 48)) 0, text.dropWhile isDigit)

/-- The value of a version directive and the rest after it. -/
def versionDirective? (text : List Char) : Option (Directive × List Char) := do
  let (major, rest) ← takeDigits? (skipSpaces text)
  match rest with
  | '.' :: rest =>
    let (_, rest) ← takeDigits? rest
    if atSpace rest then some (.version major, rest) else none
  | _ => none

/-- The value of a handle directive and the rest after it. -/
def handleDirective? (text : List Char) : Option (Directive × List Char) := do
  let (handle, rest) ← handle? (skipSpaces text)
  if rest.head? != some ' ' then none
  else
    let (address, rest) ← address? (skipSpaces rest)
    if atSpace rest then
      some (.handle (String.ofList handle) (String.ofList address), rest)
    else none

/-- A directive behind its percent sign, and the rest after its line. -/
def directive? (text : List Char) : Option (Directive × List Char) := do
  let (name, rest) := takeName text
  if name.isEmpty || !atSpace rest then none
  else
    let (directive, rest) ←
      if name = "YAML".toList then versionDirective? rest
      else if name = "TAG".toList then handleDirective? rest
      else some (.unknown, toLineEnd rest)
    some (directive, (← restOfLine? rest).tail)

end Checkup.Yaml
