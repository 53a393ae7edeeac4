import Checkup.Text.Lines
import Checkup.Text.Utf8
import Checkup.Yaml.Cursor

/-!
# Supply of text

A file is read as far as its text is asked for. Its bytes are decoded in
chunks, and its characters are handed on in pieces, two of them at first. What
is wrong with a piece matters only to those who ask for it, so a text that
breaks the rules of the format before that is malformed and nothing else.
-/

namespace Checkup.Yaml

/-- Least number of bytes that are decoded at once. -/
def chunkSize : Nat := 8192

/-- Number of characters that are handed on at once. -/
def pieceLength : Nat := 4096

/-- The text that can be had, and what is met behind it unless it is the end. -/
structure Supply where
  text : List Char
  wall : Option Flaw := none

namespace Supply

/-- The characters of a chunk, and the bytes at its end that are the start of one. -/
def decodeChunk (bytes : List UInt8) : Except Text.Utf8Fault (List Char × List UInt8) :=
  match Text.decode bytes with
  | .ok text => .ok (text, [])
  | .error fault =>
    if fault.flaw = .cutShort then
      (Text.decode (bytes.take fault.position)).map fun text => (text, bytes.drop fault.position)
    else .error fault

/-- A file that is being read. -/
structure Feed where
  /-- Bytes that are not decoded yet. -/
  bytes : List UInt8
  /-- Bytes of a character that is not complete. -/
  held : List UInt8 := []
  /-- A carriage return is kept back, because a line feed may follow. -/
  returned : Bool := false
  /-- Characters that are not handed on yet. -/
  ready : List Char := []
  /-- Numbers of bytes and characters of the last chunk. -/
  ratio : Nat × Nat := (0, 1)

namespace Feed

/-- Number of bytes to decode for so many characters. -/
def chunkFor (feed : Feed) (wanted : Nat) : Nat :=
  max chunkSize (max wanted (wanted * feed.ratio.1 / feed.ratio.2))

/-- Characters with line feeds for all line ends; a carriage return at the end is kept back. -/
def translate (returned : Bool) (text : List Char) : List Char × Bool :=
  let text := if returned then '\r' :: text else text
  if text.getLast? = some '\r' then (Text.unifyLineEnds text.dropLast, true)
  else (Text.unifyLineEnds text, false)

/-- Decode one more chunk, of which there is one. -/
def more (feed : Feed) : Except Text.Utf8Fault Feed := do
  let size := feed.chunkFor (pieceLength - feed.ready.length)
  let chunk := feed.bytes.take size
  let (text, held) ← decodeChunk (feed.held ++ chunk)
  let (text, returned) := translate feed.returned text
  .ok { bytes := feed.bytes.drop size, held, returned, ready := feed.ready ++ text,
        ratio := if text.isEmpty then (0, 1) else (chunk.length, text.length) }

/-- What is left when all bytes are decoded. -/
def last (feed : Feed) : Except Text.Utf8Fault (List Char) := do
  let _ ← Text.decode feed.held
  .ok (if feed.returned then feed.ready ++ ['\n'] else feed.ready)

/-- Cut into pieces what is left of a text. -/
def cut (text : List Char) : List (List Char) :=
  if 0 < text.length then text.take pieceLength :: cut (text.drop pieceLength) else []
termination_by text.length
decreasing_by
  have : 0 < pieceLength := by decide
  simp only [List.length_drop]
  omega

/-- The pieces of a file up to the one that cannot be decoded. -/
def pieces (fuel : Nat) (feed : Feed) : List (List Char) × Option Text.Utf8Fault :=
  match fuel with
  | 0 => ([], none)
  | fuel + 1 =>
    if pieceLength ≤ feed.ready.length then
      let (more, fault) := pieces fuel { feed with ready := feed.ready.drop pieceLength }
      (feed.ready.take pieceLength :: more, fault)
    else if feed.bytes.isEmpty then
      match feed.last with
      | .ok text => (cut text, none)
      | .error fault => ([], some fault)
    else
      match feed.more with
      | .ok feed => pieces fuel feed
      | .error fault => ([], some fault)

end Feed

/-- The pieces up to one with a character that no text may hold. -/
def allowed : List (List Char) → Option Flaw → Supply
  | [], wall => ⟨[], wall⟩
  | piece :: pieces, wall =>
    if piece.all isAllowed then
      let more := allowed pieces wall
      ⟨piece ++ more.text, more.wall⟩
    else ⟨[], some .malformed⟩

/-- The supply of some pieces and what is wrong behind them. The first two are
asked for at once. -/
def ofPieces (pieces : List (List Char)) (wall : Option Flaw) : Supply :=
  match pieces with
  | first :: second :: more => allowed ((first ++ second) :: more) wall
  | pieces =>
    match wall with
    | some flaw => ⟨[], some flaw⟩
    | none => allowed pieces none

/-- The supply of a file with some bytes. -/
def ofBytes (bytes : List UInt8) : Supply :=
  let (pieces, fault) := ({ bytes } : Feed).pieces (2 * bytes.length + 2)
  ofPieces pieces (fault.map fun fault => .fault (.notUtf8 fault))

end Supply

end Checkup.Yaml
