/-!
# UTF-8

Bytes are read as text strictly, where the first flaw is reported, or
leniently, where every flaw becomes one replacement character.
-/

namespace Checkup.Text

/-- The ways in which bytes fail to be UTF-8. -/
inductive Utf8Flaw where
  /-- The byte starts no character. -/
  | badStart
  /-- A byte that has to continue a character does not. -/
  | badContinuation
  /-- The bytes end inside a character. -/
  | cutShort
  deriving DecidableEq, Repr

/-- Where bytes fail to be UTF-8. -/
structure Utf8Fault where
  flaw : Utf8Flaw
  /-- Position of the first byte at fault. -/
  position : Nat
  /-- Number of bytes at fault. -/
  length : Nat
  /-- The first byte at fault. -/
  byte : UInt8
  deriving DecidableEq, Repr

/-- What stands at the head of some bytes, with the number of bytes that belong
to it beyond the first. -/
inductive Utf8Head where
  | char (c : Char) (further : Nat)
  | flaw (flaw : Utf8Flaw) (further : Nat)

/-- A byte that continues a character. -/
def isContinuation (byte : UInt8) : Bool := 0x80 ≤ byte && byte < 0xC0

/-- A second byte that may follow the first: no longer form than needed, no
surrogate and nothing beyond the last code point. -/
def isSecond (first second : UInt8) : Bool :=
  isContinuation second &&
    (first != 0xE0 || 0xA0 ≤ second) && (first != 0xED || second < 0xA0) &&
    (first != 0xF0 || 0x90 ≤ second) && (first != 0xF4 || second < 0x90)

/-- The six bits of a continuation byte, behind the bits read so far. -/
def pushBits (bits : Nat) (byte : UInt8) : Nat := 64 * bits + (byte.toNat - 0x80)

/-- The character or the flaw that starts with the byte `first`. -/
def Utf8Head.read (first : UInt8) (rest : List UInt8) : Utf8Head :=
  if first < 0x80 then .char (Char.ofNat first.toNat) 0
  else if first < 0xC2 then .flaw .badStart 0
  else if first < 0xE0 then
    match rest with
    | [] => .flaw .cutShort 0
    | second :: _ =>
      if isSecond first second then .char (Char.ofNat (pushBits (first.toNat - 0xC0) second)) 1
      else .flaw .badContinuation 0
  else if first < 0xF0 then
    match rest with
    | [] => .flaw .cutShort 0
    | second :: rest =>
      if isSecond first second then
        match rest with
        | [] => .flaw .cutShort 1
        | third :: _ =>
          if isContinuation third then
            .char (Char.ofNat (pushBits (pushBits (first.toNat - 0xE0) second) third)) 2
          else .flaw .badContinuation 1
      else .flaw .badContinuation 0
  else if first < 0xF5 then
    match rest with
    | [] => .flaw .cutShort 0
    | second :: rest =>
      if isSecond first second then
        match rest with
        | [] => .flaw .cutShort 1
        | third :: rest =>
          if isContinuation third then
            match rest with
            | [] => .flaw .cutShort 2
            | fourth :: _ =>
              if isContinuation fourth then
                .char (Char.ofNat
                  (pushBits (pushBits (pushBits (first.toNat - 0xF0) second) third) fourth)) 3
              else .flaw .badContinuation 2
          else .flaw .badContinuation 1
      else .flaw .badContinuation 0
  else .flaw .badStart 0

/-- Strict reading of the bytes from a position on. -/
def decodeFrom (position : Nat) : List UInt8 → Except Utf8Fault (List Char)
  | [] => .ok []
  | first :: rest =>
    match Utf8Head.read first rest with
    | .char c further =>
      match decodeFrom (position + 1 + further) (rest.drop further) with
      | .ok text => .ok (c :: text)
      | .error fault => .error fault
    | .flaw flaw further => .error ⟨flaw, position, further + 1, first⟩
termination_by bytes => bytes.length
decreasing_by all_goals (simp only [List.length_cons, List.length_drop]; omega)

/-- Read bytes as UTF-8, or report the first flaw. -/
def decode (bytes : List UInt8) : Except Utf8Fault (List Char) := decodeFrom 0 bytes

/-- Read bytes as UTF-8 with a replacement character for every flaw. -/
def decodeLenient : List UInt8 → List Char
  | [] => []
  | first :: rest =>
    match Utf8Head.read first rest with
    | .char c further => c :: decodeLenient (rest.drop further)
    | .flaw _ further => '\uFFFD' :: decodeLenient (rest.drop further)
termination_by bytes => bytes.length
decreasing_by all_goals (simp only [List.length_cons, List.length_drop]; omega)

/-- The bytes of a text. -/
def encode (text : String) : List UInt8 := text.toUTF8.toList

end Checkup.Text
