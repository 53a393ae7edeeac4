import Checkup.Shell.Bytes

/-!
# Fields

What a word stands for is a row of stretches. Those that parameters and commands
yield are cut into fields at separators; those that were written are not; and
the arguments of a script are fields of their own.
-/

namespace Checkup.Shell

/-- A piece of what a word stands for: a character, one that stands for itself in a
pattern, or the place where quotes open or close. -/
inductive Glyph where
  | plain (c : Char)
  | guarded (c : Char)
  | mark
  deriving DecidableEq, Repr

/-- The character of a glyph. -/
def Glyph.char? : Glyph → Option Char
  | plain c | guarded c => some c
  | mark => none

/-- How a stretch is cut. -/
inductive Zone where
  /-- Not at all. -/
  | fixed
  /-- At separators. -/
  | cut
  /-- At null characters, which stand between the fields of a list. -/
  | listed
  deriving DecidableEq, Repr

/-- A stretch of what a word stands for. -/
structure Stretch where
  zone : Zone
  glyphs : List Glyph
  deriving DecidableEq, Repr

namespace Glyph

/-- The text of glyphs. -/
def text (glyphs : List Glyph) : List Char := glyphs.filterMap char?

/-- The pattern of glyphs: what is guarded stands behind a backslash. `open?` tells that
quotes are open, and `naked` that a backslash was written in front. -/
def patternFrom (inQuotes naked : Bool) : List Glyph → List Char
  | [] => []
  | mark :: rest => patternFrom (!inQuotes) naked rest
  | plain c :: rest => c :: patternFrom inQuotes (c = '\\' && !naked) rest
  | guarded c :: rest =>
    (if !naked then ['\\'] else if inQuotes then ['\\', '\\'] else []) ++
      c :: patternFrom inQuotes false rest

/-- The pattern of glyphs. -/
def pattern (glyphs : List Glyph) : List Char := patternFrom false false glyphs

end Glyph

namespace Stretch

/-- All glyphs of some stretches. -/
def glyphsOf (stretches : List Stretch) : List Glyph := stretches.flatMap Stretch.glyphs

/-- The text of some stretches. -/
def text (stretches : List Stretch) : List Char := Glyph.text (glyphsOf stretches)

end Stretch

/-- The separators of fields unless a script sets its own. -/
def standardSeparators : List Char := [' ', '\t', '\n']

/-- A separator of which a run counts as one. -/
def isSoftSeparator (c : Char) : Bool := c = null || standardSeparators.contains c

/-- Fields as far as they are cut. -/
structure Cutting where
  separators : List Char
  /-- How many fields there may be before the last, which takes all the rest. -/
  left : Option Nat
  /-- Complete fields, the latest first. -/
  fields : List (List Glyph) := []
  /-- The field in hand, the latest glyph first. -/
  field : List Glyph := []
  /-- The field that stays if nothing but separators follows. -/
  trimmed : Option (List Glyph) := none
  /-- The glyph before was a soft separator that ended a field. -/
  afterSoft : Bool := false
  /-- The stretch in hand is a list, and so was the one before. -/
  listed : Bool := false
  afterList : Bool := false

namespace Cutting

/-- One more glyph. -/
def step (cutting : Cutting) (glyph : Glyph) : Cutting :=
  let among (c : Char) : Bool :=
    c = null || (!cutting.listed && cutting.separators.contains c)
  let isSeparator := glyph.char?.any among
  let isSoft := isSeparator && glyph.char?.any isSoftSeparator
  let longer := glyph :: cutting.field
  if cutting.left = some 0 then
    if isSoft then
      { cutting with field := longer, trimmed := some (cutting.trimmed.getD cutting.field) }
    else
      { cutting with
        field := longer, afterSoft := false
        trimmed := if isSeparator && cutting.afterSoft then cutting.trimmed else none }
  else if cutting.afterSoft then
    if isSoft then { cutting with field := [] }
    else if isSeparator then { cutting with field := [], afterSoft := false }
    else { cutting with field := [glyph], afterSoft := false }
  else if isSeparator then
    let soft := if cutting.afterList || cutting.listed then cutting.afterSoft else isSoft
    if cutting.field.isEmpty && soft then { cutting with afterSoft := false }
    else if cutting.left = some 1 then
      { cutting with
        left := some 0, field := longer, trimmed := some cutting.field, afterSoft := soft }
    else
      { cutting with
        left := cutting.left.map (· - 1), fields := cutting.field.reverse :: cutting.fields
        field := [], afterSoft := soft }
  else { cutting with field := longer, afterSoft := false }

/-- One more stretch. -/
def stretch (cutting : Cutting) (stretch : Stretch) : Cutting :=
  match stretch.zone with
  | .fixed => { cutting with field := stretch.glyphs.reverse ++ cutting.field }
  | zone =>
    stretch.glyphs.foldl step
      { cutting with afterList := cutting.listed, listed := zone = .listed, afterSoft := false }

/-- All fields. -/
def finish (cutting : Cutting) : List (List Glyph) :=
  let last := if cutting.listed then cutting.field else cutting.trimmed.getD cutting.field
  let fields := if last.isEmpty && !cutting.listed then cutting.fields
    else last.reverse :: cutting.fields
  fields.reverse

end Cutting

/-- The fields of stretches, at most so many if there is a limit. -/
def splitFields (separators : List Char) (limit : Option Nat) (stretches : List Stretch) :
    List (List Glyph) :=
  (stretches.foldl Cutting.stretch { separators, left := limit }).finish

end Checkup.Shell
