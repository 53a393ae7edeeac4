import Checkup.Proofs.Colours
import Checkup.Proofs.PrintedNumbers
import Checkup.Proofs.TextStretches

/-!
# Clones as they are printed

A clone is printed in three lines: a header with its language, the first place with the number
of lines, and the second place. Log lines may stand around each of them. What the readers of a
block take from these lines are the files and the digits that were put in, and from log lines
they take nothing.
-/

namespace Checkup.Jscpd

open Text

/-! ## What is printed -/

/-- A file that blocks can name: without blanks and brackets, and no lone hyphen. -/
structure IsFile (file : String) : Prop where
  nonempty : file.toList ≠ []
  notHyphen : file.toList ≠ ['-']
  plain : ∀ c ∈ file.toList, isBlank c = false ∧ c ≠ '[' ∧ c ≠ '\\' ∧ c ≠ escape

/-- Some lines of a file, with the columns they start and end at. -/
structure Place where
  file : String
  first : Nat
  firstColumn : Nat
  last : Nat
  lastColumn : Nat
  isFile : IsFile file

/-- The lines and columns of a place in brackets. -/
def Place.bracket (place : Place) : String :=
  "[" ++ toString place.first ++ ":" ++ toString place.firstColumn ++ " - " ++ toString place.last ++ ":" ++
    toString place.lastColumn ++ "]"

/-- Two places with the same code, and how much of it. -/
structure Announced where
  language : String
  first : Place
  second : Place
  count : Nat
  tokens : Nat
  isLanguage : ∀ c ∈ language.toList, isWord c = true

namespace Announced

/-- The line that a block starts with. -/
def headerLine (clone : Announced) : String := "Clone found (" ++ clone.language ++ "):"

/-- The numbers of lines and tokens in brackets. -/
def size (clone : Announced) : String :=
  "(" ++ toString clone.count ++ " lines, " ++ toString clone.tokens ++ " tokens)"

/-- The line of the first place. -/
def firstLine (clone : Announced) : String :=
  " - " ++ clone.first.file ++ " " ++ clone.first.bracket ++ " " ++ clone.size

/-- The line of the second place. -/
def secondLine (clone : Announced) : String := "   " ++ clone.second.file ++ " " ++ clone.second.bracket

/-- The numbers that an issue tells. -/
def numbers (clone : Announced) : List Nat :=
  [clone.first.first, clone.first.last, clone.second.first, clone.second.last, clone.count]

/-- The warning about a clone. -/
def issue (clone : Announced) : Issue where
  severity := .warning
  message := .text ("Duplicate code (" ++ toString clone.count ++ " lines): " ++ clone.first.file ++ " L" ++
    toString clone.first.first ++ "-" ++ toString clone.first.last ++ " also in " ++ clone.second.file ++ " L" ++
    toString clone.second.first ++ "-" ++ toString clone.second.last)
  file := .text clone.first.file
  line := .int clone.first.first
  rule := .text "jscpd/duplicate"

end Announced

/-- A line that tells of no clone: it holds no header, no bracket and no colour, and no hyphen starts it. -/
structure IsLog (line : String) : Prop where
  oneLine : '\n' ∉ line.toList
  noBracket : '[' ∉ line.toList
  noColour : escape ∉ line.toList
  noHeader : ¬header <:+: line.toList
  noHyphen : (trimStart line.toList).head? ≠ some '-'

/-- A line of a log. -/
structure LogLine where
  text : String
  isLog : IsLog text

/-- A clone with the log lines that follow each of its lines. -/
structure Block where
  clone : Announced
  afterHeader : List LogLine
  afterFirst : List LogLine
  afterSecond : List LogLine

/-- The text of some lines, each ended by a line feed. -/
def ended (lines : List String) : List Char := lines.flatMap fun line => line.toList ++ ['\n']

/-- The text of some log lines. -/
def logged (logs : List LogLine) : List Char := ended (logs.map LogLine.text)

/-- The lines of a block. -/
def Block.lines (block : Block) : List String :=
  block.clone.headerLine :: (block.afterHeader.map LogLine.text ++
    block.clone.firstLine :: (block.afterFirst.map LogLine.text ++
      block.clone.secondLine :: block.afterSecond.map LogLine.text))

/-- What is printed about some clones, after some log lines. -/
def printed (before : List LogLine) (blocks : List Block) : List Char :=
  ended (before.map LogLine.text ++ blocks.flatMap Block.lines)

/-! ## Digits and brackets -/

variable {text rest : List Char}

/-- Line and column are taken, and the line is given. -/
theorem takePosition?_toDigits (line column : Nat) (hs : Stops isDecimal rest) :
    takePosition? (Nat.toDigits 10 line ++ ':' :: (Nat.toDigits 10 column ++ rest)) =
      some (Nat.toDigits 10 line, rest) := by
  have hline : takeDigits? (Nat.toDigits 10 line ++ ':' :: (Nat.toDigits 10 column ++ rest)) = _ :=
    takeDigits?_toDigits line (stops_cons (by decide) _)
  unfold takePosition?
  rw [hline]
  change (takeDigits? (Nat.toDigits 10 column ++ rest)).bind _ = _
  rw [takeDigits?_toDigits column hs]
  rfl

/-- The digits of a place. -/
def Place.span (place : Place) : Span := ⟨Nat.toDigits 10 place.first, Nat.toDigits 10 place.last⟩

/-- The characters of a bracket. -/
theorem Place.toList_bracket (place : Place) :
    place.bracket.toList = '[' :: (Nat.toDigits 10 place.first ++ ':' :: (Nat.toDigits 10 place.firstColumn ++
      ' ' :: '-' :: ' ' :: (Nat.toDigits 10 place.last ++ ':' :: (Nat.toDigits 10 place.lastColumn ++ [']'])))) := by
  simp [Place.bracket, String.toList_append]

/-- A bracket gives the digits of its place. -/
theorem Place.takeSpan?_bracket (place : Place) (rest : List Char) :
    takeSpan? (place.bracket.toList ++ rest) = some (place.span, rest) := by
  have hblank : ∀ n tail, trimStart (' ' :: (Nat.toDigits 10 n ++ tail)) = Nat.toDigits 10 n ++ tail :=
    fun n tail => (@trimStart_append [' '] rfl _).trans (trimStart_eq_self (stops_toDigits n tail))
  have hlast : takePosition? (Nat.toDigits 10 place.last ++ ':' :: (Nat.toDigits 10 place.lastColumn ++ ']' :: rest)) =
      some (Nat.toDigits 10 place.last, ']' :: rest) := takePosition?_toDigits _ _ (stops_cons (by decide) _)
  have hfirst : ∀ tail, takePosition? (Nat.toDigits 10 place.first ++ ':' ::
      (Nat.toDigits 10 place.firstColumn ++ ' ' :: tail)) = some (Nat.toDigits 10 place.first, ' ' :: tail) :=
    fun tail => takePosition?_toDigits _ _ (stops_cons (by decide) _)
  rw [place.toList_bracket]
  simp only [List.cons_append, List.append_assoc, List.nil_append]
  unfold takeSpan?
  change (takePosition? (Nat.toDigits 10 place.first ++ _)).bind _ = _
  rw [hfirst]
  change (takePosition? (trimStart (' ' :: (Nat.toDigits 10 place.last ++ _)))).bind _ = _
  rw [hblank, hlast]
  rfl

/-- A span starts with a bracket. -/
theorem head?_of_takeSpan? {span : Span} (h : takeSpan? text = some (span, rest)) : text.head? = some '[' := by
  unfold takeSpan? at h
  obtain ⟨behind, hbehind, -⟩ := Option.bind_eq_some_iff.mp h
  rw [after?_eq_some.mp hbehind]
  rfl

/-- No span is taken where more than blanks stands before a bracket. -/
theorem takeSpan?_trimStart_append {part : List Char} (hb : allBlank part = false) (hp : '[' ∉ part)
    (back : List Char) : takeSpan? (trimStart (part ++ back)) = none := by
  obtain ⟨c, more, hc, -, htrim⟩ := exists_trimStart_append hb back
  refine Option.eq_none_iff_forall_ne_some.mpr fun ⟨span, rest⟩ hspan => hp ?_
  have hhead := head?_of_takeSpan? hspan
  rw [htrim] at hhead
  cases hhead
  exact hc

/-- The characters of a size. -/
theorem Announced.toList_size (clone : Announced) :
    clone.size.toList = '(' :: (Nat.toDigits 10 clone.count ++ ' ' :: ("lines, ".toList ++
      (Nat.toDigits 10 clone.tokens ++ " tokens)".toList))) := by
  simp [Announced.size, String.toList_append]

/-- A size gives the digits of the number of lines, and ends with the next closing bracket. -/
theorem Announced.takeLineCount?_size (clone : Announced) (rest : List Char) :
    ∃ behind, takeLineCount? (' ' :: (clone.size.toList ++ rest)) = some (Nat.toDigits 10 clone.count, behind) ∧
      behind.dropWhile (· != ')') = ')' :: rest := by
  have hcount : ∀ tail, takeDigits? (Nat.toDigits 10 clone.count ++ ' ' :: tail) =
      some (Nat.toDigits 10 clone.count, ' ' :: tail) := fun tail => takeDigits?_toDigits _ (stops_cons (by decide) _)
  have hopen : ∀ c ∈ ", ".toList ++ Nat.toDigits 10 clone.tokens ++ " tokens".toList, (c != ')') = true := by
    intro c hc
    refine bne_iff_ne.mpr fun he => ?_
    subst he
    simp [not_mem_toDigits] at hc
  have hclose := (span_append hopen (stops_cons (by decide) rest : Stops (· != ')') (')' :: rest))).2
  refine ⟨", ".toList ++ (Nat.toDigits 10 clone.tokens ++ (" tokens)".toList ++ rest)), ?_, ?_⟩
  · rw [clone.toList_size]
    simp only [List.cons_append, List.append_assoc]
    unfold takeLineCount?
    change (takeDigits? (Nat.toDigits 10 clone.count ++ _)).bind _ = _
    rw [hcount]
    rfl
  · rw [List.append_assoc, List.append_assoc] at hclose
    exact hclose

/-! ## Files -/

namespace IsFile

variable {file : String}

/-- A file is more than blanks. -/
theorem allBlank_of_suffix (h : IsFile file) {left : List Char} (hne : left ≠ []) (hl : left <:+ file.toList) :
    allBlank left = false := by
  obtain ⟨c, more, rfl⟩ := List.exists_cons_of_ne_nil hne
  have hc := (h.plain c (hl.mem List.mem_cons_self)).1
  rw [allBlank, List.all_cons, hc, Bool.false_and]

/-- A file holds no bracket. -/
theorem not_mem_bracket (h : IsFile file) : '[' ∉ file.toList := fun hm => (h.plain '[' hm).2.1 rfl

/-- No blank stands at the start of a file. -/
theorem stops (h : IsFile file) (rest : List Char) : Stops isBlank (file.toList ++ rest) := by
  obtain ⟨c, more, hfile⟩ := List.exists_cons_of_ne_nil h.nonempty
  rw [hfile]
  exact stops_cons (h.plain c (by rw [hfile]; exact List.mem_cons_self)).1 _

/-- A shortest stretch before a bracket is the file that stands there. -/
theorem shortest_append {α : Type} {admits : Char → Bool} {next : List Char → Option α} {found : α}
    (h : IsFile file) (ha : ∀ c, isBlank c = false → admits c = true)
    (hn : ∀ text, takeSpan? (trimStart text) = none → next text = none) {back : List Char}
    (hf : next back = some found) : shortest admits next (file.toList ++ back) = some (file.toList, found) := by
  refine Text.shortest_append h.nonempty (fun c hc => ha c (h.plain c hc).1) (fun left hne hleft => hn _ ?_) hf
  exact takeSpan?_trimStart_append (h.allBlank_of_suffix hne hleft) (fun hm => h.not_mem_bracket (hleft.mem hm)) back

end IsFile

/-- What is no blank stays on its line. -/
theorem staysOnLine_of_isBlank {c : Char} (h : isBlank c = false) : staysOnLine c = true := by
  refine bne_iff_ne.mpr fun he => ?_
  rw [he] at h
  cases h

/-- A file and its bracket. -/
def Place.shown (place : Place) : List Char := place.file.toList ++ ' ' :: place.bracket.toList

/-- A bracket behind a blank gives the digits of its place. -/
theorem Place.takeSpan?_blank_bracket (place : Place) (rest : List Char) :
    takeSpan? (trimStart (' ' :: (place.bracket.toList ++ rest))) = some (place.span, rest) := by
  have htrim : trimStart (' ' :: (place.bracket.toList ++ rest)) = place.bracket.toList ++ rest := by
    rw [place.toList_bracket]
    rfl
  rw [htrim, place.takeSpan?_bracket]

/-- A second place is the file and the span that are shown. -/
theorem Place.shortest_shown (place : Place) {admits : Char → Bool} (ha : ∀ c, isBlank c = false → admits c = true)
    (rest : List Char) :
    shortest admits (fun rest => (takeSpan? (trimStart rest)).map (·.1)) (place.shown ++ rest) =
      some (place.file.toList, place.span) := by
  rw [Place.shown, List.append_assoc]
  refine place.isFile.shortest_append ha (fun text h => by rw [h, Option.map_none]) ?_
  rw [List.cons_append, place.takeSpan?_blank_bracket, Option.map_some]

/-! ## Lines -/

/-- The characters of the line of a first place. -/
theorem Announced.toList_firstLine (clone : Announced) :
    clone.firstLine.toList = ' ' :: '-' :: ' ' :: (clone.first.shown ++ ' ' :: clone.size.toList) := by
  have hdash : " - ".toList = [' ', '-', ' '] := rfl
  have hblank : " ".toList = [' '] := rfl
  simp only [Announced.firstLine, Place.shown, String.toList_append, hdash, hblank, List.append_assoc,
    List.cons_append, List.nil_append]

/-- The characters of the line of a second place. -/
theorem Announced.toList_secondLine (clone : Announced) :
    clone.secondLine.toList = "   ".toList ++ clone.second.shown := by
  have hblank : " ".toList = [' '] := rfl
  simp only [Announced.secondLine, Place.shown, String.toList_append, hblank, List.append_assoc, List.singleton_append]

/-- A header starts with the mark. -/
theorem toList_opening : "Clone found (".toList = header ++ " (".toList := rfl

/-- The characters of a header. -/
theorem Announced.toList_headerLine (clone : Announced) :
    clone.headerLine.toList = header ++ (" (".toList ++ (clone.language.toList ++ "):".toList)) := by
  rw [Announced.headerLine, String.toList_append, String.toList_append, toList_opening, List.append_assoc,
    List.append_assoc]

/-! ## Characters -/

/-- The characters that are printed around files, languages and digits. -/
def signs : List Char := "[]()-:, linestok".toList

section Characters

variable {holds : Char → Prop}

/-- What holds of digits and signs holds of a written number among them. -/
theorem forall_mem_toDigits (hd : ∀ c, c.isDigit = true → holds c) (n : Nat) : ∀ c ∈ Nat.toDigits 10 n, holds c :=
  fun c hc => hd c (isDigit_of_mem_toDigits hc)

/-- What holds of digits and signs holds of brackets. -/
theorem Place.forall_mem_bracket (hd : ∀ c, c.isDigit = true → holds c) (hs : ∀ c ∈ signs, holds c) (place : Place) :
    ∀ c ∈ place.bracket.toList, holds c := by
  have hn := fun n => forall_mem_toDigits hd n
  rw [place.toList_bracket]
  simp only [List.forall_mem_cons, List.forall_mem_append]
  exact ⟨hs _ (by decide), hn _, hs _ (by decide), hn _, hs _ (by decide), hs _ (by decide), hs _ (by decide), hn _,
    hs _ (by decide), hn _, hs _ (by decide), fun c hc => absurd hc List.not_mem_nil⟩

/-- What holds of digits and signs holds of sizes. -/
theorem Announced.forall_mem_size (hd : ∀ c, c.isDigit = true → holds c) (hs : ∀ c ∈ signs, holds c)
    (clone : Announced) : ∀ c ∈ clone.size.toList, holds c := by
  have hn := fun n => forall_mem_toDigits hd n
  have hword : ∀ c ∈ "lines, ".toList, c ∈ signs := forall_mem_of_all rfl
  have hend : ∀ c ∈ " tokens)".toList, c ∈ signs := forall_mem_of_all rfl
  rw [clone.toList_size]
  simp only [List.forall_mem_cons, List.forall_mem_append]
  exact ⟨hs _ (by decide), hn _, hs _ (by decide), fun c hc => hs c (hword c hc), hn _, fun c hc => hs c (hend c hc)⟩

/-- What holds of digits, signs and the file holds of the line of a first place. -/
theorem Announced.forall_mem_firstLine (hd : ∀ c, c.isDigit = true → holds c) (hs : ∀ c ∈ signs, holds c)
    (clone : Announced) (hf : ∀ c ∈ clone.first.file.toList, holds c) : ∀ c ∈ clone.firstLine.toList, holds c := by
  have hblank : holds ' ' := hs _ (by decide)
  rw [clone.toList_firstLine, Place.shown]
  simp only [List.forall_mem_cons, List.forall_mem_append]
  exact ⟨hblank, hs _ (by decide), hblank, ⟨hf, hblank, clone.first.forall_mem_bracket hd hs⟩, hblank,
    clone.forall_mem_size hd hs⟩

/-- What holds of digits, signs and the file holds of the line of a second place. -/
theorem Announced.forall_mem_secondLine (hd : ∀ c, c.isDigit = true → holds c) (hs : ∀ c ∈ signs, holds c)
    (clone : Announced) (hf : ∀ c ∈ clone.second.file.toList, holds c) : ∀ c ∈ clone.secondLine.toList, holds c := by
  have hblank : holds ' ' := hs _ (by decide)
  have hindent : ∀ c ∈ "   ".toList, c ∈ signs := forall_mem_of_all rfl
  rw [clone.toList_secondLine, Place.shown]
  simp only [List.forall_mem_cons, List.forall_mem_append]
  exact ⟨fun c hc => hs c (hindent c hc), hf, hblank, clone.second.forall_mem_bracket hd hs⟩

end Characters

/-! ## Texts of lines -/

/-- The text of lines after each other. -/
theorem ended_append (lines more : List String) : ended (lines ++ more) = ended lines ++ ended more :=
  List.flatMap_append

/-- The first of some lines comes first. -/
theorem ended_cons (line : String) (lines : List String) :
    ended (line :: lines) = line.toList ++ '\n' :: ended lines := by
  rw [ended, List.flatMap_cons, List.append_assoc, List.singleton_append, ended]

/-- The text of log lines is that of the first and of the others. -/
theorem logged_cons (log : LogLine) (logs : List LogLine) :
    logged (log :: logs) = log.text.toList ++ '\n' :: logged logs := ended_cons _ _

/-- The text of log lines after each other. -/
theorem logged_append (logs more : List LogLine) : logged (logs ++ more) = logged logs ++ logged more := by
  rw [logged, List.map_append, ended_append, logged, logged]

/-- What stands in the text of log lines stands in one of them, or ends one. -/
theorem exists_of_mem_logged {c : Char} {logs : List LogLine} (h : c ∈ logged logs) (hc : c ≠ '\n') :
    ∃ log ∈ logs, c ∈ log.text.toList := by
  obtain ⟨line, hline, hm⟩ := List.mem_flatMap.mp h
  obtain ⟨log, hlog, rfl⟩ := List.mem_map.mp hline
  rcases List.mem_append.mp hm with hm | hm
  · exact ⟨log, hlog, hm⟩
  · exact absurd (List.mem_singleton.mp hm) hc

/-- Log lines hold no bracket. -/
theorem not_mem_logged_bracket (logs : List LogLine) : '[' ∉ logged logs := by
  intro hm
  obtain ⟨log, -, hc⟩ := exists_of_mem_logged hm (by decide)
  exact log.isLog.noBracket hc

/-- Behind log lines of blanks a hyphen is found where it stands, and behind others it is not. -/
theorem after?_hyphen_logged (logs : List LogLine) (rest : List Char) :
    after? ['-'] (trimStart (logged logs ++ rest)) =
      if allBlank (logged logs) then after? ['-'] (trimStart rest) else none := by
  induction logs with
  | nil => rfl
  | cons log logs ih =>
    have hfeed : allBlank ['\n'] = true := rfl
    have hall : allBlank (logged (log :: logs)) = (allBlank log.text.toList && allBlank (logged logs)) := by
      rw [logged_cons, allBlank, List.all_append, List.all_cons]
      rfl
    rw [hall, logged_cons, List.append_assoc]
    cases hb : allBlank log.text.toList with
    | true =>
      rw [trimStart_append hb, List.cons_append, Bool.true_and, ← ih]
      exact congrArg _ (trimStart_append hfeed _)
    | false =>
      -- What is left starts with a character of the line, which is no hyphen.
      obtain ⟨c, more, -, hline, htrim⟩ := exists_trimStart_append hb ('\n' :: logged logs ++ rest)
      rw [htrim]
      refine (after?_cons_of_ne (fun hc => log.isLog.noHyphen ?_) [] _).trans rfl
      rw [hline, ← hc, List.head?_cons]

end Checkup.Jscpd
