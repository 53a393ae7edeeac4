import Checkup.Dialect.TypeScript
import Checkup.Proofs.PrintedNumbers
import Checkup.Proofs.TextStretches

/-!
# Errors as the compiler prints them

The compiler prints an error on one line, with its place in brackets or behind colons, and a task
runner may name a package and a task before it. The file may look like a task, a position or a
part of a place, and so may the message, as long as neither holds a whole place in brackets: the
reader of the line takes the file, the line, the code and the message that were put in.
-/

namespace Checkup.TypeScript

open Text

/-! ## What is printed -/

/-- Line and column in brackets, with the colon behind them. -/
def bracketed (line column : List Char) : List Char := '(' :: (line ++ ',' :: (column ++ [')', ':']))

/-- A place in brackets stands somewhere in a text. -/
def HoldsPlace (text : List Char) : Prop :=
  ∃ line column, IsDigits line ∧ IsDigits column ∧ bracketed line column <:+: text

/-- Brackets and a colon belong to a place. -/
theorem HoldsPlace.mem {text : List Char} (h : HoldsPlace text) : '(' ∈ text ∧ ':' ∈ text := by
  obtain ⟨line, column, -, -, hplace⟩ := h
  exact ⟨hplace.mem List.mem_cons_self, hplace.mem (by simp [bracketed])⟩

/-- A package and a task that are named before an error. -/
structure Task where
  package : String
  name : String
  isPackage : package.toList ≠ [] ∧ ∀ c ∈ package.toList, isPackageChar c = true
  isName : name.toList ≠ [] ∧ ∀ c ∈ name.toList, isTaskChar c = true

/-- Where the place of an error stands. -/
inductive Style where
  | brackets
  | colons

/-- An error with what makes it readable: no blank and no place in the file, digits in the code,
and no place and no blanks at its ends in the message. -/
structure PrintedError where
  task : Option Task
  style : Style
  file : String
  line : Nat
  column : Nat
  code : String
  message : String
  isFile : file.toList ≠ [] ∧ ∀ c ∈ file.toList, isBlank c = false
  fileWithoutPlace : ¬HoldsPlace file.toList
  isLine : 0 < line
  isCode : IsDigits code.toList
  isMessage : trim message.toList = message.toList
  messageWithoutPlace : ¬HoldsPlace message.toList

/-- The names of a package and a task before an error. -/
def Task.text (task : Task) : String := task.package ++ ":" ++ task.name ++ ": "

namespace PrintedError

/-- The place, as it stands behind the file. -/
def place (error : PrintedError) : String :=
  match error.style with
  | .brackets => "(" ++ toString error.line ++ "," ++ toString error.column ++ "): "
  | .colons => ":" ++ toString error.line ++ ":" ++ toString error.column ++ " - "

/-- The line of an error. -/
def text (error : PrintedError) : String :=
  (error.task.map Task.text).getD "" ++ error.file ++ error.place ++ "error TS" ++ error.code ++ ": " ++ error.message

/-- What is read from that line. -/
def found (error : PrintedError) : Diagnostic where
  file := error.file.toList
  line := Nat.toDigits 10 error.line
  code := 'T' :: 'S' :: error.code.toList
  message := trimStart error.message.toList

end PrintedError

/-! ## Digits and errors -/

variable {text rest back : List Char} {line column code message : List Char}

/-- The error with its code and its message. -/
def said (code message : List Char) : List Char := "error TS".toList ++ (code ++ ':' :: ' ' :: message)

/-- Code and message are taken behind the word. -/
theorem codeAndMessage?_said (hc : IsDigits code) (message : List Char) :
    codeAndMessage? ('T' :: 'S' :: (code ++ ':' :: ' ' :: message)) =
      some ('T' :: 'S' :: code, trimStart message) := by
  have hdigits : takeDigits? (code ++ ':' :: ' ' :: message) = some (code, ':' :: ' ' :: message) :=
    hc.takeDigits?_append (stops_cons rfl _)
  unfold codeAndMessage?
  change (takeDigits? (code ++ ':' :: ' ' :: message)).bind _ = _
  rw [hdigits]
  exact congrArg (fun kept => some ('T' :: 'S' :: code, kept)) (@trimStart_append [' '] rfl message)

/-! ## Places in brackets -/

/-- A place in brackets gives its line, and the code and the message behind it. -/
theorem bracketTail?_bracketed (hl : IsDigits line) (hcol : IsDigits column) (hc : IsDigits code)
    (message : List Char) :
    bracketTail? (bracketed line column ++ ' ' :: said code message) =
      some (line, 'T' :: 'S' :: code, trimStart message) := by
  have hline : ∀ tail, takeDigits? (line ++ ',' :: tail) = some (line, ',' :: tail) :=
    fun tail => hl.takeDigits?_append (stops_cons rfl _)
  have hcolumn : ∀ tail, takeDigits? (column ++ ')' :: tail) = some (column, ')' :: tail) :=
    fun tail => hcol.takeDigits?_append (stops_cons rfl _)
  have htext : bracketed line column ++ ' ' :: said code message =
      '(' :: (line ++ ',' :: (column ++ ')' :: ':' :: ' ' :: said code message)) := by
    simp [bracketed]
  rw [htext]
  unfold bracketTail?
  change (takeDigits? (line ++ _)).bind _ = _
  rw [hline]
  change (takeDigits? (column ++ _)).bind _ = _
  rw [hcolumn]
  change (codeAndMessage? ('T' :: 'S' :: (code ++ ':' :: ' ' :: message))).bind _ = _
  rw [codeAndMessage?_said hc]
  rfl

/-- Where a place in brackets is found, it stands at the start and the word stands behind it. -/
theorem exists_of_bracketTail? {found : List Char × List Char × List Char} (h : bracketTail? text = some found) :
    ∃ line column rest, IsDigits line ∧ IsDigits column ∧ text = bracketed line column ++ rest ∧
      "error".toList <+: trimStart rest := by
  unfold bracketTail? at h
  obtain ⟨opened, hopen, h⟩ := Option.bind_eq_some_iff.mp h
  obtain ⟨⟨line, behindLine⟩, hline, h⟩ := Option.bind_eq_some_iff.mp h
  obtain ⟨comma, hcomma, h⟩ := Option.bind_eq_some_iff.mp h
  obtain ⟨⟨column, behindColumn⟩, hcolumn, h⟩ := Option.bind_eq_some_iff.mp h
  obtain ⟨rest, hrest, h⟩ := Option.bind_eq_some_iff.mp h
  obtain ⟨behindWord, hword, -⟩ := Option.bind_eq_some_iff.mp h
  obtain ⟨hl, -, hopened⟩ := takeDigits?_eq_some_iff.mp hline
  obtain ⟨hcol, -, hbehind⟩ := takeDigits?_eq_some_iff.mp hcolumn
  refine ⟨line, column, rest, hl, hcol, ?_, behindWord, (after?_eq_some.mp hword).symm⟩
  rw [after?_eq_some.mp hopen, hopened, after?_eq_some.mp hcomma, hbehind, after?_eq_some.mp hrest]
  simp [bracketed]

/-- Nothing is found behind a part without an opening bracket, or in it. -/
theorem bracketTail?_of_not_mem {left : List Char} (hne : left ≠ []) (h : '(' ∉ left) (back : List Char) :
    bracketTail? (left ++ back) = none := by
  refine Option.eq_none_iff_forall_ne_some.mpr fun found hfound => ?_
  obtain ⟨line, column, rest, -, -, htext, -⟩ := exists_of_bracketTail? hfound
  obtain ⟨c, more, rfl⟩ := List.exists_cons_of_ne_nil hne
  obtain ⟨rfl, -⟩ := List.cons_eq_cons.mp htext
  exact h List.mem_cons_self

section File

variable {file left : List Char}

/-- A place that is found behind the end of a file started in it and ends behind it. -/
theorem exists_crossing {found : List Char × List Char × List Char} (hf : ¬HoldsPlace file) (hleft : left <:+ file)
    (h : bracketTail? (left ++ back) = some found) :
    ∃ line column more rest, IsDigits line ∧ IsDigits column ∧ more ≠ [] ∧ bracketed line column = left ++ more ∧
      back = more ++ rest ∧ "error".toList <+: trimStart rest := by
  obtain ⟨line, column, rest, hl, hcol, htext, herror⟩ := exists_of_bracketTail? h
  rcases List.append_eq_append_iff.mp htext with ⟨more, hplace, hback⟩ | ⟨more, hmore, -⟩
  · refine ⟨line, column, more, rest, hl, hcol, fun hnil => hf ⟨line, column, hl, hcol, ?_⟩, hplace, hback, herror⟩
    rw [hplace, hnil, List.append_nil]
    exact hleft.isInfix
  · have hinside : bracketed line column <:+: left := ⟨[], more, hmore.symm⟩
    exact absurd ⟨line, column, hl, hcol, hinside.trans hleft.isInfix⟩ hf

/-- No place starts in a file that a place in brackets follows. -/
theorem bracketTail?_before_bracket (hf : ¬HoldsPlace file) (hne : left ≠ []) (hleft : left <:+ file)
    (tail : List Char) : bracketTail? (left ++ '(' :: tail) = none := by
  refine Option.eq_none_iff_forall_ne_some.mpr fun found hfound => ?_
  obtain ⟨line, column, more, rest, hl, hcol, hmore, hplace, hback, -⟩ := exists_crossing hf hleft hfound
  obtain ⟨c, more, rfl⟩ := List.exists_cons_of_ne_nil hmore
  obtain ⟨rfl, -⟩ := List.cons_eq_cons.mp hback
  obtain ⟨d, left, rfl⟩ := List.exists_cons_of_ne_nil hne
  obtain ⟨-, hinside⟩ := List.cons_eq_cons.mp hplace
  -- The bracket that opens the next place would stand inside of this one.
  have hmem : '(' ∈ line ++ ',' :: (column ++ [')', ':']) := by
    rw [hinside]
    exact List.mem_append_right left List.mem_cons_self
  simp [hl.not_mem, hcol.not_mem, (by decide : isDecimal '(' = false)] at hmem

/-- No place starts in a file that a colon and a digit follow. -/
theorem bracketTail?_before_colon (hf : ¬HoldsPlace file) (hleft : left <:+ file) {d : Char} (hd : isDecimal d = true)
    (tail : List Char) : bracketTail? (left ++ ':' :: d :: tail) = none := by
  refine Option.eq_none_iff_forall_ne_some.mpr fun found hfound => ?_
  obtain ⟨line, column, more, rest, hl, hcol, hmore, hplace, hback, herror⟩ := exists_crossing hf hleft hfound
  obtain ⟨c, more, rfl⟩ := List.exists_cons_of_ne_nil hmore
  obtain ⟨rfl, hrest⟩ := List.cons_eq_cons.mp hback
  -- The colon is the one that ends the place, so the digit stands where the word should.
  have hfront : ':' ∉ '(' :: (line ++ ',' :: (column ++ [')'])) := by
    simp [hl.not_mem, hcol.not_mem, (by decide : isDecimal ':' = false)]
  have hends : '(' :: (line ++ ',' :: (column ++ [')'])) ++ [':'] = left ++ ':' :: more := by
    rw [← hplace]
    simp [bracketed]
  obtain ⟨between, -, hcolon⟩ := exists_append_of_not_mem hends hfront
  have hnone : between = [] ∧ more = [] := by
    cases between <;> simp at hcolon
    exact ⟨rfl, hcolon⟩
  rw [hnone.2] at hrest
  change d :: tail = rest at hrest
  rw [← hrest, trimStart_eq_self (stops_cons (isBlank_of_isDecimal hd) tail)] at herror
  obtain ⟨rfl, -⟩ := List.cons_prefix_cons.mp herror
  cases hd

end File

/-! ## Places behind colons -/

/-- Line and column behind colons. -/
def behindColons (line column : List Char) : List Char := ':' :: (line ++ ':' :: column)

/-- A place behind colons gives its line, and the code and the message behind the hyphen. -/
theorem colonTail?_behindColons (hl : IsDigits line) (hcol : IsDigits column) (hc : IsDigits code)
    (message : List Char) :
    colonTail? (behindColons line column ++ ' ' :: '-' :: ' ' :: said code message) =
      some (line, 'T' :: 'S' :: code, trimStart message) := by
  have hline : ∀ tail, takeDigits? (line ++ ':' :: tail) = some (line, ':' :: tail) :=
    fun tail => hl.takeDigits?_append (stops_cons rfl _)
  have hcolumn : ∀ tail, takeDigits? (column ++ ' ' :: tail) = some (column, ' ' :: tail) :=
    fun tail => hcol.takeDigits?_append (stops_cons rfl _)
  have htext : behindColons line column ++ ' ' :: '-' :: ' ' :: said code message =
      ':' :: (line ++ ':' :: (column ++ ' ' :: '-' :: ' ' :: said code message)) := by
    simp [behindColons]
  rw [htext]
  unfold colonTail?
  change (takeDigits? (line ++ _)).bind _ = _
  rw [hline]
  change (takeDigits? (column ++ _)).bind _ = _
  rw [hcolumn]
  change (codeAndMessage? ('T' :: 'S' :: (code ++ ':' :: ' ' :: message))).bind _ = _
  rw [codeAndMessage?_said hc]
  rfl

/-- Where a place behind colons is found, it stands at the start and a blank stands behind it. -/
theorem exists_of_colonTail? {found : List Char × List Char × List Char} (h : colonTail? text = some found) :
    ∃ line column blank rest, IsDigits line ∧ IsDigits column ∧ isBlank blank = true ∧
      text = behindColons line column ++ blank :: rest := by
  unfold colonTail? at h
  obtain ⟨opened, hopen, h⟩ := Option.bind_eq_some_iff.mp h
  obtain ⟨⟨line, behindLine⟩, hline, h⟩ := Option.bind_eq_some_iff.mp h
  obtain ⟨colon, hcolon, h⟩ := Option.bind_eq_some_iff.mp h
  obtain ⟨⟨column, behindColumn⟩, hcolumn, h⟩ := Option.bind_eq_some_iff.mp h
  obtain ⟨rest, hrest, -⟩ := Option.bind_eq_some_iff.mp h
  obtain ⟨hl, -, hopened⟩ := takeDigits?_eq_some_iff.mp hline
  obtain ⟨hcol, -, hbehind⟩ := takeDigits?_eq_some_iff.mp hcolumn
  obtain ⟨-, blanks, hne, hblanks, hgap⟩ := takeBlanks?_eq_some_iff.mp hrest
  obtain ⟨blank, more, rfl⟩ := List.exists_cons_of_ne_nil hne
  refine ⟨line, column, blank, more ++ rest, hl, hcol, List.all_eq_true.mp hblanks blank List.mem_cons_self, ?_⟩
  rw [after?_eq_some.mp hopen, hopened, after?_eq_some.mp hcolon, hbehind, hgap]
  simp [behindColons]

/-- Digits, brackets and a comma are no blanks. -/
theorem isBlank_of_mem_bracketed (hl : IsDigits line) (hcol : IsDigits column) :
    ∀ c ∈ bracketed line column, isBlank c = false := by
  simp only [bracketed, List.forall_mem_cons, List.forall_mem_append]
  exact ⟨rfl, hl.isBlank_of_mem, rfl, hcol.isBlank_of_mem, rfl, rfl, fun c hc => absurd hc List.not_mem_nil⟩

/-- Digits and colons are no blanks. -/
theorem isBlank_of_mem_behindColons (hl : IsDigits line) (hcol : IsDigits column) :
    ∀ c ∈ behindColons line column, isBlank c = false := by
  simp only [behindColons, List.forall_mem_cons, List.forall_mem_append]
  exact ⟨rfl, hl.isBlank_of_mem, rfl, hcol.isBlank_of_mem⟩

/-- A place behind colons has two of them. -/
theorem count_behindColons (hl : IsDigits line) (hcol : IsDigits column) :
    (behindColons line column).count ':' = 2 := by
  have hdigits : ∀ {digits}, IsDigits digits → digits.count ':' = 0 :=
    fun h => List.count_eq_zero.mpr (h.not_mem (by decide))
  simp [behindColons, hdigits hl, hdigits hcol]

/-- No place behind colons starts in a file that another one follows. -/
theorem colonTail?_before_colons {file left : List Char} (hf : ∀ c ∈ file, isBlank c = false) (hne : left ≠ [])
    (hleft : left <:+ file) (hl : IsDigits line) (hcol : IsDigits column) (tail : List Char) :
    colonTail? (left ++ (behindColons line column ++ ' ' :: tail)) = none := by
  refine Option.eq_none_iff_forall_ne_some.mpr fun found hfound => ?_
  obtain ⟨first, second, blank, rest, hfirst, hsecond, hblank, htext⟩ := exists_of_colonTail? hfound
  rw [← List.append_assoc] at htext
  have hword : ∀ c ∈ left ++ behindColons line column, isBlank c = false :=
    List.forall_mem_append.mpr ⟨fun c hc => hf c (hleft.mem hc), isBlank_of_mem_behindColons hl hcol⟩
  have hsame := eq_of_append_blank hword (isBlank_of_mem_behindColons hfirst hsecond) rfl hblank htext
  -- Both words have two colons, and the second word starts with one.
  have hcount := congrArg (List.count ':') hsame
  rw [List.count_append, count_behindColons hl hcol, count_behindColons hfirst hsecond] at hcount
  have hnone : ':' ∉ left := List.count_eq_zero.mp (by omega)
  obtain ⟨c, more, rfl⟩ := List.exists_cons_of_ne_nil hne
  obtain ⟨rfl, -⟩ := List.cons_eq_cons.mp hsame
  exact hnone List.mem_cons_self

/-! ## Tasks -/

/-- The name of a task holds no blank. -/
theorem isBlank_of_isTaskChar {c : Char} (h : isTaskChar c = true) : isBlank c = false := by
  simp only [isTaskChar, Bool.or_eq_true, decide_eq_true_eq] at h
  rcases h with h | rfl
  · exact isBlank_of_isWord h
  · rfl

/-- The name of a package holds no blank. -/
theorem isBlank_of_isPackageChar {c : Char} (h : isPackageChar c = true) : isBlank c = false := by
  simp only [isPackageChar, Bool.or_eq_true, decide_eq_true_eq] at h
  rcases h with (((h | rfl) | rfl) | rfl) | rfl
  · exact isBlank_of_isWord h
  all_goals rfl

/-- A task is passed over where a package, a task and their colons stand. -/
theorem afterTask?_eq_some_iff {line : List Char} :
    afterTask? line = some rest ↔ ∃ package name, (package ≠ [] ∧ ∀ c ∈ package, isPackageChar c = true) ∧
      (name ≠ [] ∧ ∀ c ∈ name, isTaskChar c = true) ∧ line = package ++ ':' :: (name ++ ':' :: rest) := by
  unfold afterTask?
  constructor
  · intro h
    obtain ⟨⟨package, behindPackage⟩, hpackage, h⟩ := Option.bind_eq_some_iff.mp h
    obtain ⟨colon, hcolon, h⟩ := Option.bind_eq_some_iff.mp h
    obtain ⟨⟨name, behindName⟩, hname, h⟩ := Option.bind_eq_some_iff.mp h
    obtain ⟨hpne, hp, -, hline⟩ := run?_eq_some_iff.mp hpackage
    obtain ⟨hnne, hn, -, hbehind⟩ := run?_eq_some_iff.mp hname
    refine ⟨package, name, ⟨hpne, hp⟩, ⟨hnne, hn⟩, ?_⟩
    rw [hline, after?_eq_some.mp hcolon, hbehind, after?_eq_some.mp h]
    rfl
  · rintro ⟨package, name, ⟨hpne, hp⟩, ⟨hnne, hn⟩, rfl⟩
    have hpackage : run? isPackageChar (package ++ ':' :: (name ++ ':' :: rest)) =
        some (package, ':' :: (name ++ ':' :: rest)) :=
      run?_eq_some_iff.mpr ⟨hpne, hp, stops_cons rfl _, rfl⟩
    have hname : run? isTaskChar (name ++ ':' :: rest) = some (name, ':' :: rest) :=
      run?_eq_some_iff.mpr ⟨hnne, hn, stops_cons rfl _, rfl⟩
    rw [hpackage]
    change (run? isTaskChar (name ++ ':' :: rest)).bind _ = _
    rw [hname]
    rfl

/-! ## Lines -/

section Shape

variable {shape : List Char → Option (List Char × List Char × List Char)} {file : List Char} {found : Diagnostic}

/-- An error is looked for behind a task, and otherwise in the whole line. -/
theorem ofShape?_eq (line : List Char) :
    ofShape? shape line =
      (((afterTask? line).bind fun rest => longestSome isBlank (atPlace? shape) rest).map (·.2)).or
        (atPlace? shape line) := by
  unfold ofShape?
  cases afterTask? line with
  | none => rfl
  | some rest =>
    simp only [Option.bind_eq_bind, Option.bind_some]
    cases longestSome isBlank (atPlace? shape) rest <;> rfl

/-- Behind a task stands the error. -/
theorem ofShape?_task (task : Task) (hs : Stops isBlank rest) (h : atPlace? shape rest = some found) :
    ofShape? shape (task.text.toList ++ rest) = some found := by
  have htask : afterTask? (task.text.toList ++ rest) = some (' ' :: rest) := by
    refine afterTask?_eq_some_iff.mpr ⟨task.package.toList, task.name.toList, task.isPackage, task.isName, ?_⟩
    simp [Task.text, String.toList_append]
  have hgap : longest isBlank (atPlace? shape) rest = some ([], found) :=
    @longest_append _ isBlank (atPlace? shape) found [] rest (fun c hc => absurd hc List.not_mem_nil) hs h
  have hbehind : longestSome isBlank (atPlace? shape) (' ' :: rest) = some ([' '], found) := by
    rw [longestSome, hgap]
    rfl
  rw [ofShape?_eq, htask, Option.bind_some, hbehind]
  rfl

/-- Where no blank stands behind what looks like a task, there is none. -/
theorem ofShape?_of_stops {line : List Char} (h : ∀ rest, afterTask? line = some rest → Stops isBlank rest) :
    ofShape? shape line = atPlace? shape line := by
  rw [ofShape?_eq]
  cases htask : afterTask? line with
  | none => rfl
  | some rest =>
    have hbehind : longestSome isBlank (atPlace? shape) rest = none := by
      cases rest with
      | nil => rfl
      | cons c rest =>
        rw [longestSome, h _ htask c rfl]
        rfl
    rw [Option.bind_some, hbehind]
    rfl

/-- A word that does not end with a task and a colon is not taken for one. -/
theorem stops_of_afterTask? {word tail : List Char} (hw : ∀ c ∈ word, isBlank c = false)
    (hends : ∀ front c, word = front ++ [c, ':'] → isTaskChar c = false)
    (h : afterTask? (word ++ ' ' :: tail) = some rest) : Stops isBlank rest := by
  intro blank hblank
  obtain ⟨more, rfl⟩ := List.head?_eq_some_iff.mp hblank
  obtain ⟨package, name, ⟨-, hpackage⟩, ⟨hne, hname⟩, hline⟩ := afterTask?_eq_some_iff.mp h
  refine Bool.eq_false_iff.mpr fun hb => ?_
  have htask : ∀ c ∈ package ++ ':' :: (name ++ [':']), isBlank c = false := by
    simp only [List.forall_mem_append, List.forall_mem_cons]
    exact ⟨fun c hc => isBlank_of_isPackageChar (hpackage c hc), rfl, fun c hc => isBlank_of_isTaskChar (hname c hc),
      rfl, fun c hc => absurd hc List.not_mem_nil⟩
  have hwords : word ++ ' ' :: tail = (package ++ ':' :: (name ++ [':'])) ++ blank :: more := by
    rw [hline]
    simp
  obtain ⟨initial, last, rfl⟩ : ∃ initial last, name = initial ++ [last] :=
    ⟨_, _, (List.dropLast_concat_getLast hne).symm⟩
  have hlast : isTaskChar last = true := hname last (List.mem_append_right initial List.mem_cons_self)
  have hfront : word = (package ++ ':' :: initial) ++ [last, ':'] := by
    rw [eq_of_append_blank hw htask rfl hb hwords]
    simp
  rw [hends _ _ hfront] at hlast
  cases hlast

/-- A shape that is found nowhere in a line is not found. -/
theorem ofShape?_eq_none {line : List Char} (h : ∀ text, text <:+ line → shape text = none) :
    ofShape? shape line = none := by
  have hplace : ∀ text, text <:+ line → atPlace? shape text = none := by
    intro text htext
    have hnone : shortest (fun _ => true) shape text = none :=
      shortest_eq_none fun stretch rest hrest _ => h rest (List.IsSuffix.trans ⟨stretch, hrest.symm⟩ htext)
    rw [atPlace?, hnone]
    rfl
  have hbehind : ∀ rest, afterTask? line = some rest → longestSome isBlank (atPlace? shape) rest = none := by
    intro rest hrest
    obtain ⟨package, name, -, -, hline⟩ := afterTask?_eq_some_iff.mp hrest
    have hsuffix : rest <:+ line := ⟨package ++ ':' :: (name ++ [':']), by rw [hline]; simp⟩
    cases rest with
    | nil => rfl
    | cons c rest =>
      have hnone : longest isBlank (atPlace? shape) rest = none := by
        refine longest_eq_none fun stretch back hback _ => hplace back ?_
        exact (List.IsSuffix.trans ⟨stretch, hback.symm⟩ (List.suffix_cons c rest)).trans hsuffix
      rw [longestSome, hnone]
      exact ite_self none
  rw [ofShape?_eq, hplace line (List.suffix_refl line), Option.or_none]
  cases htask : afterTask? line with
  | none => rfl
  | some rest =>
    rw [Option.bind_some, hbehind rest htask]
    rfl

end Shape

namespace PrintedError

variable (error : PrintedError)

/-- The names before the file. -/
def names : List Char := ((error.task.map Task.text).getD "").toList

/-- What stands behind the file. -/
def behindFile : List Char :=
  match error.style with
  | .brackets => bracketed (Nat.toDigits 10 error.line) (Nat.toDigits 10 error.column) ++
      ' ' :: said error.code.toList error.message.toList
  | .colons => behindColons (Nat.toDigits 10 error.line) (Nat.toDigits 10 error.column) ++
      ' ' :: '-' :: ' ' :: said error.code.toList error.message.toList

/-- Behind the file stands a place in brackets. -/
theorem behindFile_brackets {error : PrintedError} (hs : error.style = .brackets) :
    error.behindFile = bracketed (Nat.toDigits 10 error.line) (Nat.toDigits 10 error.column) ++
      ' ' :: said error.code.toList error.message.toList := by
  rw [behindFile, hs]

/-- Behind the file stands a place behind colons. -/
theorem behindFile_colons {error : PrintedError} (hs : error.style = .colons) :
    error.behindFile = behindColons (Nat.toDigits 10 error.line) (Nat.toDigits 10 error.column) ++
      ' ' :: '-' :: ' ' :: said error.code.toList error.message.toList := by
  rw [behindFile, hs]

/-- The characters of the line. -/
theorem toList_text : error.text.toList = error.names ++ (error.file.toList ++ error.behindFile) := by
  have hcolon : ": ".toList = [':', ' '] := rfl
  have hplace : error.place.toList ++ said error.code.toList error.message.toList = error.behindFile := by
    unfold place behindFile
    cases error.style <;> simp [String.toList_append, bracketed, behindColons]
  rw [← hplace]
  unfold text names said
  simp only [String.toList_append, List.append_assoc]
  rw [hcolon]
  simp only [List.cons_append, List.nil_append]

/-- No bracket stands in the names. -/
theorem not_mem_names : '(' ∉ error.names := by
  unfold names
  cases error.task with
  | none => exact List.not_mem_nil
  | some task =>
    have hpackage : '(' ∉ task.package.toList := by
      intro hm
      have hbracket : isPackageChar '(' = false := rfl
      rw [task.isPackage.2 '(' hm] at hbracket
      cases hbracket
    have hname : '(' ∉ task.name.toList := by
      intro hm
      have hbracket : isTaskChar '(' = false := rfl
      rw [task.isName.2 '(' hm] at hbracket
      cases hbracket
    simp [Task.text, String.toList_append, hpackage, hname]

/-- A shape that is found behind the file is found in the line, if it is not found in the file and the
file with the first word behind it does not look like a task. -/
theorem ofShape?_text {shape : List Char → Option (List Char × List Char × List Char)} {word tail : List Char}
    (hb : error.behindFile = word ++ ' ' :: tail)
    (hf : shape error.behindFile =
      some (Nat.toDigits 10 error.line, 'T' :: 'S' :: error.code.toList, trimStart error.message.toList))
    (hn : ∀ left, left ≠ [] → left <:+ error.file.toList → shape (left ++ error.behindFile) = none)
    (hw : ∀ c ∈ word, isBlank c = false)
    (hends : ∀ front c, error.file.toList ++ word = front ++ [c, ':'] → isTaskChar c = false) :
    ofShape? shape error.text.toList = some error.found := by
  have hplace : atPlace? shape (error.file.toList ++ error.behindFile) = some error.found :=
    congrArg (Option.map _) (shortest_append error.isFile.1 (fun _ _ => rfl) hn hf)
  rw [error.toList_text]
  unfold names
  cases error.task with
  | none =>
    have hstops : ∀ rest, afterTask? (error.file.toList ++ error.behindFile) = some rest → Stops isBlank rest := by
      intro rest hrest
      rw [hb, ← List.append_assoc] at hrest
      exact stops_of_afterTask? (List.forall_mem_append.mpr ⟨error.isFile.2, hw⟩) hends hrest
    exact (ofShape?_of_stops hstops).trans hplace
  | some task =>
    obtain ⟨c, more, hfile⟩ := List.exists_cons_of_ne_nil error.isFile.1
    have hstops : Stops isBlank (error.file.toList ++ error.behindFile) := by
      rw [hfile]
      exact stops_cons (error.isFile.2 c (by rw [hfile]; exact List.mem_cons_self)) _
    exact ofShape?_task task hstops hplace

/-- An error with its place in brackets is read. -/
theorem ofShape?_brackets (hs : error.style = .brackets) :
    ofShape? bracketTail? error.text.toList = some error.found := by
  have hline := isDigits_toDigits error.line
  have hcolumn := isDigits_toDigits error.column
  have hbehind := behindFile_brackets hs
  refine error.ofShape?_text hbehind ?_ ?_ ?_ ?_
  · rw [hbehind, bracketTail?_bracketed hline hcolumn error.isCode]
  · intro left hne hleft
    rw [hbehind]
    exact bracketTail?_before_bracket error.fileWithoutPlace hne hleft _
  · exact isBlank_of_mem_bracketed hline hcolumn
  · -- A closing bracket stands before the colon, which is in no task.
    intro front c hfront
    have hsplit : (error.file.toList ++ '(' :: (Nat.toDigits 10 error.line ++ ',' :: Nat.toDigits 10 error.column)) ++
        [')', ':'] = front ++ [c, ':'] := by
      rw [← hfront]
      simp [bracketed]
    obtain ⟨-, hlast⟩ := List.append_inj' hsplit rfl
    obtain ⟨rfl, -⟩ := List.cons_eq_cons.mp hlast
    rfl

/-- No place in brackets is found in the line of an error with its place behind colons. -/
theorem ofShape?_colons_eq_none (hs : error.style = .colons) : ofShape? bracketTail? error.text.toList = none := by
  have hline := isDigits_toDigits error.line
  have hcolumn := isDigits_toDigits error.column
  have hbehind := behindFile_colons hs
  obtain ⟨d, more, hdigits⟩ := List.exists_cons_of_ne_nil hline.1
  have hd : isDecimal d = true := hline.2 d (by rw [hdigits]; exact List.mem_cons_self)
  have hmessage : ∀ text, text <:+ error.message.toList → bracketTail? text = none := by
    intro text htext
    refine Option.eq_none_iff_forall_ne_some.mpr fun found hfound => ?_
    obtain ⟨line, column, rest, hl, hcol, hplace, -⟩ := exists_of_bracketTail? hfound
    have hinside : bracketed line column <:+: text := ⟨[], rest, hplace.symm⟩
    exact error.messageWithoutPlace ⟨line, column, hl, hcol, hinside.trans htext.isInfix⟩
  -- From the end of the line to its start: in none of its parts does a place start.
  refine ofShape?_eq_none ?_
  rw [error.toList_text]
  refine forall_suffix_append (forall_suffix_append ?_ fun left hne hleft => ?_) fun left hne hleft => ?_
  · have hsaid : error.behindFile = (behindColons (Nat.toDigits 10 error.line) (Nat.toDigits 10 error.column) ++
        ' ' :: '-' :: ' ' :: ("error TS".toList ++ (error.code.toList ++ [':', ' ']))) ++ error.message.toList := by
      rw [hbehind]
      unfold said
      simp only [List.append_assoc, List.cons_append, List.nil_append]
    rw [hsaid]
    refine forall_suffix_append hmessage fun left hne hleft => bracketTail?_of_not_mem hne (fun hm => ?_) _
    have hplain := hleft.mem hm
    have hbracket : isDecimal '(' = false := by decide
    simp [behindColons, hline.not_mem, hcolumn.not_mem, error.isCode.not_mem, hbracket] at hplain
  · rw [hbehind, behindColons, hdigits]
    exact bracketTail?_before_colon error.fileWithoutPlace hleft hd _
  · exact bracketTail?_of_not_mem hne (fun hm => error.not_mem_names (hleft.mem hm)) _

/-- An error with its place behind colons is read. -/
theorem ofShape?_colons (hs : error.style = .colons) : ofShape? colonTail? error.text.toList = some error.found := by
  have hline := isDigits_toDigits error.line
  have hcolumn := isDigits_toDigits error.column
  have hbehind := behindFile_colons hs
  refine error.ofShape?_text hbehind ?_ ?_ ?_ ?_
  · rw [hbehind, colonTail?_behindColons hline hcolumn error.isCode]
  · intro left hne hleft
    rw [hbehind]
    exact colonTail?_before_colons error.isFile.2 hne hleft hline hcolumn _
  · exact isBlank_of_mem_behindColons hline hcolumn
  · -- The word ends with a digit and not with a colon.
    intro front c hfront
    obtain ⟨initial, last, hcolumns⟩ : ∃ initial last, Nat.toDigits 10 error.column = initial ++ [last] :=
      ⟨_, _, (List.dropLast_concat_getLast hcolumn.1).symm⟩
    have hsplit : (error.file.toList ++ ':' :: (Nat.toDigits 10 error.line ++ ':' :: initial)) ++ [last] =
        (front ++ [c]) ++ [':'] := by
      rw [List.append_assoc front, List.singleton_append, ← hfront, behindColons, hcolumns]
      simp
    obtain ⟨-, hlast⟩ := List.append_inj' hsplit rfl
    obtain ⟨rfl, -⟩ := List.cons_eq_cons.mp hlast
    have hmem : ':' ∈ Nat.toDigits 10 error.column := by
      rw [hcolumns]
      exact List.mem_append_right initial List.mem_cons_self
    exact absurd hmem (hcolumn.not_mem (by decide))

/-- The line of an error gives the error. -/
theorem diagnostic?_text : diagnostic? error.text.toList = some error.found := by
  unfold diagnostic?
  cases hstyle : error.style with
  | brackets => rw [error.ofShape?_brackets hstyle]
  | colons => rw [error.ofShape?_colons_eq_none hstyle, error.ofShape?_colons hstyle]

end PrintedError

end Checkup.TypeScript
