import Mathlib.Data.List.Chain
import Checkup.Dialect.Eslint
import Checkup.Proofs.LinterRules
import Checkup.Proofs.PrintedNumbers
import Checkup.Proofs.TextStretches

/-!
# Rows and headers as ESLint prints them

ESLint prints the path of a file on a line of its own and a row for each finding below it. The
message of a row is told from the rule behind it by the gap between them, which no message holds.
Which kind a line is shows at its ends: a path starts with a slash, a row with blanks, and what
sums up the findings ends with a bracket.
-/

namespace Checkup.Eslint

open Text

/-! ## What is printed -/

/-- A rule behind a wide gap. -/
structure PrintedRule where
  name : String
  gap : Nat
  isName : name.toList ≠ [] ∧ ∀ c ∈ name.toList, isBlank c = false
  isWide : 2 ≤ gap

/-- A finding with what makes its row readable: a message that holds no wide gap and has no
blanks at its ends. -/
structure PrintedRow where
  line : Nat
  column : Nat
  severity : Severity
  message : String
  rule : Option PrintedRule
  isLine : 0 < line
  isGraded : severity ≠ .info
  isMessage : message.toList ≠ [] ∧ trim message.toList = message.toList
  hasNoGap : message.toList.IsChain fun first second => ¬(isBlank first = true ∧ isBlank second = true)

/-- A file with its findings and the blank lines behind them. -/
structure PrintedFile where
  path : String
  rows : List PrintedRow
  blanks : List String
  isPath : path.toList.head? = some '/'
  isLinted : ∃ suffix ∈ suffixes, suffix.toList <:+ path.toList
  areBlank : ∀ line ∈ blanks, allBlank line.toList = true

/-- What sums up the findings. -/
structure Total where
  problems : Nat
  errors : Nat
  warnings : Nat
  isSome : 0 < problems

/-- The rule with the gap before it. -/
def PrintedRule.text (rule : PrintedRule) : String := String.ofList (List.replicate rule.gap ' ') ++ rule.name

namespace PrintedRow

/-- What stands behind the message. -/
def behind (row : PrintedRow) : String := (row.rule.map PrintedRule.text).getD ""

/-- The line of a finding. -/
def text (row : PrintedRow) : String :=
  "  " ++ toString row.line ++ ":" ++ toString row.column ++ "  " ++ row.severity.name ++ "  " ++ row.message ++
    row.behind

/-- What is read from that line. -/
def found (row : PrintedRow) : Row where
  line := Nat.toDigits 10 row.line
  severity := row.severity
  message := row.message.toList
  rule := row.rule.map fun rule => rule.name.toList

end PrintedRow

/-- The lines of a file. -/
def PrintedFile.lines (file : PrintedFile) : List (List Char) :=
  file.path.toList :: (file.rows.map (fun row => row.text.toList) ++ file.blanks.map String.toList)

/-- The line that sums up the findings. -/
def Total.text (total : Total) : String :=
  "✖ " ++ toString total.problems ++ " problems (" ++ toString total.errors ++ " errors, " ++ toString total.warnings ++
    " warnings)"

/-! ## Rows -/

/-- A rule is taken behind two blanks at least. -/
theorem exists_of_takeRule? {text rule : List Char} (h : takeRule? text = some rule) :
    ∃ first second rest, isBlank first = true ∧ isBlank second = true ∧ text = first :: second :: rest := by
  unfold takeRule? at h
  obtain ⟨⟨blanks, rest⟩, hblanks, h⟩ := Option.bind_eq_some_iff.mp h
  obtain ⟨-, hall, -, htext⟩ := run?_eq_some_iff.mp hblanks
  dsimp only at h
  split at h
  · next hwide =>
    match blanks, hwide, hall, htext with
    | first :: second :: blanks, _, hall, htext =>
      exact ⟨first, second, blanks ++ rest, hall first (by simp), hall second (by simp), htext⟩
  · cases h

/-- A wide gap and a word at the end are taken as a rule. -/
theorem takeRule?_gap {gap name : List Char} (hw : 2 ≤ gap.length) (hg : allBlank gap = true) (hne : name ≠ [])
    (hn : ∀ c ∈ name, isBlank c = false) : takeRule? (gap ++ name) = some name := by
  have hstops : Stops isBlank name := fun c hc => hn c (List.mem_of_mem_head? hc)
  have hgap : gap ≠ [] := fun hnil => by
    rw [hnil] at hw
    cases hw
  have hblanks : run? isBlank (gap ++ name) = some (gap, name) :=
    run?_eq_some_iff.mpr ⟨hgap, List.all_eq_true.mp hg, hstops, rfl⟩
  have hword : run? (fun c => !isBlank c) name = some (name, []) :=
    run?_eq_some_iff.mpr ⟨hne, fun c hc => by rw [hn c hc]; rfl, fun c hc => by (cases hc), (List.append_nil name).symm⟩
  unfold takeRule?
  rw [hblanks]
  simp only [Option.bind_eq_bind, Option.bind_some, if_pos hw, hword]
  rfl

namespace PrintedRow

variable (row : PrintedRow)

/-- What stands behind the message is the rule or nothing. -/
theorem rowEnd?_behind : rowEnd? row.behind.toList = some (row.rule.map fun rule => rule.name.toList) := by
  unfold behind
  cases row.rule with
  | none => rfl
  | some rule =>
    have hrule : takeRule? (List.replicate rule.gap ' ' ++ rule.name.toList) = some rule.name.toList := by
      refine takeRule?_gap (by rw [List.length_replicate]; exact rule.isWide) ?_ rule.isName.1 rule.isName.2
      exact List.all_eq_true.mpr fun c hc => by rw [List.eq_of_mem_replicate hc]; rfl
    have htext : rule.text.toList = List.replicate rule.gap ' ' ++ rule.name.toList := by
      rw [PrintedRule.text, String.toList_append, String.toList_ofList]
    change rowEnd? rule.text.toList = some (some rule.name.toList)
    rw [htext, rowEnd?, hrule]

/-- Within the message no row ends. -/
theorem rowEnd?_of_suffix {left : List Char} (hne : left ≠ []) (hleft : left <:+ row.message.toList)
    (back : List Char) : rowEnd? (left ++ back) = none := by
  obtain ⟨front, hfront⟩ := hleft
  have hlast : ∀ c ∈ left.getLast?, isBlank c = false := by
    intro c hc
    refine isBlank_of_getLast_trim row.isMessage.2 c ?_
    rw [← hfront, List.getLast?_append, Option.mem_def.mp hc]
    rfl
  have hrule : takeRule? (left ++ back) = none := by
    refine Option.eq_none_iff_forall_ne_some.mpr fun rule hrule => ?_
    obtain ⟨first, second, rest, hfirst, hsecond, htext⟩ := exists_of_takeRule? hrule
    -- One blank of the message at most could stand there, and then the message would end with it.
    cases left with
    | nil => exact hne rfl
    | cons c left =>
      obtain ⟨rfl, hrest⟩ := List.cons_eq_cons.mp htext
      cases left with
      | nil =>
        rw [hlast c rfl] at hfirst
        cases hfirst
      | cons d left =>
        obtain ⟨rfl, -⟩ := List.cons_eq_cons.mp hrest
        have hpair : [c, d] <:+: row.message.toList := ⟨front, left, by rw [← hfront]; simp⟩
        have hchain := List.IsChain.infix row.hasNoGap hpair
        exact List.isChain_pair.mp hchain ⟨hfirst, hsecond⟩
  have hblank : ¬allBlank (left ++ back) = true := by
    intro hblank
    have hmem := List.getLast_mem hne
    have hkept := hlast _ (Option.mem_def.mpr (List.getLast?_eq_some_getLast hne))
    rw [List.all_eq_true.mp hblank _ (List.mem_append_left back hmem)] at hkept
    cases hkept
  rw [rowEnd?, hrule]
  exact if_neg hblank

/-- Message and rule are taken behind the gap. -/
theorem longestSome_message :
    longestSome isBlank (shortest (fun _ => true) rowEnd?)
        (' ' :: ' ' :: (row.message.toList ++ row.behind.toList)) =
      some ([' ', ' '], row.message.toList, row.rule.map fun rule => rule.name.toList) := by
  have hmessage : shortest (fun _ => true) rowEnd? (row.message.toList ++ row.behind.toList) =
      some (row.message.toList, row.rule.map fun rule => rule.name.toList) :=
    shortest_append row.isMessage.1 (fun _ _ => rfl) (fun left hne hleft => row.rowEnd?_of_suffix hne hleft _)
      row.rowEnd?_behind
  have hstops : Stops isBlank (row.message.toList ++ row.behind.toList) := by
    obtain ⟨c, more, hcons⟩ := List.exists_cons_of_ne_nil row.isMessage.1
    have hfirst := stops_of_trim row.isMessage.2 c (by rw [hcons]; rfl)
    rw [hcons]
    exact stops_cons hfirst _
  have hblank : longest isBlank (shortest (fun _ => true) rowEnd?)
      (' ' :: (row.message.toList ++ row.behind.toList)) =
        some ([' '], row.message.toList, row.rule.map fun rule => rule.name.toList) :=
    @longest_append _ isBlank _ _ [' '] _ (forall_mem_of_all rfl) hstops hmessage
  rw [longestSome, hblank]
  rfl

/-- The characters of a row. -/
theorem toList_text : row.text.toList = ' ' :: ' ' :: (Nat.toDigits 10 row.line ++ ':' ::
    (Nat.toDigits 10 row.column ++ ' ' :: ' ' :: (row.severity.name.toList ++ ' ' :: ' ' ::
      (row.message.toList ++ row.behind.toList)))) := by
  have hblanks : "  ".toList = [' ', ' '] := rfl
  have hcolon : ":".toList = [':'] := rfl
  unfold text
  simp only [String.toList_append, hblanks, hcolon, Nat.toString_eq_repr, Nat.toList_repr, List.append_assoc,
    List.cons_append, List.nil_append]

/-- A severity is taken by its name. -/
theorem takeSeverity?_name (back : List Char) :
    takeSeverity? (row.severity.name.toList ++ back) = some (row.severity, back) := by
  cases hseverity : row.severity with
  | error => rfl
  | warning => rfl
  | info => exact absurd hseverity row.isGraded

/-- A row is read. -/
theorem row?_text : row? row.text.toList = some row.found := by
  have hindent : ∀ tail, takeBlanks? (' ' :: ' ' :: (Nat.toDigits 10 row.line ++ tail)) =
      some (Nat.toDigits 10 row.line ++ tail) :=
    fun tail => @takeBlanks?_gap _ [' ', ' '] ⟨List.cons_ne_nil _ _, rfl⟩ (stops_toDigits row.line tail)
  have hline : ∀ tail, takeDigits? (Nat.toDigits 10 row.line ++ ':' :: tail) =
      some (Nat.toDigits 10 row.line, ':' :: tail) :=
    fun tail => takeDigits?_toDigits row.line (stops_cons rfl tail)
  have hcolumn : ∀ tail, takeDigits? (Nat.toDigits 10 row.column ++ ' ' :: tail) =
      some (Nat.toDigits 10 row.column, ' ' :: tail) :=
    fun tail => takeDigits?_toDigits row.column (stops_cons rfl tail)
  have hgap : ∀ tail, takeBlanks? (' ' :: ' ' :: (row.severity.name.toList ++ tail)) =
      some (row.severity.name.toList ++ tail) := by
    intro tail
    refine @takeBlanks?_gap _ [' ', ' '] ⟨List.cons_ne_nil _ _, rfl⟩ ?_
    cases row.severity <;> exact stops_cons rfl _
  have hcolon : ∀ tail, after? [':'] (':' :: tail) = some tail := fun _ => rfl
  unfold row?
  rw [row.toList_text]
  simp only [Option.bind_eq_bind, Option.bind_some, hindent, hline, hcolon, hcolumn, hgap, row.takeSeverity?_name,
    row.longestSome_message]
  rfl

end PrintedRow

/-! ## Headers -/

/-- The ends of linted files start with a dot and end with a letter. -/
theorem suffixes_ends : ∀ suffix ∈ suffixes, suffix.toList.head? = some '.' ∧
    ∃ c, suffix.toList.getLast? = some c ∧ isBlank c = false ∧ c ∉ [')', '/', '\\'] := by
  have hends : ∀ suffix ∈ suffixes, suffix.toList.head? = some '.' ∧
      (suffix.toList.getLast?.any fun c => decide (isBlank c = false ∧ c ∉ [')', '/', '\\'])) = true := by decide
  intro suffix hsuffix
  obtain ⟨hhead, hlast⟩ := hends suffix hsuffix
  obtain ⟨c, hc, hplain⟩ := (Option.any_eq_true _ _).mp hlast
  exact ⟨hhead, c, hc, of_decide_eq_true hplain⟩

namespace PrintedFile

variable (file : PrintedFile)

/-- The path of a file ends as one of the ends of linted files does. -/
theorem exists_getLast? :
    ∃ c, file.path.toList.getLast? = some c ∧ isBlank c = false ∧ c ∉ [')', '/', '\\'] := by
  obtain ⟨suffix, hsuffix, front, hpath⟩ := file.isLinted
  obtain ⟨-, c, hlast, hplain⟩ := suffixes_ends suffix hsuffix
  refine ⟨c, ?_, hplain⟩
  rw [← hpath, List.getLast?_append, hlast]
  rfl

/-- The path of a file is a header. -/
theorem headerPath?_path : headerPath? file.path.toList = some file.path.toList := by
  obtain ⟨c, hlast, hblank, -⟩ := file.exists_getLast?
  obtain ⟨suffix, hsuffix, hpath⟩ := file.isLinted
  obtain ⟨more, hmore⟩ := List.head?_eq_some_iff.mp file.isPath
  have hshort : suffix.length < file.path.toList.length := by
    rw [hmore] at hpath ⊢
    rcases List.suffix_cons_iff.mp hpath with hwhole | hrest
    · have hdot := (suffixes_ends suffix hsuffix).1
      rw [hwhole] at hdot
      cases hdot
    · have hle := hrest.length_le
      rw [String.length_toList] at hle
      rw [List.length_cons]
      omega
  have hlinted : (suffixes.any fun suffix =>
      decide (suffix.length < file.path.toList.length) && suffix.toList.isSuffixOf file.path.toList) = true := by
    refine List.any_eq_true.mpr ⟨suffix, hsuffix, ?_⟩
    rw [decide_eq_true hshort, Bool.true_and, List.isSuffixOf_iff_suffix]
    exact hpath
  have hhead : (file.path.toList.head?.any fun c => !isBlank c) = true := by
    rw [file.isPath]
    rfl
  unfold headerPath?
  dsimp only
  rw [trimEnd_eq_self hlast hblank, hhead, hlinted]
  rfl

end PrintedFile

/-- A line that starts with a blank is no header. -/
theorem headerPath?_of_blank {c : Char} (h : isBlank c = true) (line : List Char) : headerPath? (c :: line) = none := by
  have hhead : ((trimEnd (c :: line)).head?.any fun c => !isBlank c) = false := by
    refine Bool.eq_false_iff.mpr fun hany => ?_
    obtain ⟨d, hd, hblank⟩ := (Option.any_eq_true _ _).mp hany
    obtain ⟨more, hmore⟩ := List.head?_eq_some_iff.mp hd
    have hprefix := trimEnd_isPrefix (c :: line)
    rw [hmore] at hprefix
    obtain ⟨rfl, -⟩ := List.cons_prefix_cons.mp hprefix
    rw [h] at hblank
    cases hblank
  unfold headerPath?
  dsimp only
  rw [hhead]
  rfl

/-- A blank line is no header. -/
theorem headerPath?_of_allBlank {line : List Char} (h : allBlank line = true) : headerPath? line = none := by
  unfold headerPath?
  rw [trimEnd_of_allBlank h]
  rfl

/-- A line that ends with a bracket is no header. -/
theorem headerPath?_of_bracket {line : List Char} (h : line.getLast? = some ')') : headerPath? line = none := by
  have hlinted : (suffixes.any fun suffix =>
      decide (suffix.length < line.length) && suffix.toList.isSuffixOf line) = false := by
    refine List.any_eq_false.mpr fun suffix hsuffix hends => ?_
    obtain ⟨-, c, hlast, -, hbracket⟩ := suffixes_ends suffix hsuffix
    obtain ⟨front, rfl⟩ := List.isSuffixOf_iff_suffix.mp (Bool.and_eq_true_iff.mp hends).2
    rw [List.getLast?_append, hlast] at h
    exact hbracket (Option.some.inj h ▸ List.mem_cons_self)
  unfold headerPath?
  dsimp only
  rw [trimEnd_eq_self h rfl, hlinted, Bool.and_false]
  rfl

/-! ## What is no row -/

/-- A row starts with blanks and digits. -/
theorem exists_of_row? {line : List Char} {row : Row} (h : row? line = some row) :
    ∃ blanks digits rest, IsGap blanks ∧ IsDigits digits ∧ line = blanks ++ (digits ++ rest) := by
  unfold row? at h
  obtain ⟨behindGap, hgap, h⟩ := Option.bind_eq_some_iff.mp h
  obtain ⟨⟨digits, rest⟩, hdigits, -⟩ := Option.bind_eq_some_iff.mp h
  obtain ⟨-, blanks, hne, hblanks, hline⟩ := takeBlanks?_eq_some_iff.mp hgap
  obtain ⟨hd, -, hbehind⟩ := takeDigits?_eq_some_iff.mp hdigits
  exact ⟨blanks, digits, rest, ⟨hne, hblanks⟩, hd, by rw [hline, hbehind]⟩

/-- A blank line is no row. -/
theorem row?_of_allBlank {line : List Char} (h : allBlank line = true) : row? line = none := by
  refine Option.eq_none_iff_forall_ne_some.mpr fun row hrow => ?_
  obtain ⟨blanks, digits, rest, -, hdigits, rfl⟩ := exists_of_row? hrow
  obtain ⟨c, more, rfl⟩ := List.exists_cons_of_ne_nil hdigits.1
  have hblank := List.all_eq_true.mp h c (by simp)
  rw [hdigits.isBlank_of_mem c List.mem_cons_self] at hblank
  cases hblank

/-- A line that starts with no blank is no row. -/
theorem row?_of_head {c : Char} (h : isBlank c = false) (line : List Char) : row? (c :: line) = none := by
  refine Option.eq_none_iff_forall_ne_some.mpr fun row hrow => ?_
  obtain ⟨blanks, digits, rest, ⟨hne, hblanks⟩, -, hline⟩ := exists_of_row? hrow
  obtain ⟨d, more, rfl⟩ := List.exists_cons_of_ne_nil hne
  obtain ⟨rfl, -⟩ := List.cons_eq_cons.mp hline
  rw [List.all_eq_true.mp hblanks c List.mem_cons_self] at h
  cases h

/-! ## What sums up the findings -/

/-- A printed number other than zero is a count. -/
theorem takeCount?_toDigits {n : Nat} (h : 0 < n) {c : Char} (hc : isDecimal c = false) (rest : List Char) :
    takeCount? (Nat.toDigits 10 n ++ c :: rest) = some (Nat.toDigits 10 n, c :: rest) := by
  obtain ⟨d, digits, hdigits, hd⟩ := Json.toDigits_eq_cons n
  have hdecimal : ∀ e ∈ digits, isDecimal e = true := fun e he =>
    (isDigits_toDigits n).2 e (by rw [hdigits]; exact List.mem_cons_of_mem d he)
  have hzero : d ≠ '0' := fun hzero => Json.toDigits_ne_zero_cons h digits (hzero ▸ hdigits)
  have hplace : 48 ≤ d.toNat ∧ d.toNat ≤ 57 := by
    simpa [Char.isDigit, UInt32.le_iff_toNat_le] using hd
  have hne : d.toNat ≠ 48 := fun heq => hzero (Char.toNat_inj.mp heq)
  have hcount : '1' ≤ d ∧ d ≤ '9' := by
    change 49 ≤ d.toNat ∧ d.toNat ≤ 57
    omega
  rw [hdigits, List.cons_append, takeCount?_append hcount hdecimal hc]

namespace Total

variable (total : Total)

/-- The characters of the sum. -/
theorem toList_text : ∃ middle, total.text.toList = '✖' :: ' ' :: (Nat.toDigits 10 total.problems ++ ' ' ::
    ("problem".toList ++ 's' :: ' ' :: (middle ++ [')']))) := by
  have hmark : "✖ ".toList = ['✖', ' '] := rfl
  have hproblems : " problems (".toList = ' ' :: ("problem".toList ++ ['s', ' ', '(']) := rfl
  have hwarnings : " warnings)".toList = " warnings".toList ++ [')'] := rfl
  refine ⟨'(' :: (Nat.toDigits 10 total.errors ++ " errors, ".toList ++ Nat.toDigits 10 total.warnings ++
    " warnings".toList), ?_⟩
  unfold text
  simp only [String.toList_append, hmark, hproblems, hwarnings, Nat.toString_eq_repr, Nat.toList_repr,
    List.append_assoc, List.cons_append, List.nil_append]

/-- The sum is no header. -/
theorem headerPath?_text : headerPath? total.text.toList = none := by
  obtain ⟨middle, htext⟩ := total.toList_text
  refine headerPath?_of_bracket ?_
  rw [htext]
  simp [List.getLast?_append, List.getLast?_cons]

/-- The sum is no row. -/
theorem row?_text : row? total.text.toList = none := by
  obtain ⟨middle, htext⟩ := total.toList_text
  rw [htext]
  exact row?_of_head (by decide) _

/-- The sum announces the findings. -/
theorem isSome_announcement : (firstSighting announcement none total.text.toList).isSome = true := by
  obtain ⟨middle, htext⟩ := total.toList_text
  have hcount : ∀ tail, takeCount? (Nat.toDigits 10 total.problems ++ ' ' :: tail) =
      some (Nat.toDigits 10 total.problems, ' ' :: tail) := takeCount?_toDigits total.isSome rfl
  have hgap : ∀ tail, takeBlanks? (' ' :: ("problem".toList ++ tail)) = some ("problem".toList ++ tail) :=
    fun tail => @takeBlanks?_gap _ [' '] ⟨List.cons_ne_nil _ _, rfl⟩ (stops_cons rfl _)
  have hword : ∀ tail, after? "problem".toList ("problem".toList ++ tail) = some tail :=
    fun tail => after?_eq_some.mpr rfl
  have hends : ∀ tail, wordEnds (afterOptional ['s'] ('s' :: ' ' :: tail)) = true := fun tail => rfl
  have hseen : announcement (some ' ') (Nat.toDigits 10 total.problems ++ ' ' ::
      ("problem".toList ++ 's' :: ' ' :: (middle ++ [')']))) = some (some (Nat.toDigits 10 total.problems)) := by
    have hstarts : wordStarts (some ' ') = true := rfl
    unfold announcement countedWord
    simp only [if_pos hstarts, Option.bind_eq_bind, Option.bind_some, hcount, hgap, hword, if_pos (hends _)]
  have hmem : some (Nat.toDigits 10 total.problems) ∈ sightings announcement none total.text.toList := by
    obtain ⟨c, digits, hdigits, -⟩ := Json.toDigits_eq_cons total.problems
    rw [htext, sightings, sightings]
    refine List.mem_append_right _ (List.mem_append_right _ ?_)
    rw [hdigits, List.cons_append] at hseen ⊢
    rw [sightings, hseen]
    exact List.mem_cons_self
  rw [firstSighting_eq_head?, List.isSome_head?]
  exact List.ne_nil_of_mem hmem

end Total

end Checkup.Eslint
