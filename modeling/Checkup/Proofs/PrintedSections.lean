import Mathlib.Data.List.Chain
import Checkup.Dialect.Knip
import Checkup.Proofs.PrintedNumbers
import Checkup.Proofs.TextStretches

/-!
# Sections as knip prints them

knip prints a section as a title with a number and a row for each finding below it. A row is a name,
or a name with its kind and its place in columns of their own. The columns are told apart by the wide
gaps between them, which no name holds, and a title is told from a row by the number at its end.
-/

namespace Checkup.Knip

open Text

/-! ## What is printed -/

/-- A word that says what kind of thing a name is, behind a wide gap. -/
structure PrintedKind where
  word : String
  gap : Nat
  isWord : word.toList ≠ [] ∧ ∀ c ∈ word.toList, isBlank c = false
  isWide : 2 ≤ gap

/-- A place behind a wide gap: a file with a line and maybe a column, and before it maybe the kind
of what is there. -/
structure PrintedPlace where
  kind : Option PrintedKind
  gap : Nat
  file : String
  line : Nat
  column : Option Nat
  isWide : 2 ≤ gap
  isFile : file.toList ≠ [] ∧ ∀ c ∈ file.toList, isBlank c = false ∧ c ∉ [':', '\\']
  isLine : 0 < line

/-- A finding with what makes its row readable: a name that holds no wide gap and has no blanks at
its ends. -/
structure PrintedRow where
  name : String
  place : Option PrintedPlace
  isName : name.toList ≠ [] ∧ trim name.toList = name.toList
  hasNoGap : name.toList.IsChain fun first second => ¬(isBlank first = true ∧ isBlank second = true)

/-- So many spaces. -/
def spaces (gap : Nat) : List Char := List.replicate gap ' '

/-- A kind with the gap before it. -/
def PrintedKind.text (kind : PrintedKind) : List Char := spaces kind.gap ++ kind.word.toList

namespace PrintedPlace

/-- The column of a place. -/
def columnText (place : PrintedPlace) : List Char :=
  (place.column.map fun column => ':' :: Nat.toDigits 10 column).getD []

/-- The location of a place. -/
def location (place : PrintedPlace) : List Char :=
  place.file.toList ++ ':' :: (Nat.toDigits 10 place.line ++ place.columnText)

/-- A place with what stands before it. -/
def text (place : PrintedPlace) : List Char :=
  (place.kind.map PrintedKind.text).getD [] ++ (spaces place.gap ++ place.location)

end PrintedPlace

/-- The line of a finding. -/
def PrintedRow.text (row : PrintedRow) : List Char :=
  row.name.toList ++ (row.place.map PrintedPlace.text).getD []

/-- The line above the rows of a section. -/
def header (title : List Char) (count : Nat) : List Char :=
  title ++ ' ' :: '(' :: (Nat.toDigits 10 count ++ [')'])

/-- A title: a letter, and letters or spaces. -/
def IsTitle (title : List Char) : Prop :=
  ∃ c further, title = c :: further ∧ c.isAlpha = true ∧ further ≠ [] ∧ ∀ d ∈ further, isTitleChar d = true

/-- A line with the shape of a header: a title, and a number in brackets behind a gap. -/
def IsHeader (line : List Char) : Prop :=
  ∃ title gap number blanks, line = title ++ (gap ++ '(' :: (number ++ ')' :: blanks)) ∧ IsTitle title ∧
    IsGap gap ∧ IsDigits number ∧ allBlank blanks = true

/-! ## Headers -/

/-- A number ends a title where it stands in brackets behind a gap and before blanks. -/
theorem numberEnd?_eq_some_iff {text : List Char} : numberEnd? text = some () ↔
    ∃ gap number blanks, IsGap gap ∧ IsDigits number ∧ allBlank blanks = true ∧
      text = gap ++ '(' :: (number ++ ')' :: blanks) := by
  constructor
  · intro h
    unfold numberEnd? at h
    obtain ⟨behind, hbehind, h⟩ := Option.bind_eq_some_iff.mp h
    obtain ⟨inside, hopen, h⟩ := Option.bind_eq_some_iff.mp h
    obtain ⟨⟨number, rest⟩, hnumber, h⟩ := Option.bind_eq_some_iff.mp h
    obtain ⟨blanks, hclose, h⟩ := Option.bind_eq_some_iff.mp h
    obtain ⟨-, gap, hne, hgap, htext⟩ := takeBlanks?_eq_some_iff.mp hbehind
    obtain ⟨hdigits, -, hinside⟩ := takeDigits?_eq_some_iff.mp hnumber
    split at h
    · next hblanks =>
      refine ⟨gap, number, blanks, ⟨hne, hgap⟩, hdigits, hblanks, ?_⟩
      rw [htext, after?_eq_some.mp hopen, hinside, after?_eq_some.mp hclose]
      rfl
    · cases h
  · rintro ⟨gap, number, blanks, hgap, hnumber, hblanks, rfl⟩
    have hbehind : takeBlanks? (gap ++ '(' :: (number ++ ')' :: blanks)) = some ('(' :: (number ++ ')' :: blanks)) :=
      takeBlanks?_gap hgap (stops_cons rfl _)
    have hopen : after? ['('] ('(' :: (number ++ ')' :: blanks)) = some (number ++ ')' :: blanks) := rfl
    have hinside : takeDigits? (number ++ ')' :: blanks) = some (number, ')' :: blanks) :=
      hnumber.takeDigits?_append (stops_cons rfl _)
    have hclose : after? [')'] (')' :: blanks) = some blanks := rfl
    unfold numberEnd?
    simp only [hbehind, hopen, hinside, hclose, Option.bind_eq_bind, Option.bind_some, if_pos hblanks]

/-- Where a continuation succeeds behind some stretch, there is a shortest one. -/
theorem isSome_shortest {admits : Char → Bool} {next : List Char → Option Unit} {stretch rest : List Char}
    (hne : stretch ≠ []) (ha : ∀ c ∈ stretch, admits c = true) (hn : next rest = some ()) :
    (shortest admits next (stretch ++ rest)).isSome = true := by
  induction stretch with
  | nil => exact absurd rfl hne
  | cons c stretch ih =>
    obtain ⟨hc, hrest⟩ := List.forall_mem_cons.mp ha
    rw [List.cons_append, shortest, if_pos hc]
    split
    · rfl
    · next hnone =>
      cases stretch with
      | nil =>
        rw [List.nil_append, hn] at hnone
        cases hnone
      | cons d stretch =>
        obtain ⟨found, hfound⟩ := Option.isSome_iff_exists.mp (ih (List.cons_ne_nil d stretch) hrest)
        rw [hfound]
        rfl

/-- A title that is recognised is one, with a number behind it. -/
theorem exists_of_title? {line title : List Char} (h : title? line = some title) :
    IsTitle title ∧ ∃ gap number blanks, line = title ++ (gap ++ '(' :: (number ++ ')' :: blanks)) ∧
      IsGap gap ∧ IsDigits number ∧ allBlank blanks = true := by
  cases line with
  | nil => cases h
  | cons c rest =>
    rw [title?] at h
    split at h
    · next hc =>
      obtain ⟨⟨further, found⟩, hshortest, hsame⟩ := Option.map_eq_some_iff.mp h
      cases hsame
      obtain ⟨hne, hall, behind, hrest, hend⟩ := shortest_eq_some hshortest
      obtain ⟨gap, number, blanks, hgap, hnumber, hblanks, hbehind⟩ := numberEnd?_eq_some_iff.mp hend
      refine ⟨⟨c, further, rfl, hc, hne, List.all_eq_true.mp hall⟩, gap, number, blanks, ?_, hgap, hnumber, hblanks⟩
      rw [hrest, hbehind]
      rfl
    · cases h

/-- A title is recognised exactly in the lines with the shape of a header. -/
theorem isSome_title?_iff {line : List Char} : (title? line).isSome = true ↔ IsHeader line := by
  constructor
  · intro h
    obtain ⟨title, htitle⟩ := Option.isSome_iff_exists.mp h
    obtain ⟨hshape, gap, number, blanks, hline, hgap, hnumber, hblanks⟩ := exists_of_title? htitle
    exact ⟨title, gap, number, blanks, hline, hshape, hgap, hnumber, hblanks⟩
  · rintro ⟨_, gap, number, blanks, rfl, ⟨c, further, rfl, hc, hne, hall⟩, hgap, hnumber, hblanks⟩
    have hend := numberEnd?_eq_some_iff.mpr ⟨gap, number, blanks, hgap, hnumber, hblanks, rfl⟩
    rw [List.cons_append, title?, if_pos hc, Option.isSome_map]
    exact isSome_shortest hne hall hend

/-- A line without the shape of a header has no title. -/
theorem title?_eq_none {line : List Char} (h : ¬IsHeader line) : title? line = none :=
  Option.not_isSome_iff_eq_none.mp (mt isSome_title?_iff.mp h)

/-- A line without a bracket has not the shape of a header. -/
theorem not_isHeader_of_not_mem {line : List Char} (h : '(' ∉ line) : ¬IsHeader line := by
  rintro ⟨title, gap, number, blanks, rfl, -⟩
  exact h (by simp)

/-- The number in brackets at the end of a line is found again, and so is what stands before it. -/
theorem append_bracket_inj {front other number digits blanks more : List Char} (hn : IsDigits number)
    (hd : IsDigits digits) (hb : allBlank blanks = true) (hm : allBlank more = true)
    (h : front ++ '(' :: (number ++ ')' :: blanks) = other ++ '(' :: (digits ++ ')' :: more)) : front = other := by
  have hplain : ∀ {inside behind : List Char}, IsDigits inside → allBlank behind = true →
      '(' ∉ inside ++ ')' :: behind := by
    intro inside behind hinside hbehind hmem
    rcases List.mem_append.mp hmem with hmem | hmem
    · exact hinside.not_mem (by decide) hmem
    · rcases List.mem_cons.mp hmem with heq | hmem
      · cases heq
      · exact absurd (List.all_eq_true.mp hbehind '(' hmem) (by decide)
  have hcut : ∀ (left : List Char) {right : List Char}, '(' ∉ right →
      cutLast? '(' (left ++ '(' :: right) = some (left, right) :=
    fun _ _ hright => cutLast?_eq_some.mpr ⟨rfl, hright⟩
  have hfirst := hcut front (hplain hn hb)
  rw [h, hcut other (hplain hd hm)] at hfirst
  exact (Prod.mk.inj (Option.some.inj hfirst)).1.symm

/-- The title of a header is what stands before the gap, if it ends in no blank. -/
theorem eq_of_title?_header {title found : List Char} {count : Nat} (hl : ∀ c ∈ title.getLast?, isBlank c = false)
    (h : title? (header title count) = some found) : found = title := by
  obtain ⟨⟨c, further, hfound, -⟩, gap, number, blanks, hline, ⟨hne, hgap⟩, hnumber, hblanks⟩ := exists_of_title? h
  have hfront : title ++ [' '] = found ++ gap := by
    refine @append_bracket_inj _ _ _ _ [] _ (isDigits_toDigits count) hnumber rfl hblanks ?_
    rw [header] at hline
    rw [List.append_assoc, List.append_assoc]
    exact hline
  -- The gap is the one space: any more of it would be the end of the title.
  obtain ⟨front, last, rfl⟩ := (List.eq_nil_or_concat gap).resolve_left hne
  rw [List.concat_eq_append] at hgap hfront
  rw [← List.append_assoc] at hfront
  obtain ⟨htitle, -⟩ := List.append_inj' hfront rfl
  cases hfrontLast : front.getLast? with
  | none =>
    rw [List.getLast?_eq_none_iff.mp hfrontLast, List.append_nil] at htitle
    exact htitle.symm
  | some d =>
    have hd := hl d (by rw [htitle, List.getLast?_append, hfrontLast]; rfl)
    rw [List.all_eq_true.mp hgap d (List.mem_append_left _ (List.mem_of_getLast? hfrontLast))] at hd
    cases hd

/-- The title of a header is read back. -/
theorem title?_header {title : List Char} (ht : IsTitle title) (hl : ∀ c ∈ title.getLast?, isBlank c = false)
    (count : Nat) : title? (header title count) = some title := by
  have hheader : IsHeader (header title count) :=
    ⟨title, [' '], Nat.toDigits 10 count, [], rfl, ht, ⟨List.cons_ne_nil _ _, rfl⟩, isDigits_toDigits count, rfl⟩
  obtain ⟨found, hfound⟩ := Option.isSome_iff_exists.mp (isSome_title?_iff.mpr hheader)
  rw [hfound, eq_of_title?_header hl hfound]

/-- No blanks stand at the ends of a header whose title starts with none. -/
theorem trim_header {title : List Char} (hs : title ≠ [] ∧ Stops isBlank title) (count : Nat) :
    trim (header title count) = header title count := by
  obtain ⟨c, further, htitle⟩ := List.exists_cons_of_ne_nil hs.1
  have hstart : Stops isBlank (header title count) := by
    rw [header, htitle]
    exact stops_cons (hs.2 c (by rw [htitle]; rfl)) _
  have hlast : (header title count).getLast? = some ')' := by
    simp [header, List.getLast?_append, List.getLast?_cons]
  rw [trim, trimStart_eq_self hstart, trimEnd_eq_self hlast rfl]

/-! ## Columns -/

/-- A text without a wide gap is one column. -/
theorem columns_of_noGap {text : List Char}
    (h : text.IsChain fun first second => ¬(isBlank first = true ∧ isBlank second = true)) : columns text = [text] := by
  fun_induction columns text with
  | case1 => rfl
  | case2 => rfl
  | case3 c d rest hblank => exact absurd (Bool.and_eq_true_iff.mp hblank) (List.isChain_cons_cons.mp h).1
  | case4 c d rest _ ih => rw [ih (List.isChain_cons_cons.mp h).2, extendColumn]

/-- A text without blanks is one column. -/
theorem columns_of_noBlank {text : List Char} (h : ∀ c ∈ text, isBlank c = false) : columns text = [text] := by
  refine columns_of_noGap (List.Pairwise.isChain (List.pairwise_of_forall_mem_list fun c hc d _ hblank => ?_))
  rw [h c hc] at hblank
  cases hblank.1

/-- A wide gap ends a column without one. -/
theorem columns_append {text gap rest : List Char} (hne : text ≠ []) (hl : ∀ c ∈ text.getLast?, isBlank c = false)
    (hn : text.IsChain fun first second => ¬(isBlank first = true ∧ isBlank second = true))
    (hw : 2 ≤ gap.length) (hg : allBlank gap = true) (hs : Stops isBlank rest) :
    columns (text ++ (gap ++ rest)) = text :: columns rest := by
  induction text with
  | nil => exact absurd rfl hne
  | cons c text ih =>
    cases text with
    | nil =>
      match gap, hw, hg with
      | first :: second :: gap, _, hg =>
        simp only [allBlank, List.all_cons, Bool.and_eq_true] at hg
        obtain ⟨hfirst, hsecond, hgap⟩ := hg
        have hplain : ¬(isBlank c && isBlank first) = true := by
          rw [hl c rfl]
          exact Bool.false_ne_true
        have hrest : (gap ++ rest).dropWhile isBlank = rest := (trimStart_append hgap rest).trans (trimStart_eq_self hs)
        simp only [List.cons_append, List.nil_append]
        rw [columns, if_neg hplain, columns, hfirst, hsecond, Bool.and_self, if_pos rfl, hrest, extendColumn]
    | cons d text =>
      obtain ⟨hpair, hchain⟩ := List.isChain_cons_cons.mp hn
      have hkept := ih (List.cons_ne_nil d text) (fun e he => hl e (by rwa [List.getLast?_cons_cons])) hchain
      have hplain : ¬(isBlank c && isBlank d) = true := fun hblank => hpair (Bool.and_eq_true_iff.mp hblank)
      simp only [List.cons_append] at hkept ⊢
      rw [columns, if_neg hplain, hkept, extendColumn]

/-! ## Rows -/

/-- Spaces are blanks. -/
theorem allBlank_spaces (gap : Nat) : allBlank (spaces gap) = true :=
  List.all_eq_true.mpr fun c hc => by rw [List.eq_of_mem_replicate hc]; rfl

namespace PrintedPlace

variable (place : PrintedPlace)

/-- No blanks stand in a location. -/
theorem isBlank_of_mem_location : ∀ c ∈ place.location, isBlank c = false := by
  have hcolumn : ∀ c ∈ place.columnText, isBlank c = false := by
    unfold columnText
    cases place.column with
    | none => exact fun c hc => absurd hc List.not_mem_nil
    | some column => exact List.forall_mem_cons.mpr ⟨rfl, (isDigits_toDigits column).isBlank_of_mem⟩
  rw [location]
  simp only [List.forall_mem_append, List.forall_mem_cons]
  exact ⟨fun c hc => (place.isFile.2 c hc).1, rfl, (isDigits_toDigits place.line).isBlank_of_mem, hcolumn⟩

/-- A location is not empty. -/
theorem location_ne_nil : place.location ≠ [] := List.append_ne_nil_of_left_ne_nil place.isFile.1 _

/-- A location is read back. -/
theorem location?_location : ∃ found, location? place.location = some found ∧
    found.file = place.file.toList ∧ found.line = some (Nat.toDigits 10 place.line) := by
  have hfile : run? (fun c => !isBlank c && c != ':') place.location =
      some (place.file.toList, ':' :: (Nat.toDigits 10 place.line ++ place.columnText)) := by
    refine run?_eq_some_iff.mpr ⟨place.isFile.1, fun c hc => ?_, stops_cons rfl _, rfl⟩
    obtain ⟨hblank, hplain⟩ := place.isFile.2 c hc
    have hcolon : (c != ':') = true := bne_iff_ne.mpr fun heq => hplain (heq ▸ List.mem_cons_self)
    rw [hblank, hcolon]
    rfl
  have hdigits : ∀ (n : Nat) (rest : List Char), Stops isDecimal rest →
      colonDigits? (':' :: (Nat.toDigits 10 n ++ rest)) = some (Nat.toDigits 10 n, rest) :=
    fun n _ hs => takeDigits?_toDigits n hs
  refine ⟨⟨place.file.toList, some (Nat.toDigits 10 place.line)⟩, ?_, rfl, rfl⟩
  have hfull : ¬(':' :: (Nat.toDigits 10 place.line ++ place.columnText)).isEmpty = true := Bool.false_ne_true
  unfold location?
  rw [hfile]
  simp only [Option.bind_eq_bind, Option.bind_some, if_neg hfull]
  unfold columnText
  cases place.column with
  | none =>
    have hline := hdigits place.line [] fun c hc => by cases hc
    simp only [Option.map_none, Option.getD_none, hline, Option.bind_some]
    rfl
  | some column =>
    have hline := hdigits place.line (':' :: Nat.toDigits 10 column) (stops_cons rfl _)
    have hcolumn := hdigits column [] fun c hc => by cases hc
    rw [List.append_nil] at hcolumn
    simp only [Option.map_some, Option.getD_some, hline, hcolumn, Option.bind_some]
    rfl

end PrintedPlace

namespace PrintedRow

variable (row : PrintedRow)

/-- A row starts as its name does. -/
theorem exists_text_eq_cons : ∃ c rest, row.text = c :: rest ∧ isBlank c = false := by
  obtain ⟨c, more, hname⟩ := List.exists_cons_of_ne_nil row.isName.1
  refine ⟨c, more ++ (row.place.map PrintedPlace.text).getD [], ?_, ?_⟩
  · rw [text, hname]
    rfl
  · exact stops_of_trim row.isName.2 c (by rw [hname]; rfl)

/-- The last character of a row is no blank. -/
theorem exists_getLast?_text : ∃ c, row.text.getLast? = some c ∧ isBlank c = false := by
  have hkept : ∀ (front : List Char) {back : List Char}, back ≠ [] → (∀ c ∈ back.getLast?, isBlank c = false) →
      ∃ c, (front ++ back).getLast? = some c ∧ isBlank c = false := by
    intro front back hne hlast
    refine ⟨back.getLast hne, ?_, hlast _ (List.getLast?_eq_some_getLast hne)⟩
    rw [List.getLast?_append, List.getLast?_eq_some_getLast hne]
    rfl
  unfold text
  cases row.place with
  | none =>
    have hname := hkept [] row.isName.1 (isBlank_of_getLast_trim row.isName.2)
    rwa [List.nil_append, ← List.append_nil row.name.toList] at hname
  | some place =>
    have hlast : ∀ c ∈ place.location.getLast?, isBlank c = false :=
      fun c hc => place.isBlank_of_mem_location c (List.mem_of_getLast? hc)
    have hplace := hkept (row.name.toList ++ ((place.kind.map PrintedKind.text).getD [] ++ spaces place.gap))
      place.location_ne_nil hlast
    rwa [List.append_assoc, List.append_assoc] at hplace

/-- No blanks stand at the ends of a row. -/
theorem trim_text : trim row.text = row.text := by
  obtain ⟨c, rest, htext, hblank⟩ := row.exists_text_eq_cons
  obtain ⟨d, hlast, hd⟩ := row.exists_getLast?_text
  have hstart : Stops isBlank row.text := by
    rw [htext]
    exact stops_cons hblank rest
  rw [trim, trimStart_eq_self hstart, trimEnd_eq_self hlast hd]

/-- The columns of a row are its name, the kind and the location. -/
theorem columns_text : columns row.text = row.name.toList ::
    (row.place.map fun place => (place.kind.map fun kind => kind.word.toList).toList ++ [place.location]).getD [] := by
  have hwide : ∀ {gap : Nat}, 2 ≤ gap → 2 ≤ (spaces gap).length := by
    intro gap h
    rwa [spaces, List.length_replicate]
  have hname : ∀ {gap : Nat} {rest : List Char}, 2 ≤ gap → Stops isBlank rest →
      columns (row.name.toList ++ (spaces gap ++ rest)) = row.name.toList :: columns rest :=
    fun hg hs => columns_append row.isName.1 (isBlank_of_getLast_trim row.isName.2) row.hasNoGap (hwide hg)
      (allBlank_spaces _) hs
  unfold text
  cases row.place with
  | none =>
    rw [Option.map_none, Option.getD_none, List.append_nil]
    exact columns_of_noGap row.hasNoGap
  | some place =>
    have hlocation := columns_of_noBlank place.isBlank_of_mem_location
    have hstops : Stops isBlank place.location :=
      fun c hc => place.isBlank_of_mem_location c (List.mem_of_mem_head? hc)
    rw [Option.map_some, Option.getD_some, Option.map_some, Option.getD_some, PrintedPlace.text]
    cases place.kind with
    | none =>
      rw [Option.map_none, Option.getD_none, List.nil_append, hname place.isWide hstops, hlocation]
      rfl
    | some kind =>
      have hword : columns (kind.word.toList ++ (spaces place.gap ++ place.location)) =
          kind.word.toList :: columns place.location := by
        refine columns_append kind.isWord.1 (fun c hc => kind.isWord.2 c (List.mem_of_getLast? hc)) ?_
          (hwide place.isWide) (allBlank_spaces _) hstops
        refine List.Pairwise.isChain (List.pairwise_of_forall_mem_list fun c hc d _ hblank => ?_)
        rw [kind.isWord.2 c hc] at hblank
        cases hblank.1
      have hstart : Stops isBlank (kind.word.toList ++ (spaces place.gap ++ place.location)) := by
        obtain ⟨c, more, hcons⟩ := List.exists_cons_of_ne_nil kind.isWord.1
        rw [hcons]
        exact stops_cons (kind.isWord.2 c (by rw [hcons]; exact List.mem_cons_self)) _
      rw [Option.map_some, Option.getD_some, PrintedKind.text, List.append_assoc, hname kind.isWide hstart, hword,
        hlocation]
      rfl

end PrintedRow

end Checkup.Knip
