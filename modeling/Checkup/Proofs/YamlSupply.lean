import Checkup.Yaml.Supply

/-!
# Faults of a file's bytes

A file is decoded in chunks, and a chunk may end inside a character, whose bytes are then
held back for the next one. Whatever the chunks, nothing is wrong with them if the bytes as
a whole are UTF-8: a fault behind the text of a file says that they are not.
-/

namespace Checkup

namespace Text

/-- Bytes that are UTF-8. -/
def IsUtf8 (bytes : List UInt8) : Prop := ∃ text, decode bytes = .ok text

namespace Utf8Head

variable {first : UInt8} {rest : List UInt8}

/-- What is read does not change with more bytes, unless they were too few. -/
theorem read_append (h : ∀ further, read first rest ≠ .flaw .cutShort further) (more : List UInt8) :
    read first (rest ++ more) = read first rest := by
  by_cases h1 : first < 0x80
  · simp only [read, if_pos h1]
  by_cases h2 : first < 0xC2
  · simp only [read, if_neg h1, if_pos h2]
  by_cases h3 : first < 0xE0
  · simp only [read, if_neg h1, if_neg h2, if_pos h3] at h ⊢
    cases rest with
    | nil => exact absurd rfl (h 0)
    | cons second rest => rfl
  by_cases h4 : first < 0xF0
  · simp only [read, if_neg h1, if_neg h2, if_neg h3, if_pos h4] at h ⊢
    cases rest with
    | nil => exact absurd rfl (h 0)
    | cons second rest =>
      by_cases hs : isSecond first second = true
      · simp only [List.cons_append, if_pos hs] at h ⊢
        cases rest with
        | nil => exact absurd rfl (h 1)
        | cons third rest => rfl
      · simp only [List.cons_append, if_neg hs]
  by_cases h5 : first < 0xF5
  · simp only [read, if_neg h1, if_neg h2, if_neg h3, if_neg h4, if_pos h5] at h ⊢
    cases rest with
    | nil => exact absurd rfl (h 0)
    | cons second rest =>
      by_cases hs : isSecond first second = true
      · simp only [List.cons_append, if_pos hs] at h ⊢
        cases rest with
        | nil => exact absurd rfl (h 1)
        | cons third rest =>
          by_cases ht : isContinuation third = true
          · simp only [List.cons_append, if_pos ht] at h ⊢
            cases rest with
            | nil => exact absurd rfl (h 2)
            | cons fourth rest => rfl
          · simp only [List.cons_append, if_neg ht]
      · simp only [List.cons_append, if_neg hs]
  · simp only [read, if_neg h1, if_neg h2, if_neg h3, if_neg h4, if_neg h5]

/-- A character is read from its own bytes alone. -/
theorem read_take {c : Char} {further : Nat} (h : read first rest = .char c further) :
    further ≤ rest.length ∧ read first (rest.take further) = .char c further := by
  by_cases h1 : first < 0x80
  · simp only [read, if_pos h1] at h ⊢
    cases h
    exact ⟨Nat.zero_le _, rfl⟩
  by_cases h2 : first < 0xC2
  · simp only [read, if_neg h1, if_pos h2] at h
    cases h
  by_cases h3 : first < 0xE0
  · simp only [read, if_neg h1, if_neg h2, if_pos h3] at h ⊢
    split at h
    · cases h
    · next second rest =>
      split at h
      · next hs =>
        obtain ⟨-, rfl⟩ := Utf8Head.char.inj h
        exact ⟨Nat.le_add_left 1 _, (if_pos hs).trans h⟩
      · cases h
  by_cases h4 : first < 0xF0
  · simp only [read, if_neg h1, if_neg h2, if_neg h3, if_pos h4] at h ⊢
    split at h
    · cases h
    · next second rest =>
      split at h
      · next hs =>
        split at h
        · cases h
        · next third rest =>
          split at h
          · next ht =>
            obtain ⟨-, rfl⟩ := Utf8Head.char.inj h
            exact ⟨Nat.le_add_left 2 _, (if_pos hs).trans ((if_pos ht).trans h)⟩
          · cases h
      · cases h
  by_cases h5 : first < 0xF5
  · simp only [read, if_neg h1, if_neg h2, if_neg h3, if_neg h4, if_pos h5] at h ⊢
    split at h
    · cases h
    · next second rest =>
      split at h
      · next hs =>
        split at h
        · cases h
        · next third rest =>
          split at h
          · next ht =>
            split at h
            · cases h
            · next fourth rest =>
              split at h
              · next hf =>
                obtain ⟨-, rfl⟩ := Utf8Head.char.inj h
                exact ⟨Nat.le_add_left 3 _, (if_pos hs).trans ((if_pos ht).trans ((if_pos hf).trans h))⟩
              · cases h
          · cases h
      · cases h
  · simp only [read, if_neg h1, if_neg h2, if_neg h3, if_neg h4, if_neg h5] at h
    cases h

end Utf8Head

/-- Where bytes are read from does not matter to whether they can be. -/
theorem decodeFrom_ok_of_ok {position : Nat} {bytes : List UInt8} {text : List Char}
    (h : decodeFrom position bytes = .ok text) (other : Nat) : decodeFrom other bytes = .ok text := by
  induction position, bytes using decodeFrom.induct generalizing text other with
  | case1 position =>
    rw [decodeFrom] at h ⊢
    exact h
  | case2 position first rest c further hread found hmore ih =>
    rw [decodeFrom, hread] at h ⊢
    dsimp only at h ⊢
    rw [hmore] at h
    rw [ih hmore]
    exact h
  | case3 position first rest c further hread fault hmore ih =>
    rw [decodeFrom, hread] at h
    dsimp only at h
    rw [hmore] at h
    cases h
  | case4 position first rest flaw further hread =>
    rw [decodeFrom, hread] at h
    cases h

theorem isUtf8_nil : IsUtf8 [] := ⟨[], by rw [decode, decodeFrom]⟩

/-- Bytes are UTF-8 if a character is read at their head and those behind it are. -/
theorem isUtf8_cons_iff {first : UInt8} {rest : List UInt8} :
    IsUtf8 (first :: rest) ↔
      ∃ c further, Utf8Head.read first rest = .char c further ∧ IsUtf8 (rest.drop further) := by
  constructor
  · rintro ⟨text, h⟩
    rw [decode, decodeFrom] at h
    split at h
    · next c further hread =>
      split at h
      · next found hmore => exact ⟨c, further, hread, found, decodeFrom_ok_of_ok hmore 0⟩
      · cases h
    · cases h
  · rintro ⟨c, further, hread, text, hmore⟩
    refine ⟨c :: text, ?_⟩
    rw [decode, decodeFrom, hread]
    dsimp only
    rw [decodeFrom_ok_of_ok hmore]

/-- Behind a character at the head the bytes are UTF-8, whatever comes behind them. -/
theorem isUtf8_drop_append {first : UInt8} {rest more : List UInt8} {c : Char} {further : Nat}
    (hread : Utf8Head.read first rest = .char c further) (h : IsUtf8 (first :: rest ++ more)) :
    IsUtf8 (rest.drop further ++ more) := by
  have hextended : Utf8Head.read first (rest ++ more) = .char c further :=
    (Utf8Head.read_append (fun _ => by rw [hread]; exact fun he => by cases he) more).trans hread
  rw [List.cons_append] at h
  obtain ⟨d, count, hfound, hmore⟩ := isUtf8_cons_iff.mp h
  rw [hextended] at hfound
  obtain ⟨-, rfl⟩ := Utf8Head.char.inj hfound
  rwa [List.drop_append_of_le_length (Utf8Head.read_take hread).1] at hmore

/-- Where bytes at the head of others that are UTF-8 fail to be so themselves, it is for a
character that is not complete: what stands before it is UTF-8, and so is what starts with it. -/
theorem isUtf8_of_append (position : Nat) {bytes more : List UInt8} (h : IsUtf8 (bytes ++ more)) :
    match decodeFrom position bytes with
    | .ok _ => IsUtf8 more
    | .error fault => fault.flaw = .cutShort ∧ position ≤ fault.position ∧
      IsUtf8 (bytes.take (fault.position - position)) ∧ IsUtf8 (bytes.drop (fault.position - position) ++ more) := by
  induction position, bytes using decodeFrom.induct with
  | case1 position =>
    rw [decodeFrom]
    exact h
  | case2 position first rest c further hread found hmore ih =>
    have hbehind := ih (isUtf8_drop_append hread h)
    rw [hmore] at hbehind
    rw [decodeFrom, hread]
    dsimp only
    rw [hmore]
    exact hbehind
  | case3 position first rest c further hread fault hmore ih =>
    have hbehind := ih (isUtf8_drop_append hread h)
    rw [hmore] at hbehind
    obtain ⟨hflaw, hle, hbefore, hafter⟩ := hbehind
    rw [decodeFrom, hread]
    dsimp only
    rw [hmore]
    dsimp only
    obtain ⟨count, hcount⟩ := Nat.exists_eq_add_of_le hle
    have hwithin : fault.position - (position + 1 + further) = count := by omega
    have hwhole : fault.position - position = further + count + 1 := by omega
    rw [hwithin] at hbefore hafter
    rw [hwhole, List.take_succ_cons, List.drop_succ_cons, ← List.drop_drop]
    refine ⟨hflaw, by omega, isUtf8_cons_iff.mpr ⟨c, further, ?_, ?_⟩, hafter⟩
    · have hown := (Utf8Head.read_take hread).2
      rw [List.take_add]
      exact (Utf8Head.read_append (fun _ => by rw [hown]; exact fun he => by cases he) _).trans hown
    · rwa [List.drop_take, Nat.add_sub_cancel_left]
  | case4 position first rest flaw further hread =>
    have hflaw : flaw = .cutShort := by
      -- any other flaw would still be there with more bytes
      refine Classical.byContradiction fun hne => ?_
      have hextended : Utf8Head.read first (rest ++ more) = .flaw flaw further :=
        (Utf8Head.read_append (fun _ hcut => hne (by rw [hread] at hcut; cases hcut; rfl)) more).trans hread
      rw [List.cons_append] at h
      obtain ⟨c, count, hfound, -⟩ := isUtf8_cons_iff.mp h
      rw [hextended] at hfound
      cases hfound
    rw [decodeFrom, hread]
    dsimp only
    rw [Nat.sub_self]
    exact ⟨hflaw, Nat.le_refl _, isUtf8_nil, h⟩

end Text

namespace Yaml.Supply

open Text

/-- A chunk is decoded up to a character that is not complete if its bytes are UTF-8 with
those behind it. -/
theorem decodeChunk_of_isUtf8 {bytes more : List UInt8} (h : IsUtf8 (bytes ++ more)) :
    ∃ text held, decodeChunk bytes = .ok (text, held) ∧ IsUtf8 (held ++ more) := by
  have hsplit := isUtf8_of_append 0 h
  unfold decodeChunk decode
  cases hread : decodeFrom 0 bytes with
  | ok text =>
    rw [hread] at hsplit
    exact ⟨text, [], rfl, hsplit⟩
  | error fault =>
    rw [hread] at hsplit
    obtain ⟨hflaw, -, ⟨text, hbefore⟩, hafter⟩ := hsplit
    rw [Nat.sub_zero] at hbefore hafter
    rw [decode] at hbefore
    dsimp only
    rw [if_pos hflaw, hbefore]
    exact ⟨text, bytes.drop fault.position, rfl, hafter⟩

namespace Feed

/-- One more chunk is decoded if what is left of a file is UTF-8. -/
theorem more_of_isUtf8 {feed : Feed} (h : IsUtf8 (feed.held ++ feed.bytes)) :
    ∃ later, feed.more = .ok later ∧ IsUtf8 (later.held ++ later.bytes) := by
  rw [← List.take_append_drop (feed.chunkFor (pieceLength - feed.ready.length)) feed.bytes,
    ← List.append_assoc] at h
  obtain ⟨text, held, hchunk, hmore⟩ := decodeChunk_of_isUtf8 h
  unfold more
  dsimp only
  rw [hchunk]
  exact ⟨_, rfl, hmore⟩

/-- The pieces of a file that is UTF-8 go up to its end. -/
theorem pieces_of_isUtf8 (fuel : Nat) {feed : Feed} (h : IsUtf8 (feed.held ++ feed.bytes)) :
    (feed.pieces fuel).2 = none := by
  induction fuel generalizing feed with
  | zero => rfl
  | succ fuel ih =>
    unfold pieces
    split
    · exact @ih { feed with ready := feed.ready.drop pieceLength } h
    · split
      · next hend =>
        rw [List.isEmpty_iff.mp hend, List.append_nil] at h
        obtain ⟨text, htext⟩ := h
        unfold last
        rw [htext]
        rfl
      · obtain ⟨later, hlater, hleft⟩ := more_of_isUtf8 h
        rw [hlater]
        exact ih hleft

end Feed

/-- A file of one chunk whose bytes are no text cannot be read at all. -/
theorem ofBytes_of_decode_error {bytes : List UInt8} {fault : Utf8Fault} (hl : bytes.length ≤ chunkSize)
    (hd : decode bytes = .error fault) (hf : fault.flaw ≠ .cutShort) :
    ofBytes bytes = ⟨[], some (.fault (.notUtf8 fault))⟩ := by
  have hne : ¬bytes.isEmpty = true := by
    intro hempty
    rw [List.isEmpty_iff.mp hempty, decode, decodeFrom] at hd
    cases hd
  have hchunk : bytes.take (({ bytes } : Feed).chunkFor (pieceLength - 0)) = bytes :=
    List.take_of_length_le (Nat.le_trans hl (Nat.le_max_left _ _))
  have hmore : ({ bytes } : Feed).more = .error fault := by
    unfold Feed.more
    dsimp only [List.length_nil]
    rw [hchunk, List.nil_append, decodeChunk, hd]
    dsimp only
    rw [if_neg hf]
    rfl
  have hpieces : ({ bytes } : Feed).pieces (2 * bytes.length + 2) = ([], some fault) := by
    have hready : ¬pieceLength ≤ ([] : List Char).length := by decide
    unfold Feed.pieces
    rw [if_neg hready, if_neg hne, hmore]
  unfold ofBytes
  rw [hpieces]
  rfl

/-- Only what is met behind the pieces is met behind the text, apart from what no text may hold. -/
theorem allowed_wall {pieces : List (List Char)} {wall : Option Flaw} {fault : Fault}
    (h : (allowed pieces wall).wall = some (.fault fault)) : wall = some (.fault fault) := by
  induction pieces with
  | nil => exact h
  | cons piece pieces ih =>
    unfold allowed at h
    split at h
    · exact ih h
    · cases h

theorem ofPieces_wall {pieces : List (List Char)} {wall : Option Flaw} {fault : Fault}
    (h : (ofPieces pieces wall).wall = some (.fault fault)) : wall = some (.fault fault) := by
  unfold ofPieces at h
  split at h
  · exact allowed_wall h
  · split at h
    · exact h
    · cases allowed_wall h

/-- A fault behind the text of a file says that its bytes are not UTF-8. -/
theorem not_isUtf8_of_wall {bytes : List UInt8} {fault : Fault}
    (h : (ofBytes bytes).wall = some (.fault fault)) : ¬IsUtf8 bytes ∧ ∃ found, fault = .notUtf8 found := by
  have hwall : (({ bytes } : Feed).pieces (2 * bytes.length + 2)).2.map (fun found => Flaw.fault (.notUtf8 found)) =
      some (.fault fault) := ofPieces_wall h
  cases hpieces : (({ bytes } : Feed).pieces (2 * bytes.length + 2)).2 with
  | none =>
    rw [hpieces] at hwall
    cases hwall
  | some found =>
    rw [hpieces] at hwall
    cases hwall
    refine ⟨fun hutf8 => ?_, found, rfl⟩
    have hnone : (({ bytes } : Feed).pieces (2 * bytes.length + 2)).2 = none := Feed.pieces_of_isUtf8 _ hutf8
    rw [hnone] at hpieces
    cases hpieces

end Yaml.Supply

end Checkup
