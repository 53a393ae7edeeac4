import Checkup.Text.Utf8
import Mathlib.Data.List.Basic

/-!
# Texts and their bytes

Bytes are read as a text strictly: what is read are the characters that are written as these
bytes, and whatever is written is read. So bytes are read exactly if they are those of a text.
-/

namespace Checkup.Text

/-- The bytes that are put into an array are those that it lists. -/
theorem toList_toByteArray (bytes : List UInt8) : bytes.toByteArray.toList = bytes := by
  have hloop : ∀ (array : ByteArray) (rest : List UInt8) (position : Nat) (front : List UInt8),
      array.data.toList.drop position = rest →
        ByteArray.toList.loop array position front = front.reverse ++ rest := by
    intro array rest
    induction rest with
    | nil =>
      intro position front h
      have hlen : ¬ position < array.size := by
        have hle := List.drop_eq_nil_iff.mp h
        rw [Array.length_toList] at hle
        exact Nat.not_lt.mpr hle
      rw [ByteArray.toList.loop, if_neg hlen, List.append_nil]
    | cons byte rest ih =>
      intro position front h
      have hlt : position < array.data.toList.length := by
        by_contra hn
        rw [List.drop_eq_nil_of_le (Nat.le_of_not_lt hn)] at h
        cases h
      rw [List.drop_eq_getElem_cons hlt] at h
      obtain ⟨hbyte, hrest⟩ := List.cons.inj h
      have hsize : position < array.size := by rwa [Array.length_toList] at hlt
      have hget : array.get! position = byte := by
        rw [← hbyte, Array.getElem_toList]
        exact getElem!_pos array.data position hsize
      rw [ByteArray.toList.loop, if_pos hsize, ih (position + 1) (_ :: front) hrest, hget,
        List.reverse_cons, List.append_assoc, List.singleton_append]
  refine hloop bytes.toByteArray bytes 0 [] ?_
  rw [List.drop_zero, List.toList_data_toByteArray]

/-- A text has the bytes of its characters, one after the other. -/
theorem encode_ofList (text : List Char) :
    encode (String.ofList text) = text.flatMap String.utf8EncodeChar :=
  toList_toByteArray _

/-- A byte with this number. -/
theorem ofNat_eq {number : Nat} (byte : UInt8) (h : number = byte.toNat) : UInt8.ofNat number = byte := by
  rw [h, UInt8.ofNat_toNat]

/-- A small number is that of a byte. -/
theorem exists_ofNat_eq {number : Nat} (h : number < 256) :
    ∃ byte : UInt8, UInt8.ofNat number = byte ∧ byte.toNat = number :=
  ⟨_, rfl, by rw [UInt8.toNat_ofNat', Nat.mod_eq_of_lt h]⟩

/-- The continuation bytes by their numbers. -/
theorem isContinuation_iff {byte : UInt8} :
    isContinuation byte = true ↔ 128 ≤ byte.toNat ∧ byte.toNat < 192 := by
  simp [isContinuation, UInt8.lt_iff_toNat_lt, UInt8.le_iff_toNat_le]

/-- The second bytes by their numbers. -/
theorem isSecond_iff {first second : UInt8} :
    isSecond first second = true ↔ (128 ≤ second.toNat ∧ second.toNat < 192) ∧
      (first.toNat = 224 → 160 ≤ second.toNat) ∧ (first.toNat = 237 → second.toNat < 160) ∧
        (first.toNat = 240 → 144 ≤ second.toNat) ∧ (first.toNat = 244 → second.toNat < 144) := by
  have hne : ∀ byte : UInt8, (first != byte) = true ↔ first.toNat ≠ byte.toNat := by
    intro byte
    simp [UInt8.toNat_inj]
  simp only [isSecond, Bool.and_eq_true, Bool.or_eq_true, isContinuation_iff, hne, decide_eq_true_eq,
    UInt8.lt_iff_toNat_lt, UInt8.le_iff_toNat_le]
  change (((_ ∧ (first.toNat ≠ 224 ∨ 160 ≤ second.toNat)) ∧ (first.toNat ≠ 237 ∨ second.toNat < 160)) ∧
    (first.toNat ≠ 240 ∨ 144 ≤ second.toNat)) ∧ (first.toNat ≠ 244 ∨ second.toNat < 144) ↔ _
  omega

/-- The number of a character that is made from an admitted number. -/
theorem val_ofNat {code : Nat} (h : code.isValidChar) : (Char.ofNat code).val.toNat = code := by
  unfold Char.ofNat
  rw [dif_pos h]
  rfl

/-- The bytes of a character that is made from an admitted number. -/
theorem encodeChar_ofNat {code : Nat} (h : code.isValidChar) :
    String.utf8EncodeChar (Char.ofNat code) =
      if code ≤ 127 then [UInt8.ofNat code]
      else if code ≤ 2047 then [UInt8.ofNat (code / 64 % 32 + 192), UInt8.ofNat (code % 64 + 128)]
      else if code ≤ 65535 then
        [UInt8.ofNat (code / 4096 % 16 + 224), UInt8.ofNat (code / 64 % 64 + 128),
          UInt8.ofNat (code % 64 + 128)]
      else
        [UInt8.ofNat (code / 262144 % 8 + 240), UInt8.ofNat (code / 4096 % 64 + 128),
          UInt8.ofNat (code / 64 % 64 + 128), UInt8.ofNat (code % 64 + 128)] := by
  unfold String.utf8EncodeChar
  dsimp only
  rw [val_ofNat h]

namespace Utf8Head

variable {first second third fourth : UInt8} {rest : List UInt8} {c : Char}

/-! ## What is read is written -/

/-- The character of two bytes is written as these. -/
theorem encodeChar_two (hl : 194 ≤ first.toNat) (hu : first.toNat < 224)
    (hs : isSecond first second = true) :
    String.utf8EncodeChar (Char.ofNat (pushBits (first.toNat - 0xC0) second)) = [first, second] := by
  obtain ⟨hsecond, -⟩ := isSecond_iff.mp hs
  unfold pushBits
  rw [encodeChar_ofNat (.inl (by omega)), if_neg (by omega), if_pos (by omega),
    ofNat_eq first (by omega), ofNat_eq second (by omega)]

/-- The character of three bytes is written as these. -/
theorem encodeChar_three (hl : 224 ≤ first.toNat) (hu : first.toNat < 240)
    (hs : isSecond first second = true) (ht : isContinuation third = true) :
    String.utf8EncodeChar (Char.ofNat (pushBits (pushBits (first.toNat - 0xE0) second) third)) =
      [first, second, third] := by
  obtain ⟨hsecond, hshort, hsurrogate, -⟩ := isSecond_iff.mp hs
  have hthird := isContinuation_iff.mp ht
  unfold pushBits
  rw [encodeChar_ofNat (by unfold Nat.isValidChar; omega), if_neg (by omega), if_neg (by omega), if_pos (by omega),
    ofNat_eq first (by omega), ofNat_eq second (by omega), ofNat_eq third (by omega)]

/-- The character of four bytes is written as these. -/
theorem encodeChar_four (hl : 240 ≤ first.toNat) (hu : first.toNat < 245)
    (hs : isSecond first second = true) (ht : isContinuation third = true)
    (hf : isContinuation fourth = true) :
    String.utf8EncodeChar
        (Char.ofNat (pushBits (pushBits (pushBits (first.toNat - 0xF0) second) third) fourth)) =
      [first, second, third, fourth] := by
  obtain ⟨hsecond, -, -, hshort, hlarge⟩ := isSecond_iff.mp hs
  have hthird := isContinuation_iff.mp ht
  have hfourth := isContinuation_iff.mp hf
  unfold pushBits
  rw [encodeChar_ofNat (by unfold Nat.isValidChar; omega), if_neg (by omega), if_neg (by omega), if_neg (by omega),
    ofNat_eq first (by omega), ofNat_eq second (by omega), ofNat_eq third (by omega),
    ofNat_eq fourth (by omega)]

/-- What is read as a character is what the character is written as. -/
theorem encodeChar_of_read {further : Nat} (h : read first rest = .char c further) :
    String.utf8EncodeChar c = first :: rest.take further := by
  by_cases h1 : first < 0x80
  · simp only [read, if_pos h1] at h
    obtain ⟨rfl, rfl⟩ := char.inj h
    have hfirst : first.toNat < 128 := UInt8.lt_iff_toNat_lt.mp h1
    rw [encodeChar_ofNat (.inl (by omega)), if_pos (by omega), UInt8.ofNat_toNat, List.take_zero]
  by_cases h2 : first < 0xC2
  · simp only [read, if_neg h1, if_pos h2] at h
    cases h
  have htwo : 194 ≤ first.toNat := UInt8.le_iff_toNat_le.mp (UInt8.not_lt.mp h2)
  by_cases h3 : first < 0xE0
  · simp only [read, if_neg h1, if_neg h2, if_pos h3] at h
    split at h
    · cases h
    · next second rest =>
      split at h
      · next hs =>
        obtain ⟨rfl, rfl⟩ := char.inj h
        exact encodeChar_two htwo (UInt8.lt_iff_toNat_lt.mp h3) hs
      · cases h
  have hthree : 224 ≤ first.toNat := UInt8.le_iff_toNat_le.mp (UInt8.not_lt.mp h3)
  by_cases h4 : first < 0xF0
  · simp only [read, if_neg h1, if_neg h2, if_neg h3, if_pos h4] at h
    split at h
    · cases h
    · next second rest =>
      split at h
      · next hs =>
        split at h
        · cases h
        · next third rest =>
          split at h
          · next ht =>
            obtain ⟨rfl, rfl⟩ := char.inj h
            exact encodeChar_three hthree (UInt8.lt_iff_toNat_lt.mp h4) hs ht
          · cases h
      · cases h
  have hfour : 240 ≤ first.toNat := UInt8.le_iff_toNat_le.mp (UInt8.not_lt.mp h4)
  by_cases h5 : first < 0xF5
  · simp only [read, if_neg h1, if_neg h2, if_neg h3, if_neg h4, if_pos h5] at h
    split at h
    · cases h
    · next second rest =>
      split at h
      · next hs =>
        split at h
        · cases h
        · next third rest =>
          split at h
          · next ht =>
            split at h
            · cases h
            · next fourth rest =>
              split at h
              · next hf =>
                obtain ⟨rfl, rfl⟩ := char.inj h
                exact encodeChar_four hfour (UInt8.lt_iff_toNat_lt.mp h5) hs ht hf
              · cases h
          · cases h
      · cases h
  · simp only [read, if_neg h1, if_neg h2, if_neg h3, if_neg h4, if_neg h5] at h
    cases h

/-! ## What is written is read -/

/-- One small byte is read as the character with its number. -/
theorem read_one (h : first.toNat < 128) : read first rest = .char (Char.ofNat first.toNat) 0 := by
  have h1 : first < 0x80 := UInt8.lt_iff_toNat_lt.mpr h
  simp only [read, if_pos h1]

/-- Two bytes are read as a character if the second may follow the first. -/
theorem read_two (hl : 194 ≤ first.toNat) (hu : first.toNat < 224) (hs : isSecond first second = true) :
    read first (second :: rest) = .char (Char.ofNat (pushBits (first.toNat - 0xC0) second)) 1 := by
  have h1 : ¬ first < 0x80 := UInt8.not_lt.mpr (UInt8.le_iff_toNat_le.mpr (Nat.le_trans (by decide) hl))
  have h2 : ¬ first < 0xC2 := UInt8.not_lt.mpr (UInt8.le_iff_toNat_le.mpr hl)
  have h3 : first < 0xE0 := UInt8.lt_iff_toNat_lt.mpr hu
  simp only [read, if_neg h1, if_neg h2, if_pos h3, if_pos hs]

/-- Three bytes are read as a character if the second may follow the first. -/
theorem read_three (hl : 224 ≤ first.toNat) (hu : first.toNat < 240) (hs : isSecond first second = true)
    (ht : isContinuation third = true) :
    read first (second :: third :: rest) =
      .char (Char.ofNat (pushBits (pushBits (first.toNat - 0xE0) second) third)) 2 := by
  have h1 : ¬ first < 0x80 := UInt8.not_lt.mpr (UInt8.le_iff_toNat_le.mpr (Nat.le_trans (by decide) hl))
  have h2 : ¬ first < 0xC2 := UInt8.not_lt.mpr (UInt8.le_iff_toNat_le.mpr (Nat.le_trans (by decide) hl))
  have h3 : ¬ first < 0xE0 := UInt8.not_lt.mpr (UInt8.le_iff_toNat_le.mpr hl)
  have h4 : first < 0xF0 := UInt8.lt_iff_toNat_lt.mpr hu
  simp only [read, if_neg h1, if_neg h2, if_neg h3, if_pos h4, if_pos hs, if_pos ht]

/-- Four bytes are read as a character if the second may follow the first. -/
theorem read_four (hl : 240 ≤ first.toNat) (hu : first.toNat < 245) (hs : isSecond first second = true)
    (ht : isContinuation third = true) (hf : isContinuation fourth = true) :
    read first (second :: third :: fourth :: rest) =
      .char (Char.ofNat (pushBits (pushBits (pushBits (first.toNat - 0xF0) second) third) fourth)) 3 := by
  have h1 : ¬ first < 0x80 := UInt8.not_lt.mpr (UInt8.le_iff_toNat_le.mpr (Nat.le_trans (by decide) hl))
  have h2 : ¬ first < 0xC2 := UInt8.not_lt.mpr (UInt8.le_iff_toNat_le.mpr (Nat.le_trans (by decide) hl))
  have h3 : ¬ first < 0xE0 := UInt8.not_lt.mpr (UInt8.le_iff_toNat_le.mpr (Nat.le_trans (by decide) hl))
  have h4 : ¬ first < 0xF0 := UInt8.not_lt.mpr (UInt8.le_iff_toNat_le.mpr hl)
  have h5 : first < 0xF5 := UInt8.lt_iff_toNat_lt.mpr hu
  simp only [read, if_neg h1, if_neg h2, if_neg h3, if_neg h4, if_pos h5, if_pos hs, if_pos ht, if_pos hf]

/-- What a character is written as is read as the character, whatever stands behind it. -/
theorem exists_read_encodeChar (c : Char) :
    ∃ first rest, String.utf8EncodeChar c = first :: rest ∧
      ∀ more, read first (rest ++ more) = .char c rest.length := by
  obtain ⟨code, hvalid, rfl⟩ : ∃ code : Nat, code.isValidChar ∧ c = Char.ofNat code :=
    ⟨c.toNat, c.valid, (Char.ofNat_toNat c).symm⟩
  have hbound : code < 1114112 := by
    unfold Nat.isValidChar at hvalid
    omega
  rw [encodeChar_ofNat hvalid]
  by_cases h1 : code ≤ 127
  · obtain ⟨first, hf, hfirst⟩ := exists_ofNat_eq (by omega : code < 256)
    refine ⟨first, [], by rw [if_pos h1, hf], fun more => ?_⟩
    refine (read_one (by omega)).trans ?_
    rw [hfirst, List.length_nil]
  obtain ⟨last, hl, hlast⟩ := exists_ofNat_eq (by omega : code % 64 + 128 < 256)
  by_cases h2 : code ≤ 2047
  · obtain ⟨first, hf, hfirst⟩ := exists_ofNat_eq (by omega : code / 64 % 32 + 192 < 256)
    have hcode : pushBits (first.toNat - 0xC0) last = code := by
      unfold pushBits
      omega
    refine ⟨first, [last], by rw [if_neg h1, if_pos h2, hf, hl], fun more => ?_⟩
    refine (read_two (by omega) (by omega) (isSecond_iff.mpr (by omega))).trans ?_
    rw [hcode, List.length_singleton]
  obtain ⟨middle, hm, hmiddle⟩ := exists_ofNat_eq (by omega : code / 64 % 64 + 128 < 256)
  by_cases h3 : code ≤ 65535
  · obtain ⟨first, hf, hfirst⟩ := exists_ofNat_eq (by omega : code / 4096 % 16 + 224 < 256)
    have hcode : pushBits (pushBits (first.toNat - 0xE0) middle) last = code := by
      unfold pushBits
      omega
    have hsecond : isSecond first middle = true := by
      unfold Nat.isValidChar at hvalid
      exact isSecond_iff.mpr (by omega)
    refine ⟨first, [middle, last], by rw [if_neg h1, if_neg h2, if_pos h3, hf, hm, hl], fun more => ?_⟩
    refine (read_three (by omega) (by omega) hsecond (isContinuation_iff.mpr (by omega))).trans ?_
    rw [hcode, List.length_cons, List.length_singleton]
  · obtain ⟨first, hf, hfirst⟩ := exists_ofNat_eq (by omega : code / 262144 % 8 + 240 < 256)
    obtain ⟨second, hs, hsecond⟩ := exists_ofNat_eq (by omega : code / 4096 % 64 + 128 < 256)
    have hcode : pushBits (pushBits (pushBits (first.toNat - 0xF0) second) middle) last = code := by
      unfold pushBits
      omega
    refine ⟨first, [second, middle, last], by rw [if_neg h1, if_neg h2, if_neg h3, hf, hs, hm, hl],
      fun more => ?_⟩
    refine (read_four (by omega) (by omega) (isSecond_iff.mpr (by omega)) (isContinuation_iff.mpr (by omega))
      (isContinuation_iff.mpr (by omega))).trans ?_
    rw [hcode]
    rfl

end Utf8Head

/-! ## Whole texts -/

/-- Bytes that are read are those of the characters that are read. -/
theorem eq_flatMap_of_decodeFrom {position : Nat} {bytes : List UInt8} {text : List Char}
    (h : decodeFrom position bytes = .ok text) : bytes = text.flatMap String.utf8EncodeChar := by
  induction position, bytes using decodeFrom.induct generalizing text with
  | case1 position =>
    rw [decodeFrom] at h
    cases h
    rfl
  | case2 position first rest c further hread found hmore ih =>
    rw [decodeFrom, hread] at h
    dsimp only at h
    rw [hmore] at h
    cases h
    rw [List.flatMap_cons, Utf8Head.encodeChar_of_read hread, ← ih hmore, List.cons_append,
      List.take_append_drop]
  | case3 position first rest c further hread fault hmore ih =>
    rw [decodeFrom, hread] at h
    dsimp only at h
    rw [hmore] at h
    cases h
  | case4 position first rest flaw further hread =>
    rw [decodeFrom, hread] at h
    cases h

/-- The bytes of characters are read as these. -/
theorem decodeFrom_flatMap (position : Nat) (text : List Char) :
    decodeFrom position (text.flatMap String.utf8EncodeChar) = .ok text := by
  induction text generalizing position with
  | nil => rw [List.flatMap_nil, decodeFrom]
  | cons c text ih =>
    obtain ⟨first, rest, hbytes, hread⟩ := Utf8Head.exists_read_encodeChar c
    rw [List.flatMap_cons, hbytes, List.cons_append, decodeFrom, hread]
    dsimp only
    rw [List.drop_left, ih]

/-- Bytes are read as the text that they are the bytes of, and as no other. -/
theorem decode_eq_ok_iff {bytes : List UInt8} {text : List Char} :
    decode bytes = .ok text ↔ bytes = encode (String.ofList text) := by
  rw [encode_ofList]
  constructor
  · exact eq_flatMap_of_decodeFrom
  · rintro rfl
    exact decodeFrom_flatMap 0 text

end Checkup.Text
