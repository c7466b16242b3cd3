import Mathlib.Data.List.Basic
import SourceDigest.Text.Utf8

/-! Decoding is exact. What is read is one sequence after another, each of them the encoding of one
character, so that bytes decode to a text just where they are the encoding of that text. -/

namespace SourceDigest.Utf8

open List

variable {bs bytes rest : List UInt8} {n : Nat} {done text : List Char}

/-! ## Single sequences -/

/-- A sequence of bytes that is read as one character, and the code point in it. -/
inductive Sequence : List UInt8 → Nat → Prop
  | one {b : UInt8} (hmost : b.toNat < 0x80) : Sequence [b] b.toNat
  | two {b b₂ : UInt8} (hleast : 0xc2 ≤ b.toNat) (hmost : b.toNat < 0xe0)
      (h₂ : isContinuation b₂ = true) : Sequence [b, b₂] (extend (b.toNat - 0xc0) b₂)
  | three {b b₂ b₃ : UInt8} (hleast : 0xe0 ≤ b.toNat) (hmost : b.toNat < 0xf0)
      (h₂ : isSecond b b₂ = true) (h₃ : isContinuation b₃ = true) :
      Sequence [b, b₂, b₃] (extend (extend (b.toNat - 0xe0) b₂) b₃)
  | four {b b₂ b₃ b₄ : UInt8} (hleast : 0xf0 ≤ b.toNat) (hmost : b.toNat < 0xf5)
      (h₂ : isSecond b b₂ = true) (h₃ : isContinuation b₃ = true)
      (h₄ : isContinuation b₄ = true) :
      Sequence [b, b₂, b₃, b₄] (extend (extend (extend (b.toNat - 0xf0) b₂) b₃) b₄)

theorem isContinuation_iff {b : UInt8} :
    isContinuation b = true ↔ 0x80 ≤ b.toNat ∧ b.toNat < 0xc0 := by
  simp [isContinuation, UInt8.le_iff_toNat_le, UInt8.lt_iff_toNat_lt]

theorem isSecond_iff {b b₂ : UInt8} :
    isSecond b b₂ = true ↔ 0x80 ≤ b₂.toNat ∧ b₂.toNat < 0xc0 ∧
      (b.toNat = 0xe0 → 0xa0 ≤ b₂.toNat) ∧ (b.toNat = 0xed → b₂.toNat < 0xa0) ∧
      (b.toNat = 0xf0 → 0x90 ≤ b₂.toNat) ∧ (b.toNat = 0xf4 → b₂.toNat < 0x90) := by
  rw [isSecond, Bool.and_eq_true, isContinuation_iff, and_assoc]
  refine and_congr_right fun _ => and_congr_right fun _ => ?_
  by_cases he0 : b = 0xe0
  · simp [he0, UInt8.le_iff_toNat_le]
  by_cases hed : b = 0xed
  · simp [hed, UInt8.lt_iff_toNat_lt]
  by_cases hf0 : b = 0xf0
  · simp [hf0, UInt8.le_iff_toNat_le]
  by_cases hf4 : b = 0xf4
  · simp [hf4, UInt8.lt_iff_toNat_lt]
  simp_all [← UInt8.toNat_inj]

theorem not_lt_iff {b k : UInt8} : ¬ b < k ↔ k.toNat ≤ b.toNat := by
  rw [UInt8.lt_iff_toNat_lt, Nat.not_lt]

/-- A sequence is read as its character. -/
theorem Sequence.decodeFrom_append (h : Sequence bs n) :
    decodeFrom done (bs ++ rest) = decodeFrom (Char.ofNat n :: done) rest := by
  cases h with
  | one hmost =>
    rw [singleton_append, decodeFrom.eq_def]
    exact if_pos (UInt8.lt_iff_toNat_lt.mpr hmost)
  | @two b b₂ hleast hmost h₂ =>
    have hone : ¬ b < 0x80 := not_lt_iff.mpr (Nat.le_trans (by decide) hleast)
    have htwo : ¬ b < 0xc2 := not_lt_iff.mpr hleast
    have hthree : b < 0xe0 := UInt8.lt_iff_toNat_lt.mpr hmost
    rw [cons_append, singleton_append, decodeFrom.eq_def]
    dsimp only
    rw [if_neg hone, if_neg htwo, if_pos hthree, if_pos h₂]
  | @three b b₂ b₃ hleast hmost h₂ h₃ =>
    have hone : ¬ b < 0x80 := not_lt_iff.mpr (Nat.le_trans (by decide) hleast)
    have htwo : ¬ b < 0xc2 := not_lt_iff.mpr (Nat.le_trans (by decide) hleast)
    have hthree : ¬ b < 0xe0 := not_lt_iff.mpr hleast
    have hfour : b < 0xf0 := UInt8.lt_iff_toNat_lt.mpr hmost
    rw [cons_append, cons_append, singleton_append, decodeFrom.eq_def]
    dsimp only
    rw [if_neg hone, if_neg htwo, if_neg hthree, if_pos hfour, h₂, if_neg nofun, if_pos h₃]
  | @four b b₂ b₃ b₄ hleast hmost h₂ h₃ h₄ =>
    have hone : ¬ b < 0x80 := not_lt_iff.mpr (Nat.le_trans (by decide) hleast)
    have htwo : ¬ b < 0xc2 := not_lt_iff.mpr (Nat.le_trans (by decide) hleast)
    have hthree : ¬ b < 0xe0 := not_lt_iff.mpr (Nat.le_trans (by decide) hleast)
    have hfour : ¬ b < 0xf0 := not_lt_iff.mpr hleast
    have hlast : b < 0xf5 := UInt8.lt_iff_toNat_lt.mpr hmost
    rw [cons_append, cons_append, cons_append, singleton_append, decodeFrom.eq_def]
    dsimp only
    rw [if_neg hone, if_neg htwo, if_neg hthree, if_neg hfour, if_pos hlast, h₂, if_neg nofun, h₃,
      if_neg nofun, if_pos h₄]

/-- Bytes start with a sequence, and what is left is read after its character. -/
def ReadsOne (done : List Char) (bytes : List UInt8) (text : List Char) : Prop :=
  ∃ bs n rest, Sequence bs n ∧ bytes = bs ++ rest ∧
    decodeFrom (Char.ofNat n :: done) rest = .ok text

section FirstByte

variable {b : UInt8}

theorem readsOne_of_two (hleast : ¬ b < 0xc2) (hmost : b < 0xe0)
    (h : decodeFrom done (b :: rest) = .ok text) : ReadsOne done (b :: rest) text := by
  have hone : ¬ b < 0x80 := fun hlt => hleast (UInt8.lt_trans hlt (by decide))
  rw [decodeFrom.eq_def] at h
  dsimp only at h
  rw [if_neg hone, if_neg hleast, if_pos hmost] at h
  split at h
  · cases h
  · split at h
    · rename_i h₂
      exact ⟨_, _, _, .two (not_lt_iff.mp hleast) (UInt8.lt_iff_toNat_lt.mp hmost) h₂, rfl, h⟩
    · cases h

theorem readsOne_of_three (hleast : ¬ b < 0xe0) (hmost : b < 0xf0)
    (h : decodeFrom done (b :: rest) = .ok text) : ReadsOne done (b :: rest) text := by
  have hone : ¬ b < 0x80 := fun hlt => hleast (UInt8.lt_trans hlt (by decide))
  have htwo : ¬ b < 0xc2 := fun hlt => hleast (UInt8.lt_trans hlt (by decide))
  rw [decodeFrom.eq_def] at h
  dsimp only at h
  rw [if_neg hone, if_neg htwo, if_neg hleast, if_pos hmost] at h
  split at h
  · cases h
  · split at h
    · cases h
    · rename_i h₂
      rw [Bool.not_eq_true', Bool.not_eq_false] at h₂
      split at h
      · cases h
      · split at h
        · rename_i h₃
          exact ⟨_, _, _, .three (not_lt_iff.mp hleast) (UInt8.lt_iff_toNat_lt.mp hmost) h₂ h₃, rfl,
            h⟩
        · cases h

theorem readsOne_of_four (hleast : ¬ b < 0xf0) (hmost : b < 0xf5)
    (h : decodeFrom done (b :: rest) = .ok text) : ReadsOne done (b :: rest) text := by
  have hone : ¬ b < 0x80 := fun hlt => hleast (UInt8.lt_trans hlt (by decide))
  have htwo : ¬ b < 0xc2 := fun hlt => hleast (UInt8.lt_trans hlt (by decide))
  have hthree : ¬ b < 0xe0 := fun hlt => hleast (UInt8.lt_trans hlt (by decide))
  rw [decodeFrom.eq_def] at h
  dsimp only at h
  rw [if_neg hone, if_neg htwo, if_neg hthree, if_neg hleast, if_pos hmost] at h
  split at h
  · cases h
  · split at h
    · cases h
    · rename_i h₂
      rw [Bool.not_eq_true', Bool.not_eq_false] at h₂
      split at h
      · cases h
      · split at h
        · cases h
        · rename_i h₃
          rw [Bool.not_eq_true', Bool.not_eq_false] at h₃
          split at h
          · cases h
          · split at h
            · rename_i h₄
              exact ⟨_, _, _,
                .four (not_lt_iff.mp hleast) (UInt8.lt_iff_toNat_lt.mp hmost) h₂ h₃ h₄, rfl, h⟩
            · cases h

end FirstByte

/-- What is read starts with a sequence, unless it is empty. -/
theorem readsOne_of_decodeFrom (hne : bytes ≠ []) (h : decodeFrom done bytes = .ok text) :
    ReadsOne done bytes text := by
  obtain ⟨b, rest, rfl⟩ := exists_cons_of_ne_nil hne
  by_cases hone : b < 0x80
  · rw [decodeFrom.eq_def] at h
    dsimp only at h
    rw [if_pos hone] at h
    exact ⟨_, _, _, .one (UInt8.lt_iff_toNat_lt.mp hone), rfl, h⟩
  by_cases hleast : b < 0xc2
  · rw [decodeFrom.eq_def] at h
    dsimp only at h
    rw [if_neg hone, if_pos hleast] at h
    cases h
  by_cases htwo : b < 0xe0
  · exact readsOne_of_two hleast htwo h
  by_cases hthree : b < 0xf0
  · exact readsOne_of_three htwo hthree h
  by_cases hfour : b < 0xf5
  · exact readsOne_of_four hthree hfour h
  · rw [decodeFrom.eq_def] at h
    dsimp only at h
    rw [if_neg hone, if_neg hleast, if_neg htwo, if_neg hthree, if_neg hfour] at h
    cases h

theorem Sequence.isValidChar (h : Sequence bs n) : n.isValidChar := by
  cases h with
  | one hmost =>
    unfold Nat.isValidChar
    omega
  | two hleast hmost h₂ =>
    rw [isContinuation_iff] at h₂
    unfold Nat.isValidChar extend
    omega
  | three hleast hmost h₂ h₃ =>
    rw [isSecond_iff] at h₂
    rw [isContinuation_iff] at h₃
    unfold Nat.isValidChar extend
    omega
  | four hleast hmost h₂ h₃ h₄ =>
    rw [isSecond_iff] at h₂
    rw [isContinuation_iff] at h₃ h₄
    unfold Nat.isValidChar extend
    omega

theorem ofNat_eq {k : Nat} {b : UInt8} (h : k = b.toNat) : UInt8.ofNat k = b :=
  h ▸ UInt8.ofNat_toNat

/-- A sequence is the encoding of its character. -/
theorem Sequence.encode_eq (h : Sequence bs n) :
    String.utf8EncodeChar (Char.ofNat n) = bs := by
  have hval : (Char.ofNat n).val.toNat = n := by
    rw [Char.ofNat, dif_pos h.isValidChar]
    rfl
  unfold String.utf8EncodeChar
  rw [hval]
  cases h with
  | one hmost =>
    rw [if_pos (by omega), UInt8.ofNat_toNat]
  | two hleast hmost h₂ =>
    rw [isContinuation_iff] at h₂
    unfold extend
    rw [if_neg (by omega), if_pos (by omega)]
    simp only [cons.injEq, and_true]
    exact ⟨ofNat_eq (by omega), ofNat_eq (by omega)⟩
  | three hleast hmost h₂ h₃ =>
    rw [isSecond_iff] at h₂
    rw [isContinuation_iff] at h₃
    unfold extend
    rw [if_neg (by omega), if_neg (by omega), if_pos (by omega)]
    simp only [cons.injEq, and_true]
    exact ⟨ofNat_eq (by omega), ofNat_eq (by omega), ofNat_eq (by omega)⟩
  | four hleast hmost h₂ h₃ h₄ =>
    rw [isSecond_iff] at h₂
    rw [isContinuation_iff] at h₃ h₄
    unfold extend
    rw [if_neg (by omega), if_neg (by omega), if_neg (by omega)]
    simp only [cons.injEq, and_true]
    exact ⟨ofNat_eq (by omega), ofNat_eq (by omega), ofNat_eq (by omega), ofNat_eq (by omega)⟩

/-- The encoding of a character is a sequence for it. -/
theorem sequence_encode (c : Char) : Sequence (String.utf8EncodeChar c) c.toNat := by
  have hvalid : c.val.toNat.isValidChar := c.valid
  unfold Nat.isValidChar at hvalid
  have hbyte : ∀ k < 256, (UInt8.ofNat k).toNat = k := fun k hk => UInt8.toNat_ofNat_of_lt hk
  unfold String.utf8EncodeChar
  change Sequence _ c.val.toNat
  generalize c.val.toNat = n at *
  dsimp only
  split_ifs with hone htwo hthree
  · have hb := hbyte n (by omega)
    have hseq : Sequence [UInt8.ofNat n] (UInt8.ofNat n).toNat := .one (by omega)
    rwa [hb] at hseq
  · have hb := hbyte (n / 64 % 32 + 192) (by omega)
    have hb₂ := hbyte (n % 64 + 128) (by omega)
    generalize UInt8.ofNat (n / 64 % 32 + 192) = b at *
    generalize UInt8.ofNat (n % 64 + 128) = b₂ at *
    have hn : extend (b.toNat - 0xc0) b₂ = n := by
      unfold extend
      omega
    have hseq : Sequence [b, b₂] (extend (b.toNat - 0xc0) b₂) :=
      .two (by omega) (by omega) (isContinuation_iff.mpr (by omega))
    rwa [hn] at hseq
  · have hb := hbyte (n / 4096 % 16 + 224) (by omega)
    have hb₂ := hbyte (n / 64 % 64 + 128) (by omega)
    have hb₃ := hbyte (n % 64 + 128) (by omega)
    generalize UInt8.ofNat (n / 4096 % 16 + 224) = b at *
    generalize UInt8.ofNat (n / 64 % 64 + 128) = b₂ at *
    generalize UInt8.ofNat (n % 64 + 128) = b₃ at *
    have hn : extend (extend (b.toNat - 0xe0) b₂) b₃ = n := by
      unfold extend
      omega
    have hseq : Sequence [b, b₂, b₃] (extend (extend (b.toNat - 0xe0) b₂) b₃) :=
      .three (by omega) (by omega) (isSecond_iff.mpr (by omega)) (isContinuation_iff.mpr (by omega))
    rwa [hn] at hseq
  · have hb := hbyte (n / 262144 % 8 + 240) (by omega)
    have hb₂ := hbyte (n / 4096 % 64 + 128) (by omega)
    have hb₃ := hbyte (n / 64 % 64 + 128) (by omega)
    have hb₄ := hbyte (n % 64 + 128) (by omega)
    generalize UInt8.ofNat (n / 262144 % 8 + 240) = b at *
    generalize UInt8.ofNat (n / 4096 % 64 + 128) = b₂ at *
    generalize UInt8.ofNat (n / 64 % 64 + 128) = b₃ at *
    generalize UInt8.ofNat (n % 64 + 128) = b₄ at *
    have hn : extend (extend (extend (b.toNat - 0xf0) b₂) b₃) b₄ = n := by
      unfold extend
      omega
    have hseq : Sequence [b, b₂, b₃, b₄] (extend (extend (extend (b.toNat - 0xf0) b₂) b₃) b₄) :=
      .four (by omega) (by omega) (isSecond_iff.mpr (by omega))
        (isContinuation_iff.mpr (by omega)) (isContinuation_iff.mpr (by omega))
    rwa [hn] at hseq

/-! ## Whole texts -/

theorem decodeFrom_eq_ok_iff :
    decodeFrom done bytes = .ok text ↔
      ∃ tail, text = done.reverse ++ tail ∧ bytes = tail.flatMap String.utf8EncodeChar := by
  constructor
  · intro h
    induction hlength : bytes.length using Nat.strongRecOn generalizing done bytes with
    | _ length ih =>
      rcases eq_or_ne bytes [] with rfl | hne
      · cases h
        exact ⟨[], by simp⟩
      · obtain ⟨bs, n, rest, hseq, rfl, hrest⟩ := readsOne_of_decodeFrom hne h
        have hpos : 0 < bs.length := by cases hseq <;> simp
        obtain ⟨tail, rfl, rfl⟩ := ih rest.length (by simp [← hlength, hpos]) hrest rfl
        exact ⟨Char.ofNat n :: tail, by simp [hseq.encode_eq]⟩
  · rintro ⟨tail, rfl, rfl⟩
    induction tail generalizing done with
    | nil => simp [decodeFrom]
    | cons c tail ih =>
      rw [flatMap_cons, (sequence_encode c).decodeFrom_append, Char.ofNat_toNat, ih]
      simp

theorem toList_eq (bytes : ByteArray) : bytes.toList = bytes.data.toList := by
  -- the loop holds the bytes that it has read, the last one first
  have hloop : ∀ i read, read.reverse = bytes.data.toList.take i →
      ByteArray.toList.loop bytes i read = bytes.data.toList := by
    intro i read
    fun_induction ByteArray.toList.loop bytes i read with
    | case1 i read h ih =>
      intro hread
      have hi : i < bytes.data.toList.length := by simpa using h
      refine ih ?_
      rw [reverse_cons, hread, take_add_one, getElem?_eq_getElem hi]
      simp [ByteArray.get!, h]
    | case2 i read h =>
      intro hread
      rw [hread, take_of_length_le (by simpa using h)]
  exact hloop 0 [] rfl

/-- Bytes decode to a text where they are its encoding. -/
theorem decode_eq_ok_iff {bytes : ByteArray} :
    decode bytes = .ok text ↔ bytes = text.utf8Encode := by
  rw [decode, decodeFrom_eq_ok_iff, toList_eq]
  constructor
  · rintro ⟨tail, rfl, hbytes⟩
    change bytes = (text.flatMap String.utf8EncodeChar).toByteArray
    rw [← hbytes]
    exact ByteArray.ext (by simp)
  · rintro rfl
    exact ⟨text, rfl, by simp [utf8Encode]⟩

end SourceDigest.Utf8
