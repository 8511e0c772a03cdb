import Mathlib
import SchemaCatalog.Proofs.ByteOrder
/-!
# Text read back from its bytes

The bytes of a character are read as that character, whatever follows them, so the bytes of a text are
read as the text (`Text.Utf8.decode_encode`).
-/

namespace SchemaCatalog.Text.Utf8

variable {b₀ b₁ b₂ b₃ : UInt8}

/-! ## Forms of one to four bytes -/

theorem decodeFrom_one (h₀ : b₀.toNat < 0x80) (index : Nat) (rest : List UInt8) :
    decodeFrom index (b₀ :: rest) =
      (decodeFrom (index + 1) rest).map (Char.ofNat b₀.toNat :: ·) := by
  have hone : b₀ < 0x80 := UInt8.lt_iff_toNat_lt.2 h₀
  rw [decodeFrom.eq_def]
  simp [hone]

theorem decodeFrom_two (h₀ : 0xC2 ≤ b₀.toNat ∧ b₀.toNat ≤ 0xDF) (h₁ : isContinuation b₁)
    (index : Nat) (rest : List UInt8) :
    decodeFrom index (b₀ :: b₁ :: rest) = (decodeFrom (index + 2) rest).map
      (Char.ofNat (b₀.toNat % 0x20 * 0x40 + tail b₁) :: ·) := by
  obtain ⟨hone, htwo⟩ : ¬ b₀ < 0x80 ∧ 0xC2 ≤ b₀ ∧ b₀ ≤ 0xDF := by
    simp only [UInt8.lt_iff_toNat_lt, UInt8.le_iff_toNat_le, UInt8.reduceToNat]
    omega
  rw [decodeFrom.eq_def]
  simp [hone, htwo, h₁]

theorem decodeFrom_three (h₀ : 0xE0 ≤ b₀.toNat ∧ b₀.toNat ≤ 0xEF) (h₁ : fitsThree b₀ b₁)
    (h₂ : isContinuation b₂) (index : Nat) (rest : List UInt8) :
    decodeFrom index (b₀ :: b₁ :: b₂ :: rest) = (decodeFrom (index + 3) rest).map
      (Char.ofNat ((b₀.toNat % 0x10 * 0x40 + tail b₁) * 0x40 + tail b₂) :: ·) := by
  obtain ⟨hone, htwo, hthree⟩ :
      ¬ b₀ < 0x80 ∧ ¬ (0xC2 ≤ b₀ ∧ b₀ ≤ 0xDF) ∧ 0xE0 ≤ b₀ ∧ b₀ ≤ 0xEF := by
    simp only [UInt8.lt_iff_toNat_lt, UInt8.le_iff_toNat_le, UInt8.reduceToNat]
    omega
  rw [decodeFrom.eq_def]
  simp [hone, htwo, hthree, h₁, h₂]

theorem decodeFrom_four (h₀ : 0xF0 ≤ b₀.toNat ∧ b₀.toNat ≤ 0xF4) (h₁ : fitsFour b₀ b₁)
    (h₂ : isContinuation b₂) (h₃ : isContinuation b₃) (index : Nat) (rest : List UInt8) :
    decodeFrom index (b₀ :: b₁ :: b₂ :: b₃ :: rest) = (decodeFrom (index + 4) rest).map
      (Char.ofNat (((b₀.toNat % 8 * 0x40 + tail b₁) * 0x40 + tail b₂) * 0x40 + tail b₃) :: ·) := by
  obtain ⟨hone, htwo, hthree, hfour⟩ : ¬ b₀ < 0x80 ∧ ¬ (0xC2 ≤ b₀ ∧ b₀ ≤ 0xDF) ∧
      ¬ (0xE0 ≤ b₀ ∧ b₀ ≤ 0xEF) ∧ 0xF0 ≤ b₀ ∧ b₀ ≤ 0xF4 := by
    simp only [UInt8.lt_iff_toNat_lt, UInt8.le_iff_toNat_le, UInt8.reduceToNat]
    omega
  rw [decodeFrom.eq_def]
  simp [hone, htwo, hthree, hfour, h₁, h₂, h₃]

/-! ## The bytes of a character -/

theorem tail_continuation (n : Nat) : tail (continuation n) = n % 0x40 := by
  rw [tail, toNat_continuation]
  omega

theorem fitsThree_continuation {n : Nat} (h : 0x800 ≤ n) (h' : n < 0xD800 ∨ 0xDFFF < n)
    (h₀ : b₀.toNat = 0xE0 + n / 0x1000) : fitsThree b₀ (continuation (n / 0x40)) := by
  have h₁ := toNat_continuation (n / 0x40)
  simp only [fitsThree, isContinuation, beq_iff_eq, ← UInt8.toNat_inj, UInt8.le_iff_toNat_le,
    UInt8.reduceToNat, h₀, h₁]
  split_ifs <;> simp only [Bool.and_eq_true, decide_eq_true_eq] <;> omega

theorem fitsFour_continuation {n : Nat} (h : 0x10000 ≤ n) (h' : n < 0x110000)
    (h₀ : b₀.toNat = 0xF0 + n / 0x40000) : fitsFour b₀ (continuation (n / 0x1000)) := by
  have h₁ := toNat_continuation (n / 0x1000)
  simp only [fitsFour, isContinuation, beq_iff_eq, ← UInt8.toNat_inj, UInt8.le_iff_toNat_le,
    UInt8.reduceToNat, h₀, h₁]
  split_ifs <;> simp only [Bool.and_eq_true, decide_eq_true_eq] <;> omega

/-- The bytes of a character are read as that character, and what follows them is read next. -/
theorem decodeFrom_encodeChar (c : Char) (index : Nat) (rest : List UInt8) :
    decodeFrom index (encodeChar c ++ rest) =
      (decodeFrom (index + (encodeChar c).length) rest).map (c :: ·) := by
  have hvalid := toNat_valid c
  have hbyte {n : Nat} (h : n < 0x100) : (UInt8.ofNat n).toNat = n := UInt8.toNat_ofNat_of_lt' h
  simp only [encodeChar]
  split_ifs with hone htwo hthree
  · have hb : (UInt8.ofNat c.toNat).toNat = _ := hbyte (by omega)
    rw [List.singleton_append, decodeFrom_one (by omega), hb, Char.ofNat_toNat]
    rfl
  · have hb : (UInt8.ofNat (0xC0 + c.toNat / 0x40)).toNat = _ := hbyte (by omega)
    have hvalue : (0xC0 + c.toNat / 0x40) % 0x20 * 0x40 + c.toNat % 0x40 = c.toNat := by omega
    rw [List.cons_append, List.singleton_append,
      decodeFrom_two (by omega) (isContinuation_continuation _), hb, tail_continuation, hvalue,
      Char.ofNat_toNat]
    rfl
  · have hb : (UInt8.ofNat (0xE0 + c.toNat / 0x1000)).toNat = _ := hbyte (by omega)
    have hvalue : ((0xE0 + c.toNat / 0x1000) % 0x10 * 0x40 + c.toNat / 0x40 % 0x40) * 0x40 +
        c.toNat % 0x40 = c.toNat := by omega
    rw [List.cons_append, List.cons_append, List.singleton_append,
      decodeFrom_three (by omega) (fitsThree_continuation (by omega) (by omega) hb)
        (isContinuation_continuation _), hb, tail_continuation, tail_continuation, hvalue,
      Char.ofNat_toNat]
    rfl
  · have hb : (UInt8.ofNat (0xF0 + c.toNat / 0x40000)).toNat = _ := hbyte (by omega)
    have hvalue : (((0xF0 + c.toNat / 0x40000) % 8 * 0x40 + c.toNat / 0x1000 % 0x40) * 0x40 +
        c.toNat / 0x40 % 0x40) * 0x40 + c.toNat % 0x40 = c.toNat := by omega
    rw [List.cons_append, List.cons_append, List.cons_append, List.singleton_append,
      decodeFrom_four (by omega) (fitsFour_continuation (by omega) (by omega) hb)
        (isContinuation_continuation _) (isContinuation_continuation _), hb, tail_continuation,
      tail_continuation, tail_continuation, hvalue, Char.ofNat_toNat]
    rfl

/-- The bytes of a text are read as the text. -/
theorem decode_encode (s : String) : decode (encode s) = .ok s := by
  have hchars (cs : List Char) (index : Nat) :
      decodeFrom index (cs.flatMap encodeChar) = .ok cs := by
    induction cs generalizing index with
    | nil => rw [List.flatMap_nil, decodeFrom]
    | cons c cs ih =>
      rw [List.flatMap_cons, decodeFrom_encodeChar, ih]
      rfl
  rw [decode, encode, hchars]
  exact congrArg Except.ok String.ofList_toList

end SchemaCatalog.Text.Utf8
