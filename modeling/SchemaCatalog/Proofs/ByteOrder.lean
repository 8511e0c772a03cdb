import Mathlib.Data.String.Basic
import SchemaCatalog.Text.Utf8
/-!
# Order of text and order of bytes

Names are compared by code point, catalogs and files compare bytes. Both orders are the same: in
UTF-8 a character with a greater code point has the greater bytes, whatever follows it.
-/

namespace SchemaCatalog.Text.Utf8

/-- A smaller character has smaller bytes. The first byte at which they differ decides, so what
follows the characters does not matter. -/
theorem encodeChar_append_lt {c d : Char} (h : c < d) (x y : List UInt8) :
    encodeChar c ++ x < encodeChar d ++ y := by
  have hcd : c.toNat < d.toNat := h
  have hd : d.toNat < 0x110000 := by
    have hv := d.valid
    simp only [UInt32.isValidChar, Nat.isValidChar] at hv
    show d.val.toNat < _
    omega
  -- the bytes are the digits of the code point to the base 64
  have twice (n : Nat) : n / 0x1000 = n / 0x40 / 0x40 := by omega
  have thrice (n : Nat) : n / 0x40000 = n / 0x40 / 0x40 / 0x40 := by omega
  dsimp only [encodeChar]
  -- one case for each pair of lengths; of two lengths the longer form begins with the greater byte
  split_ifs <;>
    simp only [continuation, twice, thrice, List.cons_append, List.nil_append,
      List.cons_lt_cons_iff, UInt8.lt_iff_toNat_lt, ← UInt8.toNat_inj, UInt8.toNat_ofNat'] <;>
    omega

theorem encodeChar_ne_nil (c : Char) : encodeChar c ≠ [] := by
  dsimp only [encodeChar]
  split_ifs <;> simp

theorem flatMap_encodeChar_lt {cs ds : List Char} (h : cs < ds) :
    cs.flatMap encodeChar < ds.flatMap encodeChar := by
  induction h with
  | @nil d ds =>
    obtain ⟨b, bs, hb⟩ := List.exists_cons_of_ne_nil (encodeChar_ne_nil d)
    simp [hb]
  | rel h => exact encodeChar_append_lt h _ _
  | cons _ ih =>
    simp only [List.flatMap_cons]
    exact List.append_left_lt ih

/-- The bytes of two texts compare as the texts do. -/
theorem encode_lt_iff {s t : String} : encode s < encode t ↔ s < t := by
  refine ⟨fun h => ?_, flatMap_encodeChar_lt⟩
  rcases lt_trichotomy s t with hst | rfl | hts
  · exact hst
  · exact absurd h (List.lt_irrefl _)
  · exact absurd h (List.lt_asymm (flatMap_encodeChar_lt hts))

theorem encode_le_iff {s t : String} : encode s ≤ encode t ↔ s ≤ t := by
  rw [← List.not_lt, encode_lt_iff, not_lt]

theorem encode_lt_iff_compare {s t : String} : encode s < encode t ↔ compare s t = .lt := by
  rw [encode_lt_iff, compare_lt_iff_lt]

end SchemaCatalog.Text.Utf8
