import Mathlib
import SchemaCatalog.Proofs.GeneratedMarker
import SchemaCatalog.Proofs.SharedCatalog
import SchemaCatalog.Proofs.TrimmedText
/-!
# Declared types

The type of a column may be told with its length apart, or declared as one text with the length in
parentheses. Both are spelled the same in the model (`Sqlite.classifyColumn_declared`), because
nothing that is done to the text of a type reaches into the parentheses: they are not blank, they
have no upper case, and no mark ends in one of them.
-/

namespace SchemaCatalog

namespace Text

/-! ## Upper case -/

theorem upper_append (s t : String) : upper (s ++ t) = upper s ++ upper t := by
  simp [upper, String.ofList_append]

theorem upper_of_fixed {s : String} (h : ∀ c ∈ s.toList, upperChar c = [c]) : upper s = s := by
  have hfixed : s.toList.flatMap upperChar = s.toList.flatMap ([·]) :=
    List.flatMap_congr h
  rw [upper, hfixed, List.flatMap_singleton', String.ofList_toList]

theorem upperChar_of_isDigit {c : Char} (h : c.isDigit) : upperChar c = [c] := by
  simp only [Char.isDigit, Bool.and_eq_true, decide_eq_true_eq, ge_iff_le,
    UInt32.le_iff_toNat_le] at h
  have hlast : c.val.toNat ≤ 57 := h.2
  have hsmall : c.toNat < 0x80 := by
    show c.val.toNat < 0x80
    omega
  have hnotLower : ¬ ('a'.val ≤ c.val ∧ c.val ≤ 'z'.val) := by
    rintro ⟨ha, -⟩
    have ha : 97 ≤ c.val.toNat := UInt32.le_iff_toNat_le.1 ha
    omega
  rw [upperChar, if_pos hsmall, Char.toUpper, dif_neg hnotLower]

/-- The characters of a whole number are digits, perhaps behind a sign. -/
theorem upperChar_of_mem_repr {n : Int} {c : Char} (h : c ∈ n.repr.toList) : upperChar c = [c] := by
  have hnat {k : Nat} (hk : c ∈ k.repr.toList) : upperChar c = [c] := by
    rw [Nat.repr_eq_ofList_toDigits, String.toList_ofList] at hk
    exact upperChar_of_isDigit (Nat.isDigit_of_mem_toDigits (by decide) (by decide) hk)
  cases n with
  | ofNat k => exact hnat h
  | negSucc k =>
    rw [Int.repr, String.toList_append] at h
    rcases List.mem_append.1 h with h | h
    · obtain rfl : c = '-' := by simpa using h
      decide
    · exact hnat h

/-- A length in parentheses has no upper case of its own. -/
theorem upper_parenthesized (n : Int) : upper ("(" ++ n.repr ++ ")") = "(" ++ n.repr ++ ")" := by
  refine upper_of_fixed fun c hc => ?_
  simp only [String.toList_append, List.mem_append] at hc
  rcases hc with (hc | hc) | hc
  · obtain rfl : c = '(' := by simpa using hc
    decide
  · exact upperChar_of_mem_repr hc
  · obtain rfl : c = ')' := by simpa using hc
    decide

end Text

/-! ## Marks -/

namespace Sqlite

/-- The marker ends in a letter. -/
theorem beforeMarker?_of_last {cs : List Char} (h : cs.getLast? = some ')') :
    beforeMarker? cs = none := by
  have hdiffer (n : Nat) : ¬ Text.eqIgnoringCase (cs.drop n) generatedMarker.toList := by
    intro hsame
    have hlast := congrArg List.getLast? (eq_of_beq hsame)
    rw [List.getLast?_map, List.getLast?_map, List.getLast?_drop] at hlast
    split at hlast
    · revert hlast
      decide
    · rw [h] at hlast
      revert hlast
      decide
  rw [beforeMarker?, if_neg (hdiffer _)]

end Sqlite

/-! ## Types with a length -/

namespace SharedColumn

/-- The type as it is declared, with the length in parentheses. -/
def declared (c : SharedColumn) : String :=
  match c.length? with
  | none => c.type
  | some n => c.type ++ "(" ++ n.toInt.repr ++ ")"

theorem toList_declared_of_length {c : SharedColumn} {n : Int64} (h : c.length? = some n) :
    c.declared.toList = c.type.toList ++ '(' :: n.toInt.repr.toList ++ [')'] := by
  simp [declared, h]

theorem trimBlanks_declared (c : SharedColumn) :
    Text.trimBlanks c.declared.toList = c.declared.toList := by
  cases h : c.length? with
  | none =>
    rw [declared, h]
    exact c.trimmed
  | some n =>
    rw [toList_declared_of_length h]
    exact Text.trimBlanks_append c.trimmed (by decide) (by decide)

theorem beforeMarker?_declared (c : SharedColumn) :
    Sqlite.beforeMarker? c.declared.toList = none := by
  cases h : c.length? with
  | none =>
    rw [declared, h]
    exact c.not_marked
  | some n =>
    rw [toList_declared_of_length h]
    exact Sqlite.beforeMarker?_of_last List.getLast?_concat

theorem typeName_declared (c : SharedColumn) :
    typeName c.declared none = typeName c.type c.length? := by
  have hdeclared : Text.trim c.declared = c.declared := by
    rw [Text.trim, c.trimBlanks_declared, String.ofList_toList]
  have htype : Text.trim c.type = c.type := by
    rw [Text.trim, c.trimmed, String.ofList_toList]
  cases h : c.length? with
  | none => rw [declared, h]
  | some n =>
    have hupper : Text.upper c.declared = Text.upper c.type ++ ("(" ++ n.toInt.repr ++ ")") := by
      have hsplit : c.declared = c.type ++ ("(" ++ n.toInt.repr ++ ")") := by
        simp only [declared, h, String.append_assoc]
      rw [hsplit, Text.upper_append, Text.upper_parenthesized]
    simp only [typeName, hdeclared, htype, hupper]
    show Text.upper c.type ++ ("(" ++ n.toInt.repr ++ ")") =
      Text.upper c.type ++ "(" ++ n.toInt.repr ++ ")"
    simp only [String.append_assoc]

end SharedColumn

/-- The declared type comes to the same type as type and length do apart. -/
theorem Sqlite.classifyColumn_declared (c : SharedColumn) (table : TableName) (column : String)
    {hidden : Int64} (hhidden : isGenerated hidden = c.generated) :
    classifyColumn table column c.declared hidden = .ok (typeName c.type c.length?, c.generated) := by
  rw [classifyColumn_eq]
  simp only [c.trimBlanks_declared, c.beforeMarker?_declared, String.ofList_toList,
    c.typeName_declared, hhidden]

end SchemaCatalog
