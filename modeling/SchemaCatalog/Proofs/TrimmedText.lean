import Mathlib
import SchemaCatalog.Text.Word
import SchemaCatalog.Text.Case
/-!
# Text without blanks at its ends

Trimming twice is trimming once, blanks behind a text are trimmed with it, and what begins and ends
with no blank keeps everything behind the text in front of it. The letters of ASCII are not blank, in
either case.
-/

namespace SchemaCatalog.Text

variable {cs ds blanks : List Char}

/-! ## The end -/

theorem trimEnd_of_last (h : ∀ c ∈ cs.getLast?, isBlank c = false) : trimEnd cs = cs := by
  cases hcs : cs.reverse with
  | nil => simp [trimEnd, List.reverse_eq_nil_iff.1 hcs]
  | cons c rest =>
    have hlast : cs.getLast? = some c := by rw [← List.head?_reverse, hcs, List.head?_cons]
    rw [trimEnd, hcs, List.dropWhile_cons_of_neg (by simp [h c hlast]), ← hcs, List.reverse_reverse]

theorem trimEnd_append_blanks (h : ∀ c ∈ blanks, isBlank c) :
    trimEnd (cs ++ blanks) = trimEnd cs := by
  rw [trimEnd, List.reverse_append, List.dropWhile_append_of_pos fun c hc => ?_, trimEnd]
  exact h c (List.mem_reverse.1 hc)

/-- What does not begin with a blank still does not when the blanks at its end are gone. -/
theorem dropWhile_trimEnd (h : cs.dropWhile isBlank = cs) :
    (trimEnd cs).dropWhile isBlank = trimEnd cs := by
  obtain ⟨rest, hrest⟩ : trimEnd cs <+: cs := List.rdropWhile_prefix isBlank cs
  cases htrimmed : trimEnd cs with
  | nil => rfl
  | cons c kept =>
    rw [htrimmed, List.cons_append] at hrest
    rw [← hrest, List.dropWhile_eq_self_iff] at h
    have hc : ¬ isBlank c = true := h (Nat.zero_lt_succ _)
    rw [List.dropWhile_cons_of_neg hc]

/-! ## Both ends -/

theorem dropWhile_trimBlanks (cs : List Char) :
    (trimBlanks cs).dropWhile isBlank = trimBlanks cs :=
  dropWhile_trimEnd (List.dropWhile_idempotent isBlank cs)

theorem trimBlanks_trimBlanks (cs : List Char) : trimBlanks (trimBlanks cs) = trimBlanks cs := by
  rw [trimBlanks, dropWhile_trimBlanks]
  exact List.rdropWhile_idempotent isBlank (cs.dropWhile isBlank)

theorem trimBlanks_dropWhile (cs : List Char) :
    trimBlanks (cs.dropWhile isBlank) = trimBlanks cs := by
  rw [trimBlanks, List.dropWhile_idempotent, trimBlanks]

/-- Blanks behind a text are trimmed. -/
theorem trimBlanks_append_blanks (h : ∀ c ∈ blanks, isBlank c) :
    trimBlanks (cs ++ blanks) = trimBlanks cs := by
  rw [trimBlanks, trimBlanks, List.dropWhile_append]
  split
  · next hempty =>
    have hblanks : blanks.dropWhile isBlank = [] := List.dropWhile_eq_nil_iff.2 h
    rw [hblanks, List.isEmpty_iff.1 hempty]
  · exact trimEnd_append_blanks h

/-- In front of something that begins and ends with no blank, only the beginning is trimmed. -/
theorem trimBlanks_append_of_ends (hne : ds ≠ []) (hhead : ∀ c ∈ ds.head?, isBlank c = false)
    (hlast : ∀ c ∈ ds.getLast?, isBlank c = false) :
    trimBlanks (cs ++ ds) = cs.dropWhile isBlank ++ ds := by
  have hds : ds.dropWhile isBlank = ds := by
    cases ds with
    | nil => rfl
    | cons c rest => rw [List.dropWhile_cons_of_neg (by simp [hhead c rfl])]
  have hfront : (cs ++ ds).dropWhile isBlank = cs.dropWhile isBlank ++ ds := by
    rw [List.dropWhile_append]
    split
    · next hempty => rw [hds, List.isEmpty_iff.1 hempty, List.nil_append]
    · rfl
  rw [trimBlanks, hfront]
  refine trimEnd_of_last fun c hc => hlast c ?_
  rwa [List.getLast?_append_of_ne_nil _ hne] at hc

/-- What begins and ends with something that is not blank may follow. -/
theorem trimBlanks_append (h : trimBlanks cs = cs) {c d : Char} (hc : isBlank c = false)
    (hd : isBlank d = false) : trimBlanks (cs ++ c :: ds ++ [d]) = cs ++ c :: ds ++ [d] := by
  have hcs : cs.dropWhile isBlank = cs := h ▸ dropWhile_trimBlanks cs
  have hlast : ∀ b ∈ (c :: ds ++ [d]).getLast?, isBlank b = false := by
    intro b hb
    rw [List.getLast?_concat] at hb
    exact Option.some.inj hb ▸ hd
  rw [List.append_assoc, trimBlanks_append_of_ends (by simp) (by simpa using hc) hlast, hcs]

/-! ## Letters -/

theorem isBlank_of_letter {c : Char} (hfirst : 65 ≤ c.toNat) (hlast : c.toNat ≤ 122) :
    isBlank c = false := by
  simp only [isBlank, Bool.or_eq_false_iff, Bool.and_eq_false_iff, decide_eq_false_iff_not,
    beq_eq_false_iff_ne]
  omega

theorem isBlank_toLower (c : Char) : isBlank c.toLower = isBlank c := by
  rcases toLower_eq_or c with hsame | ⟨hfirst, hlast, hlower⟩
  · rw [hsame]
  · rw [isBlank_of_letter (c := c) (by omega) (by omega), isBlank_of_letter (by omega) (by omega)]

/-- What is not blank in lower case is not blank. -/
theorem isBlank_of_map_toLower {c? : Option Char} {d : Char} (h : c?.map Char.toLower = some d)
    (hd : isBlank d = false) : ∀ c ∈ c?, isBlank c = false := by
  rintro c rfl
  rw [← isBlank_toLower, Option.some.inj h]
  exact hd

end SchemaCatalog.Text
