import Mathlib
import SchemaCatalog.Sqlite.Extraction
/-!
# Words that stand alone

The search for a word looks at every place of a text, and at the characters on both sides of it. It
finds the word exactly if it occurs between characters that are no word characters, or at the ends of
the text (`Text.standsAlone_iff`). For the word that asks for counted keys, and the statements that
make tables, this is `Sqlite.declaresAutoincrement_standalone`.
-/

namespace SchemaCatalog

namespace Text

variable {word text before found after rest : List Char}

/-! ## Places -/

/-- Between `before` and `after` the word is found in the text, and no word character touches it. -/
structure Occurs (word text before found after : List Char) : Prop where
  parts : text = before ++ found ++ after
  same : eqIgnoringCase found word
  before_open : ∀ c ∈ before.getLast?, isWordChar c = false
  after_open : ∀ c ∈ after.head?, isWordChar c = false

/-- What stands around a text across characters that are no word characters stands around the word. -/
theorem Occurs.surrounded (h : Occurs word text before found after) {front back : List Char}
    (hfront : ∀ c ∈ front.getLast?, isWordChar c = false)
    (hback : ∀ c ∈ back.head?, isWordChar c = false) :
    Occurs word (front ++ text ++ back) (front ++ before) found (after ++ back) where
  parts := by simp [h.parts]
  same := h.same
  before_open c hc := by
    rw [List.getLast?_append, Option.mem_def, Option.or_eq_some_iff] at hc
    rcases hc with hc | ⟨-, hc⟩
    · exact h.before_open c hc
    · exact hfront c hc
  after_open c hc := by
    rw [List.head?_append, Option.mem_def, Option.or_eq_some_iff] at hc
    rcases hc with hc | ⟨-, hc⟩
    · exact h.after_open c hc
    · exact hback c hc

/-! ## The search -/

theorem eqIgnoringCase_cons {c d : Char} {cs ds : List Char} :
    eqIgnoringCase (c :: cs) (d :: ds) ↔ c.toLower = d.toLower ∧ eqIgnoringCase cs ds := by
  simp [eqIgnoringCase]

/-- What is left is what follows the word at the beginning of the text. -/
theorem afterWord?_eq_some_iff : afterWord? word text = some rest ↔
    ∃ found, text = found ++ rest ∧ eqIgnoringCase found word := by
  fun_induction afterWord? word text with
  | case1 text =>
    constructor
    · intro h
      exact ⟨[], Option.some.inj h, rfl⟩
    · rintro ⟨found, rfl, hsame⟩
      obtain rfl : found = [] := List.eq_nil_of_length_eq_zero (length_of_eqIgnoringCase hsame)
      rfl
  | case2 w word =>
    constructor
    · intro h
      cases h
    · rintro ⟨found, hparts, hsame⟩
      have hnil : found = [] := (List.append_eq_nil_iff.1 hparts.symm).1
      cases hnil ▸ length_of_eqIgnoringCase hsame
  | case3 w word c text hletter ih =>
    rw [ih]
    constructor
    · rintro ⟨found, rfl, hsame⟩
      exact ⟨c :: found, rfl, eqIgnoringCase_cons.2 ⟨(eq_of_beq hletter).symm, hsame⟩⟩
    · rintro ⟨found, hparts, hsame⟩
      cases found with
      | nil => cases hsame
      | cons d found =>
        obtain ⟨rfl, rfl⟩ := List.cons.inj hparts
        exact ⟨found, rfl, (eqIgnoringCase_cons.1 hsame).2⟩
  | case4 w word c text hletter =>
    constructor
    · intro h
      cases h
    · rintro ⟨found, hparts, hsame⟩
      cases found with
      | nil => cases hsame
      | cons d found =>
        obtain ⟨rfl, rfl⟩ := List.cons.inj hparts
        exact absurd (beq_iff_eq.2 (eqIgnoringCase_cons.1 hsame).1.symm) hletter

theorem wordEnds_iff : wordEnds text ↔ ∀ c ∈ text.head?, isWordChar c = false := by
  cases text <;> simp [wordEnds]

theorem standsFirst_iff : standsFirst word text ↔
    ∃ found after, text = found ++ after ∧ eqIgnoringCase found word ∧
      ∀ c ∈ after.head?, isWordChar c = false := by
  rw [standsFirst]
  constructor
  · intro h
    split at h
    · next after hafter =>
      obtain ⟨found, hparts, hsame⟩ := afterWord?_eq_some_iff.1 hafter
      exact ⟨found, after, hparts, hsame, wordEnds_iff.1 h⟩
    · cases h
  · rintro ⟨found, after, hparts, hsame, hopen⟩
    rw [afterWord?_eq_some_iff.2 ⟨found, hparts, hsame⟩]
    exact wordEnds_iff.2 hopen

/-- The search goes through all places. Before the first character counts what it is told, and before
any other that character's neighbour. -/
theorem standsAloneFrom_iff {free : Bool} : standsAloneFrom word free text ↔
    ∃ before rest, text = before ++ rest ∧
      before.getLast?.elim free (!isWordChar ·) ∧ standsFirst word rest := by
  induction text generalizing free with
  | nil =>
    rw [standsAloneFrom, Bool.and_eq_true]
    constructor
    · rintro ⟨hfree, hfirst⟩
      exact ⟨[], [], rfl, hfree, hfirst⟩
    · rintro ⟨before, rest, hparts, hfree, hfirst⟩
      obtain ⟨rfl, rfl⟩ := List.append_eq_nil_iff.1 hparts.symm
      exact ⟨hfree, hfirst⟩
  | cons c text ih =>
    rw [standsAloneFrom, Bool.or_eq_true, Bool.and_eq_true, ih]
    constructor
    · rintro (⟨hfree, hfirst⟩ | ⟨before, rest, rfl, hfree, hfirst⟩)
      · exact ⟨[], c :: text, rfl, hfree, hfirst⟩
      · refine ⟨c :: before, rest, rfl, ?_, hfirst⟩
        rw [List.getLast?_cons]
        cases hlast : before.getLast? <;> simpa [hlast] using hfree
    · rintro ⟨before, rest, hparts, hfree, hfirst⟩
      cases before with
      | nil => exact .inl ⟨hfree, hparts ▸ hfirst⟩
      | cons d before =>
        obtain ⟨rfl, rfl⟩ := List.cons.inj hparts
        refine .inr ⟨before, rest, rfl, ?_, hfirst⟩
        rw [List.getLast?_cons] at hfree
        cases hlast : before.getLast? <;> simpa [hlast] using hfree

theorem standsAlone_iff {word text : String} : standsAlone word text ↔
    ∃ before found after, Occurs word.toList text.toList before found after := by
  rw [standsAlone, standsAloneFrom_iff]
  constructor
  · rintro ⟨before, rest, hparts, hfree, hfirst⟩
    obtain ⟨found, after, rfl, hsame, hafter⟩ := standsFirst_iff.1 hfirst
    refine ⟨before, found, after, by rw [hparts, List.append_assoc], hsame, ?_, hafter⟩
    intro c hc
    rw [Option.mem_def.1 hc] at hfree
    simpa using hfree
  · rintro ⟨before, found, after, h⟩
    refine ⟨before, found ++ after, by rw [h.parts, List.append_assoc], ?_,
      standsFirst_iff.2 ⟨found, after, rfl, h.same, h.after_open⟩⟩
    cases hlast : before.getLast? with
    | none => rfl
    | some c => simpa using h.before_open c hlast

/-! ## The case of letters -/

theorem toLower_toLower (c : Char) : c.toLower.toLower = c.toLower := by
  rcases toLower_eq_or c with hsame | ⟨hfirst, -, hlower⟩
  · rw [hsame, hsame]
  · rcases toLower_eq_or c.toLower with hsame | ⟨-, hlast, -⟩
    · exact hsame
    · omega

theorem isWordChar_of_letter {c : Char}
    (h : 65 ≤ c.toNat ∧ c.toNat ≤ 90 ∨ 97 ≤ c.toNat ∧ c.toNat ≤ 122) : isWordChar c = true := by
  have hascii : c.toNat < 0x80 := by omega
  have hletter : c.isAlpha = true := by
    simp only [Char.isAlpha, Char.isUpper, Char.isLower, Bool.or_eq_true, Bool.and_eq_true,
      decide_eq_true_eq, ge_iff_le, UInt32.le_iff_toNat_le]
    exact h
  rw [isWordChar, if_pos hascii, Char.isAlphanum, hletter, Bool.true_or, Bool.true_or]

theorem isWordChar_toLower (c : Char) : isWordChar c.toLower = isWordChar c := by
  rcases toLower_eq_or c with hsame | ⟨hfirst, hlast, hlower⟩
  · rw [hsame]
  · rw [isWordChar_of_letter (c := c) (.inl ⟨hfirst, hlast⟩), isWordChar_of_letter (by omega)]

theorem afterWord?_map_toLower (word text : List Char) :
    afterWord? word (text.map Char.toLower) =
      (afterWord? word text).map (·.map Char.toLower) := by
  fun_induction afterWord? word text with
  | case1 text => rfl
  | case2 w word => rfl
  | case3 w word c text hletter ih =>
    rw [List.map_cons, afterWord?, toLower_toLower, if_pos hletter, ih]
  | case4 w word c text hletter =>
    rw [List.map_cons, afterWord?, toLower_toLower, if_neg hletter, Option.map_none]

theorem wordEnds_map_toLower (text : List Char) :
    wordEnds (text.map Char.toLower) = wordEnds text := by
  cases text with
  | nil => rfl
  | cons c text => rw [List.map_cons, wordEnds, wordEnds, isWordChar_toLower]

theorem standsFirst_map_toLower (word text : List Char) :
    standsFirst word (text.map Char.toLower) = standsFirst word text := by
  rw [standsFirst, standsFirst, afterWord?_map_toLower]
  cases afterWord? word text with
  | none => rfl
  | some rest => exact wordEnds_map_toLower rest

theorem standsAloneFrom_map_toLower (word : List Char) (free : Bool) (text : List Char) :
    standsAloneFrom word free (text.map Char.toLower) = standsAloneFrom word free text := by
  induction text generalizing free with
  | nil => rfl
  | cons c text ih =>
    have hfirst := standsFirst_map_toLower word (c :: text)
    rw [List.map_cons] at hfirst ⊢
    rw [standsAloneFrom, standsAloneFrom, hfirst, isWordChar_toLower, ih]

theorem standsAlone_congr (word : String) {text other : String}
    (h : eqIgnoringCase other.toList text.toList) : standsAlone word other = standsAlone word text := by
  rw [standsAlone, standsAlone, ← standsAloneFrom_map_toLower, eq_of_beq h,
    standsAloneFrom_map_toLower]

end Text

namespace Sqlite

open Text (isWordChar eqIgnoringCase)

/-- A statement declares counted keys exactly if the word for them occurs in it, in any case of its
letters, and no word character touches it. So it still does within a longer text that is kept off by
other characters, and in any case of all the letters. -/
theorem declaresAutoincrement_standalone (ddl : String) :
    (declaresAutoincrement (some ddl) ↔ ∃ before found after : List Char,
      ddl.toList = before ++ found ++ after ∧ found.length = 13 ∧
        eqIgnoringCase found "AUTOINCREMENT".toList ∧
        (∀ c ∈ before.getLast?, isWordChar c = false) ∧
        (∀ c ∈ after.head?, isWordChar c = false)) ∧
      (∀ front back : String, (∀ c ∈ front.toList.getLast?, isWordChar c = false) →
        (∀ c ∈ back.toList.head?, isWordChar c = false) →
        declaresAutoincrement (some ddl) → declaresAutoincrement (some (front ++ ddl ++ back))) ∧
      (∀ other : String, eqIgnoringCase other.toList ddl.toList →
        declaresAutoincrement (some other) = declaresAutoincrement (some ddl)) := by
  refine ⟨?_, ?_, fun other hother => Text.standsAlone_congr "AUTOINCREMENT" hother⟩
  · rw [declaresAutoincrement, Text.standsAlone_iff]
    constructor
    · rintro ⟨before, found, after, h⟩
      exact ⟨before, found, after, h.parts, Text.length_of_eqIgnoringCase h.same, h.same,
        h.before_open, h.after_open⟩
    · rintro ⟨before, found, after, hparts, -, hsame, hbefore, hafter⟩
      exact ⟨before, found, after, hparts, hsame, hbefore, hafter⟩
  · intro front back hfront hback h
    obtain ⟨before, found, after, hoccurs⟩ := Text.standsAlone_iff.1 h
    refine Text.standsAlone_iff.2 ⟨front.toList ++ before, found, after ++ back.toList, ?_⟩
    rw [String.toList_append, String.toList_append]
    exact hoccurs.surrounded hfront hback

/-- A column whose name begins with the word does not hide the word behind it, comments around a
statement do not either, and capital letters make no difference. -/
theorem declaresAutoincrement_behind_longer_word :
    declaresAutoincrement (some "CREATE TABLE t (autoincrementé INT, k INT AutoIncrement)") ∧
      declaresAutoincrement (some ("/* " ++ "autoincrement" ++ "\n*/")) ∧
      declaresAutoincrement (some "K AUTOINCREMENT") := by
  refine ⟨?_, ?_, ?_⟩
  · refine (declaresAutoincrement_standalone _).1.2
      ⟨"CREATE TABLE t (autoincrementé INT, k INT ".toList, "AutoIncrement".toList, ")".toList,
        rfl, rfl, rfl, ?_, ?_⟩
    · intro c hc
      cases (show some ' ' = some c from hc)
      decide
    · intro c hc
      cases (show some ')' = some c from hc)
      decide
  · refine (declaresAutoincrement_standalone "autoincrement").2.1 "/* " "\n*/" ?_ ?_ (by decide)
    · intro c hc
      cases (show some ' ' = some c from hc)
      decide
    · intro c hc
      cases (show some '\n' = some c from hc)
      decide
  · rw [(declaresAutoincrement_standalone "k autoincrement").2.2 "K AUTOINCREMENT" (by decide)]
    decide

end Sqlite

end SchemaCatalog
