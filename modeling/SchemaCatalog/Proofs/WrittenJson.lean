import Mathlib.Data.List.Forall2
import Mathlib.Data.Option.Basic
import SchemaCatalog.Json.Record
/-!
# What is written is read

A reader takes a value for a JSON tree if it reads the value from each text of the tree: at any depth
of a text of several lines or on one line, behind blanks, and whatever follows, as long as that does
not go on with a number (`Reader.Takes`). There is one lemma for each form of value, and one for
records, whose members fill a draft (`Reader.takes_record`).
-/

namespace SchemaCatalog.Json

namespace Reader

variable {α β δ : Type}

/-! ## Blanks -/

theorem dropWhile_blanks {ws : List Char} (h : ∀ c ∈ ws, isSpace c) {c : Char} {rest : List Char}
    (hc : isSpace c = false) : (ws ++ c :: rest).dropWhile isSpace = c :: rest := by
  rw [List.dropWhile_append_of_pos h, List.dropWhile_cons_of_neg (by simp [hc])]

section Blanks
variable {ws : List Char} (h : ∀ c ∈ ws, isSpace c) {c : Char} (hc : isSpace c = false)
  (rest : List Char)

include h hc

theorem char_blanks : char c (ws ++ c :: rest) = .ok ((), rest) := by
  simp [char, dropWhile_blanks h hc]

theorem peek_blanks : peek (ws ++ c :: rest) = .ok (some c, c :: rest) := by
  simp [peek, dropWhile_blanks h hc]

omit h

theorem char_next : char c (c :: rest) = .ok ((), rest) :=
  char_blanks (List.forall_mem_nil _) hc rest

theorem peek_next : peek (c :: rest) = .ok (some c, c :: rest) :=
  peek_blanks (List.forall_mem_nil _) hc rest

end Blanks

theorem isSpace_lineBreak (depth : Option Nat) : ∀ c ∈ lineBreak depth, isSpace c := by
  intro c hc
  cases depth with
  | none => cases hc
  | some n =>
    rcases List.mem_cons.1 hc with rfl | hc
    · decide
    · rw [List.eq_of_mem_replicate hc]
      decide

/-! ## Steps -/

theorem bind_ok {r : Reader α} {f : α → Reader β} {cs rest : List Char} {a : α}
    (h : r cs = .ok (a, rest)) : (r >>= f) cs = f a rest := by
  simp only [bind, h]

theorem map_ok {r : Reader α} {f : α → β} {cs rest : List Char} {a : α}
    (h : r cs = .ok (a, rest)) : (f <$> r) cs = .ok (f a, rest) :=
  bind_ok h

theorem within_ok {r : Reader α} {cs rest : List Char} {a : α} (h : r cs = .ok (a, rest)) :
    r.within cs = .ok (a, rest) := by
  rw [within, h]
  rfl

/-! ## Values -/

/-- The text does not go on with a number. -/
def Stops (rest : List Char) : Prop :=
  ∀ c ∈ rest.head?, c.isDigit = false ∧ c ≠ '.' ∧ c ≠ 'e' ∧ c ≠ 'E'

theorem stops_nil : Stops [] := by
  intro c hc
  cases hc

theorem stops_cons {c : Char} {rest : List Char}
    (h : c.isDigit = false ∧ c ≠ '.' ∧ c ≠ 'e' ∧ c ≠ 'E') : Stops (c :: rest) := by
  intro d hd
  cases hd
  exact h

/-- The reader reads the value from every text of the tree, behind blanks and at any depth, and leaves
what follows. -/
def Takes (r : Reader α) (j : Json) (a : α) : Prop :=
  ∀ depth ws rest, (∀ c ∈ ws, isSpace c) → Stops rest →
    r (ws ++ (write depth j ++ rest)) = .ok (a, rest)

theorem Takes.next {r : Reader α} {j : Json} {a : α} (h : r.Takes j a) (depth : Option Nat)
    {rest : List Char} (hr : Stops rest) : r (write depth j ++ rest) = .ok (a, rest) :=
  h depth [] rest (List.forall_mem_nil _) hr

theorem Takes.run {r : Reader α} {j : Json} {a : α} (h : r.Takes j a) (depth : Option Nat) :
    r.run (String.ofList (write depth j)) = .ok a := by
  have hread := h.next depth stops_nil
  rw [List.append_nil] at hread
  rw [Reader.run, String.toList_ofList, hread]
  rfl

/-! ## Strings -/

theorem stringBody_short {c x : Char} {rest : List Char} (h : escape? c = some x) :
    stringBody ('\\' :: c :: rest) = (stringBody rest).map fun (cs, rest) => (x :: cs, rest) := by
  have hu : c ≠ 'u' := by
    rintro rfl
    have hnone : escape? 'u' = none := by decide
    rw [hnone] at h
    cases h
  rw [stringBody]
  · rw [h]
  · intro a b d e rest' hc
    exact absurd hc hu

theorem hex4?_control {n : Nat} (h : n < 0x20) :
    hex4? '0' '0' (Text.Hex.digit (n / 16)) (Text.Hex.digit (n % 16)) = some n := by
  revert n
  decide

theorem stringBody_control {n : Nat} (h : n < 0x20) (rest : List Char) :
    stringBody ('\\' :: 'u' :: '0' :: '0' :: Text.Hex.digit (n / 16) :: Text.Hex.digit (n % 16) ::
      rest) = (stringBody rest).map fun (cs, rest) => (Char.ofNat n :: cs, rest) := by
  have hhigh : isHighSurrogate n = false := by simp [isHighSurrogate]; omega
  have hlow : isLowSurrogate n = false := by simp [isLowSurrogate]; omega
  rw [stringBody, hex4?_control h]
  simp [hhigh, hlow]

theorem stringBody_plain {c : Char} (rest : List Char) (hquote : c ≠ '"') (hslash : c ≠ '\\')
    (h : ¬ c.toNat < 0x20) :
    stringBody (c :: rest) = (stringBody rest).map fun (cs, rest) => (c :: cs, rest) := by
  rw [stringBody]
  · rw [if_neg (by simp [hslash, h])]
  · exact hquote
  · intro _ _ _ _ _ hc
    exact absurd hc hslash
  · intro _ _ hc
    exact absurd hc hslash

/-- A character is read as itself, whatever way it is written. -/
theorem stringBody_escapeChar (c : Char) (rest : List Char) :
    stringBody (escapeChar c ++ rest) = (stringBody rest).map fun (cs, rest) => (c :: cs, rest) := by
  -- one case for each way of writing, in the order in which they are tried
  unfold escapeChar
  split
  · rename_i hc
    subst hc
    exact stringBody_short (by decide)
  split
  · rename_i hc
    subst hc
    exact stringBody_short (by decide)
  split
  · rename_i hquote hslash hcontrol
    split
    · rename_i hc
      subst hc
      exact stringBody_short (by decide)
    split
    · rename_i hc
      subst hc
      exact stringBody_short (by decide)
    split
    · rename_i hc
      subst hc
      exact stringBody_short (by decide)
    split
    · rename_i hc
      exact stringBody_short (by rw [← Char.ofNat_toNat c, hc]; decide)
    split
    · rename_i hc
      exact stringBody_short (by rw [← Char.ofNat_toNat c, hc]; decide)
    · have hread := stringBody_control hcontrol rest
      rw [Char.ofNat_toNat] at hread
      exact hread
  · rename_i hquote hslash hplain
    exact stringBody_plain rest hquote hslash hplain

theorem stringBody_written (cs rest : List Char) :
    stringBody (cs.flatMap escapeChar ++ '"' :: rest) = .ok (cs, rest) := by
  induction cs with
  | nil => rfl
  | cons c cs ih =>
    rw [List.flatMap_cons, List.append_assoc, stringBody_escapeChar, ih]
    rfl

theorem string_quote {ws : List Char} (h : ∀ c ∈ ws, isSpace c) (s : String) (rest : List Char) :
    string (ws ++ (quote s ++ rest)) = .ok (s, rest) := by
  have hquote : quote s ++ rest = '"' :: (s.toList.flatMap escapeChar ++ '"' :: rest) := by
    simp [quote]
  rw [hquote, string, bind_ok (char_blanks h (by decide) _), bind_ok (stringBody_written _ _)]
  rw [String.ofList_toList]
  rfl

theorem takes_string (s : String) : string.Takes (.string s) s := by
  intro depth ws rest hws _
  exact string_quote hws s rest

/-! ## Whole numbers -/

theorem spanDigits_append {ds rest : List Char} (h : ∀ c ∈ ds, c.isDigit) (hr : Stops rest) :
    spanDigits (ds ++ rest) = (ds, rest) := by
  have hrest : rest.takeWhile Char.isDigit = [] ∧ rest.dropWhile Char.isDigit = rest := by
    cases rest with
    | nil => exact ⟨rfl, rfl⟩
    | cons c rest =>
      have hc : c.isDigit = false := (hr c rfl).1
      simp [hc]
  rw [spanDigits, List.takeWhile_append_of_pos h, List.dropWhile_append_of_pos h, hrest.1, hrest.2,
    List.append_nil]

theorem isDigit_natDigits {n : Nat} {c : Char} (h : c ∈ Decimal.natDigits n) : c.isDigit :=
  Nat.isDigit_of_mem_toDigits (by decide) (by decide) h

/-- A digit is none of the other characters with a meaning. -/
theorem ne_of_isDigit {c d : Char} (hc : c.isDigit) (hd : d.isDigit = false) : c ≠ d := by
  rintro rfl
  rw [hc] at hd
  cases hd

theorem isSpace_of_isDigit {c : Char} (h : c.isDigit) : isSpace c = false := by
  simp [isSpace, ne_of_isDigit h]

theorem exists_natDigits (n : Nat) : ∃ c ds, Decimal.natDigits n = c :: ds ∧ c.isDigit := by
  obtain ⟨c, ds, hds⟩ := List.exists_cons_of_ne_nil (Nat.toDigits_ne_nil (n := n) (b := 10))
  exact ⟨c, ds, hds, isDigit_natDigits (n := n) (by rw [Decimal.natDigits, hds]; simp)⟩

/-- Only zero is written with a zero in front. -/
theorem natDigits_head {n : Nat} (h : 0 < n) : (Decimal.natDigits n).head? ≠ some '0' := by
  -- the first digit of a longer number is that of the number without its last digit
  induction n using Nat.strongRecOn with
  | _ n ih =>
    by_cases hsmall : n < 10
    · have hdigit : ∀ m < 10, 0 < m → Nat.digitChar m ≠ '0' := by decide
      rw [Decimal.natDigits, Nat.toDigits_of_lt_base hsmall, List.head?_cons]
      simpa using hdigit n hsmall h
    · rw [Decimal.natDigits, Nat.toDigits_of_base_le (by decide) (by omega),
        List.head?_append_of_ne_nil _ Nat.toDigits_ne_nil]
      exact ih (n / 10) (by omega) (by omega)

theorem wellFormed_natDigits (n : Nat) :
    (!(Decimal.natDigits n).isEmpty &&
      ((Decimal.natDigits n).length == 1 || (Decimal.natDigits n).head? != some '0')) = true := by
  have hne : Decimal.natDigits n ≠ [] := Nat.toDigits_ne_nil
  rcases Nat.eq_zero_or_pos n with rfl | hn
  · decide
  · simp [hne, natDigits_head hn]

theorem numberText?_natDigits (n : Nat) {rest : List Char} (hr : Stops rest) :
    numberText? (Decimal.natDigits n ++ rest) =
      some (⟨false, Decimal.natDigits n, none, none⟩, rest) := by
  obtain ⟨c, ds, hds, hdigit⟩ := exists_natDigits n
  have hc : c ≠ '-' := ne_of_isDigit hdigit (by decide)
  have hspan := spanDigits_append (fun c => isDigit_natDigits (n := n) (c := c)) hr
  have hguard := wellFormed_natDigits n
  rw [hds] at hspan hguard ⊢
  rw [List.cons_append] at hspan ⊢
  unfold numberText?
  split
  rename_i negative cs hsign
  split at hsign
  · rename_i hminus
    exact absurd (List.cons.inj hminus).1 hc
  · obtain ⟨rfl, rfl⟩ := Prod.mk.inj hsign
    rw [hspan]
    simp only [hguard]
    -- what follows the digits is neither a point nor an exponent
    cases rest with
    | nil => rfl
    | cons d rest =>
      obtain ⟨-, hpoint, he, hE⟩ := hr d rfl
      split
      · rename_i hd
        exact absurd (List.cons.inj hd).1 hpoint
      · simp only [guard, if_true, Option.pure_def, Option.bind_eq_bind, Option.bind_some]
        split
        · rename_i hd
          exact absurd (List.cons.inj hd).1 he
        · rename_i hd
          exact absurd (List.cons.inj hd).1 hE
        · rfl

theorem le_ofDigitChars (ds : List Char) (m : Nat) : m ≤ Nat.ofDigitChars 10 ds m := by
  induction ds generalizing m with
  | nil => exact Nat.le_refl m
  | cons c ds ih =>
    rw [Nat.ofDigitChars_cons]
    exact Nat.le_trans (by omega) (ih _)

/-- Digits of a number of sixty-four bits are gathered to the number. -/
theorem foldl_takeWhole {ds : List Char} {m : Nat} (h : Nat.ofDigitChars 10 ds m < UInt64.size) :
    ds.foldl Gathered.takeWhole ⟨m, 0, false⟩ = ⟨Nat.ofDigitChars 10 ds m, 0, false⟩ := by
  induction ds generalizing m with
  | nil => rfl
  | cons c ds ih =>
    rw [Nat.ofDigitChars_cons] at h
    -- what is gathered only grows, so it fits since all of it does
    have hfits : ¬ 10 * m + digitValue c ≥ UInt64.size :=
      Nat.not_le.2 (Nat.lt_of_le_of_lt (le_ofDigitChars ds _) h)
    have hstep : Gathered.takeWhole ⟨m, 0, false⟩ c = ⟨10 * m + digitValue c, 0, false⟩ := by
      simp [Gathered.takeWhole, hfits]
    rw [List.foldl_cons, hstep, Nat.ofDigitChars_cons]
    exact ih h

theorem value?_natDigits {n : Nat} (h : n < UInt64.size) :
    (NumberText.mk false (Decimal.natDigits n) none none).value? = some (.int n) := by
  have hvalue : Nat.ofDigitChars 10 (Decimal.natDigits n) 0 = n := Nat.ofDigitChars_ten_toDigits
  have hgathered : (Decimal.natDigits n).foldl Gathered.takeWhole ⟨0, 0, false⟩ = ⟨n, 0, false⟩ := by
    rw [foldl_takeWhole (by rw [hvalue]; exact h), hvalue]
  simp [NumberText.value?, hgathered]

theorem number_natDigits {ws : List Char} (hws : ∀ c ∈ ws, isSpace c) {n : Nat}
    (hn : n < UInt64.size) {rest : List Char} (hr : Stops rest) :
    number (ws ++ (Decimal.natDigits n ++ rest)) = .ok (.int n, rest) := by
  have htext : numberText (ws ++ (Decimal.natDigits n ++ rest)) =
      .ok (⟨false, Decimal.natDigits n, none, none⟩, rest) := by
    obtain ⟨c, ds, hds, hdigit⟩ := exists_natDigits n
    have hread := numberText?_natDigits n hr
    rw [hds, List.cons_append] at hread ⊢
    rw [numberText, dropWhile_blanks hws (isSpace_of_isDigit hdigit), hread]
  rw [number, bind_ok htext, value?_natDigits hn]
  rfl

/-! ## Words -/

theorem takes_bool (b : Bool) : bool.Takes (.bool b) b := by
  intro depth ws rest hws _
  cases b with
  | true =>
    show bool (ws ++ 't' :: ('r' :: 'u' :: 'e' :: rest)) = _
    rw [bool, bind_ok (peek_blanks hws (by decide) _)]
    rfl
  | false =>
    show bool (ws ++ 'f' :: ('a' :: 'l' :: 's' :: 'e' :: rest)) = _
    rw [bool, bind_ok (peek_blanks hws (by decide) _)]
    rfl

/-! ## The first character -/

/-- The character begins a value. -/
def Opens (c : Char) : Prop :=
  isSpace c = false ∧ c ≠ ']'

theorem opens_of_isDigit {c : Char} (h : c.isDigit) : Opens c :=
  ⟨isSpace_of_isDigit h, ne_of_isDigit h (by decide)⟩

theorem exists_natDigits_append (n : Nat) (rest : List Char) :
    ∃ c cs, Decimal.natDigits n ++ rest = c :: cs ∧ Opens c := by
  obtain ⟨c, ds, hds, hdigit⟩ := exists_natDigits n
  refine ⟨c, ds ++ rest, ?_, opens_of_isDigit hdigit⟩
  rw [hds, List.cons_append]

theorem exists_realText (x : Float) : ∃ c cs, realText x = c :: cs ∧ Opens c := by
  unfold realText
  split
  · exact ⟨'n', _, rfl, by decide, by decide⟩
  · split
    · exact ⟨'-', _, rfl, by decide, by decide⟩
    · exact exists_natDigits_append _ _

/-- No value begins with a blank or with the bracket that ends an array. -/
theorem exists_write (depth : Option Nat) (j : Json) : ∃ c cs, write depth j = c :: cs ∧ Opens c := by
  cases j with
  | null => exact ⟨'n', _, rfl, by decide, by decide⟩
  | bool b =>
    cases b
    · exact ⟨'f', _, rfl, by decide, by decide⟩
    · exact ⟨'t', _, rfl, by decide, by decide⟩
  | int n =>
    cases n with
    | ofNat m =>
      obtain ⟨c, ds, hds, hc⟩ := exists_natDigits m
      exact ⟨c, ds, hds, opens_of_isDigit hc⟩
    | negSucc m => exact ⟨'-', _, rfl, by decide, by decide⟩
  | real x => exact exists_realText x
  | string s => exact ⟨'"', _, rfl, by decide, by decide⟩
  | array items =>
    cases items
    · exact ⟨'[', _, rfl, by decide, by decide⟩
    · exact ⟨'[', _, rfl, by decide, by decide⟩
  | object members =>
    cases members
    · exact ⟨'{', _, rfl, by decide, by decide⟩
    · exact ⟨'{', _, rfl, by decide, by decide⟩

/-! ## Values that may be absent -/

theorem takes_optional_null (r : Reader α) : (optional r).Takes .null none := by
  intro depth ws rest hws _
  show optional r (ws ++ 'n' :: ('u' :: 'l' :: 'l' :: rest)) = _
  rw [optional, bind_ok (peek_blanks hws (by decide) _)]
  rfl

theorem optional_eq (r : Reader α) : optional r = (do
    let next ← peek
    if next = some 'n' then word "null"; pure none else some <$> r) := by
  unfold optional
  congr 1
  funext next
  split <;> simp_all

theorem takes_optional_some {r : Reader α} {j : Json} {a : α} (h : r.Takes j a)
    (hn : ∀ depth, (write depth j).head? ≠ some 'n') : (optional r).Takes j (some a) := by
  intro depth ws rest hws hr
  obtain ⟨c, cs, hcs, hopens⟩ := exists_write depth j
  have hc : some c ≠ some 'n' := by
    have hhead := hn depth
    rwa [hcs, List.head?_cons] at hhead
  have hread := h.next depth hr
  rw [hcs, List.cons_append] at hread
  rw [hcs, List.cons_append, optional_eq, bind_ok (peek_blanks hws hopens.1 _), if_neg hc]
  exact map_ok hread

/-- What may be absent is read if it is read when it is there. -/
theorem takes_ofOption {r : Reader α} {f : α → Json} (h : ∀ a, r.Takes (f a) a)
    (hn : ∀ a depth, (write depth (f a)).head? ≠ some 'n') (a? : Option α) :
    (optional r).Takes (Json.ofOption f a?) a? := by
  cases a? with
  | none => exact takes_optional_null r
  | some a => exact takes_optional_some (h a) (hn a)

/-! ## Arrays -/

theorem stops_lineBreak {depth : Option Nat} {c : Char} {rest : List Char}
    (hc : c.isDigit = false ∧ c ≠ '.' ∧ c ≠ 'e' ∧ c ≠ 'E') :
    Stops (lineBreak depth ++ c :: rest) := by
  cases depth with
  | none => exact stops_cons hc
  | some n => exact stops_cons (by decide)

theorem itemsFrom_cons_eq (item : Reader α) (first : Bool) (b : Char) (bound : List Char) :
    itemsFrom item first (b :: bound) = (do
      let next ← peek
      if next = some ']' then char ']'; pure []
      else
        if !first then char ','
        let x ← item
        let xs ← itemsFrom item false bound
        pure (x :: xs)) := by
  rw [itemsFrom]
  congr 1
  funext next
  split <;> simp_all

section Arrays
variable {item : Reader α} {ws : List Char} (hws : ∀ c ∈ ws, isSpace c) (b : Char)
  (bound : List Char)

include hws

theorem itemsFrom_end (first : Bool) (rest : List Char) :
    itemsFrom item first (b :: bound) (ws ++ ']' :: rest) = .ok ([], rest) := by
  rw [itemsFrom_cons_eq, bind_ok (peek_blanks hws (by decide) _), if_pos rfl]
  rfl

/-- The first item has no comma before it. -/
theorem itemsFrom_first {c : Char} (hc : Opens c) (cs : List Char) :
    itemsFrom item true (b :: bound) (ws ++ c :: cs) =
      (do let x ← item
          let xs ← itemsFrom item false bound
          pure (x :: xs) : Reader (List α)) (c :: cs) := by
  rw [itemsFrom_cons_eq, bind_ok (peek_blanks hws hc.1 _), if_neg (by simpa using hc.2)]
  rfl

end Arrays

theorem itemsFrom_comma (item : Reader α) (b : Char) (bound cs : List Char) :
    itemsFrom item false (b :: bound) (',' :: cs) =
      (do let x ← item
          let xs ← itemsFrom item false bound
          pure (x :: xs) : Reader (List α)) cs := by
  rw [itemsFrom_cons_eq, bind_ok (peek_next (by decide) _), if_neg (by decide)]
  rfl

theorem stops_writeItems (depth depth' : Option Nat) (xs : List Json) (rest : List Char) :
    Stops (writeItems depth xs ++ (lineBreak depth' ++ ']' :: rest)) := by
  cases xs with
  | nil => exact stops_lineBreak (by decide)
  | cons x xs => exact stops_cons (by decide)

/-- The items behind the first are read up to the bracket, each after its comma. -/
theorem itemsFrom_written {item : Reader α} {xs : List Json} {as : List α}
    (h : List.Forall₂ item.Takes xs as) {bound : List Char} (hbound : xs.length < bound.length)
    (depth depth' : Option Nat) (rest : List Char) :
    itemsFrom item false bound (writeItems depth xs ++ (lineBreak depth' ++ ']' :: rest)) =
      .ok (as, rest) := by
  -- each item takes one character off the bound
  induction h generalizing bound with
  | nil =>
    obtain ⟨b, bound, rfl⟩ := List.exists_cons_of_length_pos hbound
    exact itemsFrom_end (isSpace_lineBreak depth') b bound false rest
  | @cons x a xs as hx hxs ih =>
    obtain ⟨b, bound, rfl⟩ := List.exists_cons_of_length_pos (Nat.zero_lt_of_lt hbound)
    have htext : writeItems depth (x :: xs) ++ (lineBreak depth' ++ ']' :: rest) =
        ',' :: (lineBreak depth ++ (write depth x ++
          (writeItems depth xs ++ (lineBreak depth' ++ ']' :: rest)))) := by
      simp [writeItems]
    have hitem := hx depth _ _ (isSpace_lineBreak depth) (stops_writeItems depth depth' xs rest)
    have hlt : xs.length < bound.length := by simpa using hbound
    rw [htext, itemsFrom_comma, bind_ok hitem, bind_ok (ih hlt)]
    rfl

/-- All items are read up to the bracket. -/
theorem itemsFrom_all {item : Reader α} {x : Json} {xs : List Json} {as : List α}
    (h : List.Forall₂ item.Takes (x :: xs) as) {bound : List Char}
    (hbound : xs.length + 1 < bound.length) (depth depth' : Option Nat) (rest : List Char) :
    itemsFrom item true bound (lineBreak depth ++ (write depth x ++
      (writeItems depth xs ++ (lineBreak depth' ++ ']' :: rest)))) = .ok (as, rest) := by
  obtain ⟨a, as, hx, hxs, rfl⟩ := List.forall₂_cons_left_iff.1 h
  obtain ⟨b, bound, rfl⟩ := List.exists_cons_of_length_pos (Nat.zero_lt_of_lt hbound)
  obtain ⟨c, cs, hcs, hopens⟩ := exists_write depth x
  have hlt : xs.length < bound.length := by simpa using hbound
  have hitem := hx.next depth (stops_writeItems depth depth' xs rest)
  have hrest := itemsFrom_written hxs hlt depth depth' rest
  rw [hcs, List.cons_append] at hitem
  rw [hcs, List.cons_append, itemsFrom_first (isSpace_lineBreak depth) b bound hopens,
    bind_ok hitem, bind_ok hrest]
  rfl

theorem length_le_writeItems (depth : Option Nat) (xs : List Json) :
    xs.length ≤ (writeItems depth xs).length := by
  induction xs with
  | nil => exact Nat.zero_le _
  | cons x xs ih =>
    simp only [writeItems, List.length_cons, List.length_append]
    omega

theorem length_write_pos (depth : Option Nat) (j : Json) : 0 < (write depth j).length := by
  obtain ⟨c, cs, hcs, -⟩ := exists_write depth j
  rw [hcs]
  exact Nat.succ_pos _

/-- An array is read if its items are. The text that is left is long enough to bound the steps, since
each item has a character of its own. -/
theorem takes_array {item : Reader α} {xs : List Json} {as : List α}
    (h : List.Forall₂ item.Takes xs as) : (array item).Takes (.array xs) as := by
  intro depth ws rest hws hr
  have hwithin : List.Forall₂ item.within.Takes xs as :=
    h.imp fun _ _ hx depth ws rest hws hr => within_ok (hx depth ws rest hws hr)
  cases xs with
  | nil =>
    obtain rfl := List.forall₂_nil_left_iff.1 h
    show array item (ws ++ '[' :: ([] ++ ']' :: rest)) = _
    rw [array, bind_ok (char_blanks hws (by decide) _)]
    exact itemsFrom_end (by simp) ']' rest true rest
  | cons x xs =>
    have htext : write depth (.array (x :: xs)) ++ rest =
        '[' :: (lineBreak (depth.map (· + 1)) ++ (write (depth.map (· + 1)) x ++
          (writeItems (depth.map (· + 1)) xs ++ (lineBreak depth ++ ']' :: rest)))) := by
      simp [write]
    rw [htext, array, bind_ok (char_blanks hws (by decide) _)]
    refine itemsFrom_all hwithin ?_ (depth.map (· + 1)) depth rest
    have hfirst := length_write_pos (depth.map (· + 1)) x
    have hothers := length_le_writeItems (depth.map (· + 1)) xs
    simp only [List.length_append, List.length_cons]
    omega

/-! ## Objects -/

theorem colon_map (depth : Option Nat) : colon (depth.map (· + 1)) = colon depth := by
  cases depth <;> rfl

/-- The members, one after the other, take one draft to another. -/
inductive Fills (member : δ → String → Reader δ) : δ → List (String × Json) → δ → Prop
  | nil (d : δ) : Fills member d [] d
  | cons {d d₁ d₂ : δ} {name : String} {j : Json} {ms : List (String × Json)}
      (first : ∀ depth rest, Stops rest →
        member d name (colon depth ++ (write depth j ++ rest)) = .ok (d₁, rest))
      (others : Fills member d₁ ms d₂) : Fills member d ((name, j) :: ms) d₂

theorem membersFrom_cons_eq (member : δ → String → Reader δ) (first : Bool) (d : δ) (b : Char)
    (bound : List Char) :
    membersFrom member first d (b :: bound) = (do
      let next ← peek
      if next = some '}' then char '}'; pure d
      else
        if !first then char ','
        let name ← string
        let acc ← member d name
        membersFrom member false acc bound) := by
  rw [membersFrom]
  congr 1
  funext next
  split <;> simp_all

section Members
variable {member : δ → String → Reader δ} {d : δ} {ws : List Char} (hws : ∀ c ∈ ws, isSpace c)
  (b : Char) (bound : List Char)

include hws

theorem membersFrom_end (first : Bool) (rest : List Char) :
    membersFrom member first d (b :: bound) (ws ++ '}' :: rest) = .ok (d, rest) := by
  rw [membersFrom_cons_eq, bind_ok (peek_blanks hws (by decide) _), if_pos rfl]
  rfl

/-- The first member has no comma before it. -/
theorem membersFrom_first (name : String) (cs : List Char) :
    membersFrom member true d (b :: bound) (ws ++ (quote name ++ cs)) =
      (member d name >>= fun acc => membersFrom member false acc bound) cs := by
  have hquote : quote name ++ cs = '"' :: (name.toList.flatMap escapeChar ++ ['"'] ++ cs) := rfl
  have hname : string (quote name ++ cs) = .ok (name, cs) :=
    string_quote (List.forall_mem_nil _) name cs
  rw [membersFrom_cons_eq, hquote, bind_ok (peek_blanks hws (by decide) _), if_neg (by decide),
    ← hquote]
  exact bind_ok hname

end Members

theorem membersFrom_comma (member : δ → String → Reader δ) (d : δ) {ws : List Char}
    (hws : ∀ c ∈ ws, isSpace c) (b : Char) (bound : List Char) (name : String) (cs : List Char) :
    membersFrom member false d (b :: bound) (',' :: (ws ++ (quote name ++ cs))) =
      (member d name >>= fun acc => membersFrom member false acc bound) cs := by
  rw [membersFrom_cons_eq, bind_ok (peek_next (by decide) _), if_neg (by decide)]
  exact bind_ok (string_quote hws name cs)

theorem stops_writeMembers (depth depth' : Option Nat) (ms : List (String × Json))
    (rest : List Char) : Stops (writeMembers depth ms ++ (lineBreak depth' ++ '}' :: rest)) := by
  cases ms with
  | nil => exact stops_lineBreak (by decide)
  | cons m ms => exact stops_cons (by decide)

/-- The members behind the first are read up to the brace, each after its comma. -/
theorem membersFrom_written {member : δ → String → Reader δ} {d d' : δ} {ms : List (String × Json)}
    (h : Fills member d ms d') {bound : List Char} (hbound : ms.length < bound.length)
    (depth depth' : Option Nat) (rest : List Char) :
    membersFrom member false d bound
      (writeMembers depth ms ++ (lineBreak depth' ++ '}' :: rest)) = .ok (d', rest) := by
  induction h generalizing bound with
  | nil =>
    obtain ⟨b, bound, rfl⟩ := List.exists_cons_of_length_pos hbound
    exact membersFrom_end (isSpace_lineBreak depth') b bound false rest
  | @cons d d₁ d₂ name j ms first others ih =>
    obtain ⟨b, bound, rfl⟩ := List.exists_cons_of_length_pos (Nat.zero_lt_of_lt hbound)
    have htext : writeMembers depth ((name, j) :: ms) ++ (lineBreak depth' ++ '}' :: rest) =
        ',' :: (lineBreak depth ++ (quote name ++ (colon depth ++ (write depth j ++
          (writeMembers depth ms ++ (lineBreak depth' ++ '}' :: rest)))))) := by
      simp [writeMembers]
    have hvalue := first depth _ (stops_writeMembers depth depth' ms rest)
    rw [htext, membersFrom_comma _ _ (isSpace_lineBreak depth), bind_ok hvalue]
    exact ih (by simpa using hbound)

/-- All members are read up to the brace. -/
theorem membersFrom_all {member : δ → String → Reader δ} {d d₁ d' : δ} {name : String} {j : Json}
    {ms : List (String × Json)}
    (first : ∀ depth rest, Stops rest →
      member d name (colon depth ++ (write depth j ++ rest)) = .ok (d₁, rest))
    (others : Fills member d₁ ms d') {bound : List Char} (hbound : ms.length + 1 < bound.length)
    (depth depth' : Option Nat) (rest : List Char) :
    membersFrom member true d bound (lineBreak depth ++ (quote name ++ (colon depth ++
      (write depth j ++ (writeMembers depth ms ++ (lineBreak depth' ++ '}' :: rest)))))) =
      .ok (d', rest) := by
  obtain ⟨b, bound, rfl⟩ := List.exists_cons_of_length_pos (Nat.zero_lt_of_lt hbound)
  have hvalue := first depth _ (stops_writeMembers depth depth' ms rest)
  rw [membersFrom_first (isSpace_lineBreak depth), bind_ok hvalue]
  exact membersFrom_written others (by simpa using hbound) depth depth' rest

theorem length_le_writeMembers (depth : Option Nat) (ms : List (String × Json)) :
    ms.length ≤ (writeMembers depth ms).length := by
  induction ms with
  | nil => exact Nat.zero_le _
  | cons m ms ih =>
    simp only [writeMembers, List.length_cons, List.length_append]
    omega

/-- An object is read if its members fill the draft. -/
theorem takes_object {member : δ → String → Reader δ} {d d' : δ} {ms : List (String × Json)}
    (h : Fills member d ms d') : (object member d).Takes (.object ms) d' := by
  intro depth ws rest hws hr
  cases h with
  | nil =>
    show object member d (ws ++ '{' :: ([] ++ '}' :: rest)) = _
    rw [object, bind_ok (char_blanks hws (by decide) _)]
    exact membersFrom_end (by simp) '}' rest true rest
  | @cons _ d₁ _ name j ms first others =>
    have htext : write depth (.object ((name, j) :: ms)) ++ rest =
        '{' :: (lineBreak (depth.map (· + 1)) ++ (quote name ++ (colon (depth.map (· + 1)) ++
          (write (depth.map (· + 1)) j ++
            (writeMembers (depth.map (· + 1)) ms ++ (lineBreak depth ++ '}' :: rest)))))) := by
      simp [write, colon_map]
    rw [htext, object, bind_ok (char_blanks hws (by decide) _)]
    refine membersFrom_all first others ?_ (depth.map (· + 1)) depth rest
    have hvalue := length_write_pos (depth.map (· + 1)) j
    have hothers := length_le_writeMembers (depth.map (· + 1)) ms
    simp only [List.length_append, List.length_cons]
    omega

/-! ## Records -/

/-- A member that the draft does not have yet takes its value into it. -/
theorem Fills.named {members : List (Member δ)} {d d₁ d₂ : δ} {name : String} {j : Json}
    {ms : List (String × Json)} {m : Member δ} (hfind : members.find? (·.name == name) = some m)
    (hfree : m.isSet d = false) (hread : (m.read d).Takes j d₁)
    (hothers : Fills (namedMember members) d₁ ms d₂) :
    Fills (namedMember members) d ((name, j) :: ms) d₂ := by
  refine .cons (fun depth rest hr => ?_) hothers
  have hvalue (ws : List Char) (hws : ∀ c ∈ ws, isSpace c) :
      namedMember members d name (':' :: (ws ++ (write depth j ++ rest))) = .ok (d₁, rest) := by
    simp only [namedMember, hfind, hfree]
    rw [if_neg Bool.false_ne_true, bind_ok (char_next (by decide) _)]
    exact hread depth ws rest hws hr
  -- the texts differ in the blank behind the colon
  cases depth with
  | none => exact hvalue [] (by simp)
  | some n => exact hvalue [' '] (by simp [isSpace])

theorem takes_place {name : String} {get : δ → Option α} {set : δ → α → δ} {value : Reader α}
    {j : Json} {a : α} (h : value.Takes j a) (d : δ) :
    ((Member.place name get set value).read d).Takes j (set d a) :=
  fun depth ws rest hws hr => map_ok (h depth ws rest hws hr)

theorem takes_trailing {m : Member δ} {d d' : δ} {j : Json} (h : (m.read d).Takes j d') :
    (m.trailing.read d).Takes j d' :=
  h

theorem record_eq (members : List (Member δ)) (start : δ) (finish : δ → Except ReadFault α) :
    record members start finish = (do
      let next ← peek
      if next = some '[' then
        char '['
        let d ← placedMembers true start members
        check (finish d)
      else
        let d ← object (namedMember members) start
        check (finish d)) := by
  unfold record
  congr 1
  funext next
  split <;> simp_all

/-- A record is read from an object that fills its draft, if nothing is wrong with the draft. -/
theorem takes_record {members : List (Member δ)} {d d' : δ} {finish : δ → Except ReadFault α}
    {ms : List (String × Json)} {a : α} (h : Fills (namedMember members) d ms d')
    (hfinish : finish d' = .ok a) : (record members d finish).Takes (.object ms) a := by
  intro depth ws rest hws hr
  -- the brace tells the object from the array form
  obtain ⟨cs, hcs⟩ : ∃ cs, write depth (.object ms) = '{' :: cs := by
    cases ms <;> exact ⟨_, rfl⟩
  have hobject := (takes_object h).next depth hr
  rw [hcs, List.cons_append] at hobject
  rw [hcs, List.cons_append, record_eq, bind_ok (peek_blanks hws (by decide) _),
    if_neg (by decide), bind_ok hobject, hfinish]
  rfl

end Reader

end SchemaCatalog.Json
