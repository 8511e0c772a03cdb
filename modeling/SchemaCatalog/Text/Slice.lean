import SchemaCatalog.Text.Utf8
/-!
# Parts of a text

Places in a text are counted in bytes. A text can be cut where one of its characters begins and at its
end, and nowhere else: a place within a character has no text before or behind it.
-/

namespace SchemaCatalog.Text

/-- The length of a text in bytes. -/
def byteLength (cs : List Char) : Nat :=
  (cs.flatMap Utf8.encodeChar).length

/-- The byte at the place begins a character, or the text ends there. -/
def isBoundary (cs : List Char) (place : Nat) : Bool :=
  match (cs.flatMap Utf8.encodeChar)[place]? with
  | some b => !Utf8.isContinuation b
  | none => place == byteLength cs

/-- The text before the place and the text behind it, if it can be cut there. -/
def cut? : List Char → Nat → Option (List Char × List Char)
  | cs, 0 => some ([], cs)
  | [], _ + 1 => none
  | c :: cs, place + 1 =>
    let width := (Utf8.encodeChar c).length
    if width ≤ place + 1 then
      (cut? cs (place + 1 - width)).map fun (before, behind) => (c :: before, behind)
    else none

theorem byteLength_cons (c : Char) (cs : List Char) :
    byteLength (c :: cs) = (Utf8.encodeChar c).length + byteLength cs := by
  rw [byteLength, List.flatMap_cons, List.length_append, byteLength]

theorem byteLength_append (cs ds : List Char) :
    byteLength (cs ++ ds) = byteLength cs + byteLength ds := by
  rw [byteLength, List.flatMap_append, List.length_append, byteLength, byteLength]

theorem length_encodeChar_pos (c : Char) : 0 < (Utf8.encodeChar c).length := by
  obtain ⟨b, bs, hbytes, -, -⟩ := Utf8.encodeChar_eq_cons c
  rw [hbytes]
  exact Nat.zero_lt_succ _

/-- Behind a character the boundaries are those of the rest. -/
theorem isBoundary_cons_of_le {c : Char} {cs : List Char} {place : Nat}
    (h : (Utf8.encodeChar c).length ≤ place) :
    isBoundary (c :: cs) place = isBoundary cs (place - (Utf8.encodeChar c).length) := by
  have hend : (place == byteLength (c :: cs)) =
      (place - (Utf8.encodeChar c).length == byteLength cs) := by
    rw [byteLength_cons, Bool.eq_iff_iff, beq_iff_eq, beq_iff_eq]
    omega
  rw [isBoundary, isBoundary, List.flatMap_cons, List.getElem?_append_right h, hend]

/-- Within a character there is none. -/
theorem isBoundary_cons_of_lt {c : Char} {cs : List Char} {place : Nat}
    (h : place + 1 < (Utf8.encodeChar c).length) : isBoundary (c :: cs) (place + 1) = false := by
  obtain ⟨b, bs, hbytes, -, hrest⟩ := Utf8.encodeChar_eq_cons c
  have hplace : place < bs.length := by
    rw [hbytes, List.length_cons] at h
    omega
  rw [isBoundary, List.flatMap_cons, List.getElem?_append_left h, hbytes, List.getElem?_cons_succ,
    List.getElem?_eq_getElem hplace]
  simp [hrest _ (List.getElem_mem hplace)]

/-- A text can be cut exactly at the boundaries of its characters. -/
theorem isSome_cut? (cs : List Char) (place : Nat) :
    (cut? cs place).isSome = isBoundary cs place := by
  fun_induction cut? cs place with
  | case1 cs =>
    cases cs with
    | nil => rfl
    | cons c cs =>
      obtain ⟨b, bs, hbytes, hfirst, -⟩ := Utf8.encodeChar_eq_cons c
      simp [isBoundary, hbytes, hfirst]
  | case2 place => simp [isBoundary, byteLength]
  | case3 c cs place width hwidth ih =>
    rw [Option.isSome_map, ih]
    exact (isBoundary_cons_of_le hwidth).symm
  | case4 c cs place width hwidth =>
    exact (isBoundary_cons_of_lt (Nat.lt_of_not_le hwidth)).symm

/-- A text of two parts can be cut behind the first. -/
theorem cut?_append (before behind : List Char) :
    cut? (before ++ behind) (byteLength before) = some (before, behind) := by
  induction before with
  | nil => rw [List.nil_append, byteLength, List.flatMap_nil, List.length_nil, cut?]
  | cons c before ih =>
    have hpos := length_encodeChar_pos c
    obtain ⟨place, hplace⟩ : ∃ place, byteLength (c :: before) = place + 1 :=
      ⟨byteLength (c :: before) - 1, by rw [byteLength_cons]; omega⟩
    have hrest : place + 1 - (Utf8.encodeChar c).length = byteLength before := by
      rw [← hplace, byteLength_cons]
      omega
    have hwidth : (Utf8.encodeChar c).length ≤ place + 1 := by
      rw [← hplace, byteLength_cons]
      omega
    simp only [hplace, List.cons_append, cut?, if_pos hwidth, hrest, ih, Option.map_some]

/-- The parts of a cut make up the text, and its place is the length of the first. -/
theorem eq_append_of_cut? {cs before behind : List Char} {place : Nat}
    (h : cut? cs place = some (before, behind)) :
    cs = before ++ behind ∧ place = byteLength before := by
  induction cs generalizing before place with
  | nil =>
    cases place with
    | zero => cases h; exact ⟨rfl, rfl⟩
    | succ place => cases h
  | cons c cs ih =>
    cases place with
    | zero => cases h; exact ⟨rfl, rfl⟩
    | succ place =>
      rw [cut?] at h
      split at h
      · next hwidth =>
        obtain ⟨⟨before', _⟩, hcut, hparts⟩ := Option.map_eq_some_iff.1 h
        cases hparts
        obtain ⟨rfl, hplace⟩ := ih hcut
        refine ⟨rfl, ?_⟩
        rw [byteLength_cons, ← hplace]
        exact (Nat.add_sub_of_le hwidth).symm
      · cases h

end SchemaCatalog.Text
