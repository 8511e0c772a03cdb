/-!
# Sets in increasing order

A finite set kept as the list of its members in increasing order. Such a list is the only one with
these members, so two sets are equal exactly when they have the same members (`SortedSet.ext`).
-/

namespace SchemaCatalog

/-- A finite set, listed in strictly increasing order. -/
structure SortedSet (α : Type) [Ord α] where
  toList : List α
  sorted : toList.Pairwise fun a b => compare a b = .lt

namespace SortedSet

variable {α : Type} [Ord α]

instance [DecidableEq α] : DecidableEq (SortedSet α) := fun s t =>
  if h : s.toList = t.toList then
    isTrue (by cases s; cases t; simp_all)
  else
    isFalse fun e => h (e ▸ rfl)

instance : Membership α (SortedSet α) := ⟨fun s a => a ∈ s.toList⟩

theorem mem_toList {s : SortedSet α} {a : α} : a ∈ s.toList ↔ a ∈ s := Iff.rfl

/-- The set without members. -/
def empty : SortedSet α := ⟨[], .nil⟩

/-- The number of members. -/
def size (s : SortedSet α) : Nat := s.toList.length

/-- The list with `a` put at its place, unless it is there. -/
def insertInto (a : α) : List α → List α
  | [] => [a]
  | b :: rest =>
    match compare a b with
    | .lt => a :: b :: rest
    | .eq => b :: rest
    | .gt => b :: insertInto a rest

variable [Std.LawfulEqOrd α]

theorem mem_insertInto {a x : α} {l : List α} : x ∈ insertInto a l ↔ x = a ∨ x ∈ l := by
  induction l with
  | nil => simp [insertInto]
  | cons b rest ih =>
    simp only [insertInto]
    split
    · simp
    · rename_i h
      have : a = b := Std.LawfulEqOrd.eq_of_compare h
      subst this
      simp
    · simp only [List.mem_cons, ih]
      constructor <;> (rintro (h | h | h) <;> simp [h])

variable [Std.TransOrd α]

theorem sorted_insertInto (a : α) {l : List α} (h : l.Pairwise fun a b => compare a b = .lt) :
    (insertInto a l).Pairwise fun a b => compare a b = .lt := by
  induction l with
  | nil => simp [insertInto]
  | cons b rest ih =>
    obtain ⟨hb, hr⟩ := List.pairwise_cons.1 h
    simp only [insertInto]
    split
    · rename_i hab
      refine List.pairwise_cons.2 ⟨fun x hx => ?_, h⟩
      rcases List.mem_cons.1 hx with rfl | hx
      · exact hab
      · exact Std.TransCmp.lt_trans hab (hb x hx)
    · exact h
    · rename_i hab
      refine List.pairwise_cons.2 ⟨fun x hx => ?_, ih hr⟩
      rcases mem_insertInto.1 hx with rfl | hx
      · exact Std.OrientedCmp.gt_iff_lt.1 hab
      · exact hb x hx

/-- The set with one more member. -/
def insert (s : SortedSet α) (a : α) : SortedSet α :=
  ⟨insertInto a s.toList, sorted_insertInto a s.sorted⟩

@[simp]
theorem mem_insert {s : SortedSet α} {a x : α} : x ∈ s.insert a ↔ x = a ∨ x ∈ s :=
  mem_insertInto

/-- The set of the members of a list. -/
def ofList (l : List α) : SortedSet α :=
  l.foldl insert empty

theorem mem_foldl_insert {l : List α} {s : SortedSet α} {x : α} :
    x ∈ l.foldl insert s ↔ x ∈ l ∨ x ∈ s := by
  induction l generalizing s with
  | nil => simp
  | cons a rest ih =>
    rw [List.foldl_cons, ih, mem_insert, List.mem_cons]
    exact ⟨by rintro (h | h | h) <;> simp [h], by rintro ((h | h) | h) <;> simp [h]⟩

@[simp]
theorem mem_ofList {l : List α} {x : α} : x ∈ ofList l ↔ x ∈ l := by
  rw [ofList, mem_foldl_insert]
  exact or_iff_left fun h => by cases (show x ∈ ([] : List α) from h)

/-- An increasing list is determined by its members. -/
theorem toList_ext {l m : List α} (hl : l.Pairwise fun a b => compare a b = .lt)
    (hm : m.Pairwise fun a b => compare a b = .lt) (h : ∀ x, x ∈ l ↔ x ∈ m) : l = m := by
  have irrefl (a : α) : compare a a ≠ .lt := by rw [Std.ReflOrd.compare_self]; decide
  induction l generalizing m with
  | nil =>
    cases m with
    | nil => rfl
    | cons b _ => exact absurd ((h b).2 (by simp)) (by simp)
  | cons a l ih =>
    cases m with
    | nil => exact absurd ((h a).1 (by simp)) (by simp)
    | cons b m =>
      obtain ⟨ha, hl'⟩ := List.pairwise_cons.1 hl
      obtain ⟨hb, hm'⟩ := List.pairwise_cons.1 hm
      have hab : a = b := by
        rcases List.mem_cons.1 ((h a).1 (by simp)) with e | hin
        · exact e
        rcases List.mem_cons.1 ((h b).2 (by simp)) with e | hin'
        · exact e.symm
        exact absurd (Std.TransCmp.lt_trans (hb a hin) (ha b hin')) (irrefl b)
      subst hab
      refine congrArg (a :: ·) (ih hl' hm' fun x => ?_)
      constructor
      · intro hx
        rcases List.mem_cons.1 ((h x).1 (by simp [hx])) with e | hx'
        · exact absurd (e ▸ ha x hx) (irrefl a)
        · exact hx'
      · intro hx
        rcases List.mem_cons.1 ((h x).2 (by simp [hx])) with e | hx'
        · exact absurd (e ▸ hb x hx) (irrefl a)
        · exact hx'

/-- Sets with the same members are equal. -/
theorem ext {s t : SortedSet α} (h : ∀ x, x ∈ s ↔ x ∈ t) : s = t := by
  cases s with
  | mk l hl =>
    cases t with
    | mk m hm =>
      have : l = m := toList_ext hl hm h
      subst this
      rfl

@[simp]
theorem ofList_toList (s : SortedSet α) : ofList s.toList = s :=
  ext fun _ => by rw [mem_ofList, mem_toList]

/-- The order of sets is that of their listings. -/
instance : Ord (SortedSet α) := ⟨compareOn toList⟩

instance : Std.TransOrd (SortedSet α) :=
  inferInstanceAs (Std.TransCmp (compareOn toList))

instance : Std.LawfulEqOrd (SortedSet α) where
  eq_of_compare {s t} h := by
    have : s.toList = t.toList := Std.LawfulEqOrd.eq_of_compare h
    cases s; cases t; simp_all

end SortedSet

end SchemaCatalog
