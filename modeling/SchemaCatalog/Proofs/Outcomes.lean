import Mathlib.Data.List.Forall2
/-!
# Results and errors

Computations that end in a result or an error, taken apart from the result. A sequence of such
computations ends in the list of their results exactly if each of them ends in its own.
-/

namespace SchemaCatalog

variable {ε ε' α β : Type}

theorem bind_ok_iff {x : Except ε α} {f : α → Except ε β} {b : β} :
    x >>= f = .ok b ↔ ∃ a, x = .ok a ∧ f a = .ok b := by
  cases x with
  | ok a =>
    refine ⟨fun h => ⟨a, rfl, h⟩, ?_⟩
    rintro ⟨_, ha, h⟩
    cases ha
    exact h
  | error e => exact ⟨nofun, nofun⟩

theorem map_ok_iff {x : Except ε α} {f : α → β} {b : β} :
    x.map f = .ok b ↔ ∃ a, x = .ok a ∧ f a = b := by
  cases x <;> simp [Except.map]

theorem ok_of_mapError {x : Except ε α} {f : ε → ε'} {a : α} (h : x.mapError f = .ok a) :
    x = .ok a := by
  cases x with
  | ok b => cases h; rfl
  | error e => cases h

theorem ok_of_toOption {x : Except ε α} {a : α} (h : x.toOption = some a) : x = .ok a := by
  cases x with
  | ok b => cases h; rfl
  | error e => cases h

theorem mapM_cons_ok_iff {f : α → Except ε β} {a : α} {l : List α} {bs : List β} :
    (a :: l).mapM f = .ok bs ↔ ∃ b bs', f a = .ok b ∧ l.mapM f = .ok bs' ∧ bs = b :: bs' := by
  rw [List.mapM_cons, bind_ok_iff]
  constructor
  · rintro ⟨b, hb, h⟩
    obtain ⟨bs', hbs', h⟩ := bind_ok_iff.1 h
    cases h
    exact ⟨b, bs', hb, hbs', rfl⟩
  · rintro ⟨b, bs', hb, hbs', rfl⟩
    exact ⟨b, hb, bind_ok_iff.2 ⟨bs', hbs', rfl⟩⟩

/-- A list of computations ends in results exactly if each of them ends in the one at its place. -/
theorem mapM_ok_iff {f : α → Except ε β} {l : List α} {bs : List β} :
    l.mapM f = .ok bs ↔ l.map f = bs.map .ok := by
  induction l generalizing bs with
  | nil => cases bs <;> simp [pure, Except.pure]
  | cons a rest ih =>
    rw [mapM_cons_ok_iff]
    constructor
    · rintro ⟨b, bs', hb, hbs', rfl⟩
      rw [List.map_cons, List.map_cons, hb, ih.1 hbs']
    · intro h
      cases bs with
      | nil => cases h
      | cons b bs' =>
        obtain ⟨hb, hrest⟩ := List.cons.inj h
        exact ⟨b, bs', hb, ih.2 hrest, rfl⟩

/-- If a relation says what each computation ends in, it says so of the list, place by place. -/
theorem mapM_ok_iff_forall₂ {f : α → Except ε β} {rel : α → β → Prop} {l : List α} {bs : List β}
    (h : ∀ a ∈ l, ∀ b, f a = .ok b ↔ rel a b) :
    l.mapM f = .ok bs ↔ List.Forall₂ rel l bs := by
  induction l generalizing bs with
  | nil => cases bs <;> simp [pure, Except.pure]
  | cons a rest ih =>
    have hrest := fun a' ha' => h a' (List.mem_cons_of_mem a ha')
    rw [mapM_cons_ok_iff]
    constructor
    · rintro ⟨b, bs', hb, hbs', rfl⟩
      exact .cons ((h a List.mem_cons_self b).1 hb) ((ih hrest).1 hbs')
    · intro hall
      cases hall with
      | @cons _ b _ bs' hb hbs' =>
        exact ⟨b, bs', (h a List.mem_cons_self b).2 hb, (ih hrest).2 hbs', rfl⟩

theorem mapM_congr {f g : α → Except ε β} {l : List α} (h : ∀ a ∈ l, f a = g a) :
    l.mapM f = l.mapM g := by
  induction l with
  | nil => rfl
  | cons a rest ih =>
    rw [List.mapM_cons, List.mapM_cons, h a (by simp), ih fun a' ha' => h a' (List.mem_cons_of_mem _ ha')]

/-- Computations that come to the same results one by one do so as a list. -/
theorem mapM_ok_congr {f g : α → Except ε β} {l : List α}
    (h : ∀ a ∈ l, ∀ b, f a = .ok b ↔ g a = .ok b) {bs : List β} :
    l.mapM f = .ok bs ↔ l.mapM g = .ok bs := by
  induction l generalizing bs with
  | nil => rfl
  | cons a rest ih =>
    simp only [mapM_cons_ok_iff, h a (by simp), ih fun a' ha' => h a' (List.mem_cons_of_mem _ ha')]

/-- Computations in another order come to the same results in another order. -/
theorem exists_mapM_perm {f : α → Except ε β} {l l' : List α} (hp : l.Perm l') {bs : List β}
    (h : l.mapM f = .ok bs) : ∃ bs', l'.mapM f = .ok bs' ∧ bs.Perm bs' := by
  induction hp generalizing bs with
  | nil => exact ⟨bs, h, .refl _⟩
  | cons a _ ih =>
    obtain ⟨b, rest, hb, hrest, rfl⟩ := mapM_cons_ok_iff.1 h
    obtain ⟨rest', hrest', hp⟩ := ih hrest
    exact ⟨b :: rest', mapM_cons_ok_iff.2 ⟨b, rest', hb, hrest', rfl⟩, hp.cons b⟩
  | swap a a' l =>
    obtain ⟨b', _, hb', htail, rfl⟩ := mapM_cons_ok_iff.1 h
    obtain ⟨b, rest, hb, hrest, rfl⟩ := mapM_cons_ok_iff.1 htail
    exact ⟨b :: b' :: rest, mapM_cons_ok_iff.2 ⟨b, _, hb, mapM_cons_ok_iff.2
      ⟨b', rest, hb', hrest, rfl⟩, rfl⟩, .swap _ _ _⟩
  | trans _ _ ih₁ ih₂ =>
    obtain ⟨cs, hcs, hp₁⟩ := ih₁ h
    obtain ⟨ds, hds, hp₂⟩ := ih₂ hcs
    exact ⟨ds, hds, hp₁.trans hp₂⟩

theorem mapM_id_map_ok (as : List α) : (as.map (.ok : α → Except ε α)).mapM id = .ok as :=
  mapM_ok_iff.2 (List.map_id _)

/-- A list of computations ends in results if each of them ends in some result. -/
theorem exists_mapM_ok {f : α → Except ε β} {l : List α} (h : ∀ a ∈ l, ∃ b, f a = .ok b) :
    ∃ bs, l.mapM f = .ok bs := by
  induction l with
  | nil => exact ⟨[], rfl⟩
  | cons a rest ih =>
    obtain ⟨b, hb⟩ := h a (by simp)
    obtain ⟨bs, hbs⟩ := ih fun a' ha' => h a' (List.mem_cons_of_mem _ ha')
    exact ⟨b :: bs, mapM_cons_ok_iff.2 ⟨b, bs, hb, hbs, rfl⟩⟩

theorem mem_mapM_iff {f : α → Except ε β} {l : List α} {bs : List β} (h : l.mapM f = .ok bs)
    {b : β} : b ∈ bs ↔ ∃ a ∈ l, f a = .ok b := by
  have hmem : Except.ok b ∈ l.map f ↔ Except.ok b ∈ bs.map (.ok : β → Except ε β) := by
    rw [mapM_ok_iff.1 h]
  simpa using hmem.symm

theorem exists_of_mem_mapM {f : α → Except ε β} {l : List α} {bs : List β}
    (h : l.mapM f = .ok bs) {b : β} (hb : b ∈ bs) : ∃ a ∈ l, f a = .ok b :=
  (mem_mapM_iff h).1 hb

theorem exists_ok_of_mapM {f : α → Except ε β} {l : List α} {bs : List β}
    (h : l.mapM f = .ok bs) {a : α} (ha : a ∈ l) : ∃ b ∈ bs, f a = .ok b := by
  have hmem : f a ∈ bs.map (.ok : β → Except ε β) := by
    rw [← mapM_ok_iff.1 h]
    exact List.mem_map_of_mem ha
  obtain ⟨b, hb, hok⟩ := List.mem_map.1 hmem
  exact ⟨b, hb, hok.symm⟩

/-! ## Errors -/

/-- A list of computations that fails does so with the error of the first one that fails. -/
theorem exists_of_mapM_error {f : α → Except ε β} {l : List α} {e : ε} (h : l.mapM f = .error e) :
    ∃ before a after, l = before ++ a :: after ∧ f a = .error e ∧
      ∀ a' ∈ before, ∃ b, f a' = .ok b := by
  induction l with
  | nil => cases h
  | cons a rest ih =>
    rw [List.mapM_cons] at h
    cases ha : f a with
    | error e' =>
      rw [ha] at h
      cases h
      exact ⟨[], a, rest, rfl, ha, by simp⟩
    | ok b =>
      rw [ha] at h
      cases hrest : rest.mapM f with
      | ok bs => rw [hrest] at h; cases h
      | error e' =>
        rw [hrest] at h
        cases h
        obtain ⟨before, a', after, rfl, ha', hbefore⟩ := ih hrest
        refine ⟨a :: before, a', after, rfl, ha', ?_⟩
        exact List.forall_mem_cons.2 ⟨⟨b, ha⟩, hbefore⟩

/-- If the computation fails, its error has the property. -/
def FailsOnly (p : ε → Prop) (x : Except ε α) : Prop :=
  ∀ e, x = .error e → p e

variable {p : ε → Prop}

theorem failsOnly_ok (a : α) : FailsOnly p (.ok a : Except ε α) := by
  intro e h
  cases h

theorem failsOnly_error {e : ε} (h : p e) : FailsOnly p (.error e : Except ε α) := by
  intro e' he
  cases he
  exact h

theorem failsOnly_bind {x : Except ε α} {f : α → Except ε β} (hx : FailsOnly p x)
    (hf : ∀ a, FailsOnly p (f a)) : FailsOnly p (x >>= f) := by
  intro e h
  cases x with
  | ok a => exact hf a e h
  | error e' =>
    cases h
    exact hx e rfl

theorem failsOnly_mapM {f : α → Except ε β} (hf : ∀ a, FailsOnly p (f a)) (l : List α) :
    FailsOnly p (l.mapM f) := by
  induction l with
  | nil => exact failsOnly_ok []
  | cons a rest ih =>
    rw [List.mapM_cons]
    exact failsOnly_bind (hf a) fun b => failsOnly_bind ih fun bs => failsOnly_ok (b :: bs)

end SchemaCatalog
