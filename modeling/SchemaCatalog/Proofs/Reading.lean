import SchemaCatalog.Json.Record
/-!
# What readers let through

A reader ensures a property when every value that it reads has it, whatever the text. The property
of a compound value follows from those of its parts: `ensures_array` for the items of an array,
`ensures_record` for a record, of which the draft keeps a property while its members are read.
-/

namespace SchemaCatalog.Json.Reader

variable {α β δ : Type}

/-- Whatever the reader reads has the property. -/
def Ensures (r : Reader α) (p : α → Prop) : Prop :=
  ∀ cs a rest, r cs = .ok (a, rest) → p a

section Steps
variable {p : α → Prop} {q : β → Prop}

theorem ensures_true (r : Reader α) : r.Ensures fun _ => True :=
  fun _ _ _ _ => trivial

theorem ensures_fail (fault : ReadFault) : (fail fault : Reader α).Ensures p := by
  intro cs a rest h
  cases h

theorem ensures_pure {a : α} (h : p a) : (pure a : Reader α).Ensures p := by
  intro cs b rest hb
  cases hb
  exact h

theorem ensures_bind {r : Reader α} {f : α → Reader β} (hr : r.Ensures p)
    (hf : ∀ a, p a → (f a).Ensures q) : (r >>= f).Ensures q := by
  intro cs b rest h
  simp only [bind] at h
  split at h
  · rename_i a rest' ha
    exact hf a (hr cs a rest' ha) rest' b rest h
  · cases h

/-- A step whose result does not matter. -/
theorem ensures_then {r : Reader α} {f : α → Reader β} (hf : ∀ a, (f a).Ensures q) :
    (r >>= f).Ensures q :=
  ensures_bind (ensures_true r) fun a _ => hf a

theorem ensures_map {r : Reader α} {f : α → β} (hr : r.Ensures p) (hf : ∀ a, p a → q (f a)) :
    (f <$> r).Ensures q :=
  ensures_bind hr fun a ha => ensures_pure (hf a ha)

theorem ensures_within {r : Reader α} (hr : r.Ensures p) : r.within.Ensures p := by
  intro cs a rest h
  simp only [within] at h
  cases hcs : r cs with
  | ok x =>
    rw [hcs] at h
    cases h
    exact hr cs a rest hcs
  | error e =>
    rw [hcs] at h
    cases h

theorem ensures_check {x : Except ReadFault α} (h : ∀ a, x = .ok a → p a) :
    (check x).Ensures p := by
  cases x with
  | ok a => exact ensures_pure (h a rfl)
  | error fault => exact ensures_fail fault

theorem of_run {r : Reader α} (hr : r.Ensures p) {s : String} {a : α} (h : r.run s = .ok a) :
    p a := by
  unfold run at h
  split at h
  · cases h
  · rename_i b rest hb
    split at h
    · cases h
      exact hr _ _ _ hb
    · cases h

end Steps

/-! ## Arrays -/

theorem ensures_itemsFrom {item : Reader α} {p : α → Prop} (h : item.Ensures p) (first : Bool)
    (bound : List Char) : (itemsFrom item first bound).Ensures fun xs => ∀ x ∈ xs, p x := by
  induction bound generalizing first with
  | nil => exact ensures_fail _
  | cons _ bound ih =>
    -- an item and those behind it, with a comma in front of all but the first
    have hrest : (do let x ← item; let xs ← itemsFrom item false bound; pure (x :: xs)).Ensures
        fun xs => ∀ x ∈ xs, p x :=
      ensures_bind h fun x hx => ensures_bind (ih false) fun xs hxs =>
        ensures_pure (by simpa using ⟨hx, hxs⟩)
    unfold itemsFrom
    refine ensures_then fun next => ?_
    split
    · exact ensures_then fun _ => ensures_pure (by simp)
    · split
      · exact ensures_then fun _ => hrest
      · exact hrest

theorem ensures_array {item : Reader α} {p : α → Prop} (h : item.Ensures p) :
    (array item).Ensures fun xs => ∀ x ∈ xs, p x :=
  ensures_then fun _ => ensures_then fun bound => ensures_itemsFrom (ensures_within h) true bound

/-! ## Records -/

section Records
variable {p : α → Prop} {draft : δ → Prop}

theorem ensures_membersFrom {member : δ → String → Reader δ}
    (h : ∀ acc name, draft acc → (member acc name).Ensures draft) (first : Bool) {acc : δ}
    (hacc : draft acc) (bound : List Char) :
    (membersFrom member first acc bound).Ensures draft := by
  induction bound generalizing first acc with
  | nil => exact ensures_fail _
  | cons _ bound ih =>
    have hrest : (do let name ← string; let acc ← member acc name
                     membersFrom member false acc bound).Ensures draft :=
      ensures_then fun name => ensures_bind (h acc name hacc) fun _ h' => ih false h'
    unfold membersFrom
    refine ensures_then fun next => ?_
    split
    · exact ensures_then fun _ => ensures_pure hacc
    · split
      · exact ensures_then fun _ => hrest
      · exact hrest

theorem ensures_namedMember {members : List (Member δ)}
    (h : ∀ m ∈ members, ∀ d, draft d → (m.read d).Ensures draft) (d : δ) (name : String)
    (hd : draft d) : (namedMember members d name).Ensures draft := by
  unfold namedMember
  split
  · exact ensures_then fun _ => ensures_then fun _ => ensures_pure hd
  · rename_i m hm
    split
    · exact ensures_fail _
    · exact ensures_then fun _ => h m (List.mem_of_find?_eq_some hm) d hd

theorem ensures_placedMembers {members : List (Member δ)}
    (h : ∀ m ∈ members, ∀ d, draft d → (m.read d).Ensures draft) (first : Bool) {d : δ}
    (hd : draft d) : (placedMembers first d members).Ensures draft := by
  induction members generalizing first d with
  | nil => exact ensures_then fun _ => ensures_pure hd
  | cons m rest ih =>
    have hrest : (do placedMembers false (← m.read d) rest).Ensures draft :=
      ensures_bind (h m (by simp) d hd) fun _ h' =>
        ih (fun m' hm' => h m' (List.mem_cons_of_mem _ hm')) false h'
    unfold placedMembers
    refine ensures_then fun next => ?_
    split
    · split
      · exact ensures_then fun _ => ensures_pure hd
      · exact ensures_fail _
    · split
      · exact ensures_then fun _ => hrest
      · exact hrest

/-- A property of the draft that the start has and every member keeps holds when the record is
finished, in either form. -/
theorem ensures_record (draft : δ → Prop) {members : List (Member δ)} {start : δ}
    {finish : δ → Except ReadFault α}
    (hmembers : ∀ m ∈ members, ∀ d, draft d → (m.read d).Ensures draft) (hstart : draft start)
    (hfinish : ∀ d a, draft d → finish d = .ok a → p a) :
    (record members start finish).Ensures p := by
  unfold record
  refine ensures_then fun next => ?_
  split
  · exact ensures_then fun _ => ensures_bind (ensures_placedMembers hmembers true hstart)
      fun d hd => ensures_check fun a ha => hfinish d a hd ha
  · refine ensures_bind ?_ fun d hd => ensures_check fun a ha => hfinish d a hd ha
    exact ensures_then fun _ => ensures_then fun bound =>
      ensures_membersFrom (ensures_namedMember hmembers) true hstart bound

end Records

end SchemaCatalog.Json.Reader
