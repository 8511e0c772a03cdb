/-!
# Keyed entries

A table of entries in which no key occurs twice. Entries stand in the order in which their keys
were first put in; what is asked of a table by key does not depend on that order.
-/

namespace SchemaCatalog

/-- Entries with distinct keys. -/
structure Lookup (κ ν : Type) where
  entries : List (κ × ν)
  distinct : (entries.map (·.1)).Nodup

namespace Lookup

variable {κ ν : Type}

/-- The table without entries. -/
def empty : Lookup κ ν := ⟨[], .nil⟩

variable [DecidableEq κ]

/-- The value of the key among the entries. -/
def findIn (k : κ) : List (κ × ν) → Option ν
  | [] => none
  | e :: rest => if e.1 = k then some e.2 else findIn k rest

/-- The value entered under the key. -/
def find? (t : Lookup κ ν) (k : κ) : Option ν :=
  findIn k t.entries

/-- The entries with the value of one key changed; a new key comes last. -/
def alterIn (k : κ) (f : Option ν → ν) : List (κ × ν) → List (κ × ν)
  | [] => [(k, f none)]
  | e :: rest => if e.1 = k then (k, f (some e.2)) :: rest else e :: alterIn k f rest

theorem mem_keys_alterIn {k x : κ} {f : Option ν → ν} {l : List (κ × ν)} :
    x ∈ (alterIn k f l).map (·.1) ↔ x = k ∨ x ∈ l.map (·.1) := by
  induction l with
  | nil => simp [alterIn]
  | cons e rest ih =>
    simp only [alterIn]
    split
    · rename_i h
      simp [← h]
    · simp only [List.map_cons, List.mem_cons, ih]
      constructor <;> (rintro (h | h | h) <;> simp [h])

theorem nodup_alterIn (k : κ) (f : Option ν → ν) {l : List (κ × ν)} (h : (l.map (·.1)).Nodup) :
    ((alterIn k f l).map (·.1)).Nodup := by
  induction l with
  | nil => simp [alterIn]
  | cons e rest ih =>
    obtain ⟨he, hr⟩ := List.nodup_cons.1 h
    simp only [alterIn]
    split
    · rename_i hk
      exact List.nodup_cons.2 ⟨hk ▸ he, hr⟩
    · rename_i hk
      rw [List.map_cons, List.nodup_cons]
      refine ⟨fun hm => ?_, ih hr⟩
      rcases mem_keys_alterIn.1 hm with hm | hm
      · exact hk hm
      · exact he hm

/-- The table with the value of one key changed, from nothing if the key was not there. -/
def alter (t : Lookup κ ν) (k : κ) (f : Option ν → ν) : Lookup κ ν :=
  ⟨alterIn k f t.entries, nodup_alterIn k f t.distinct⟩

/-- The table with the value entered under the key, in place of any earlier one. -/
def insert (t : Lookup κ ν) (k : κ) (v : ν) : Lookup κ ν :=
  t.alter k fun _ => v

/-- The table without the key. -/
def erase (t : Lookup κ ν) (k : κ) : Lookup κ ν :=
  ⟨t.entries.filter fun e => e.1 ≠ k,
    t.distinct.sublist (List.filter_sublist.map _)⟩

/-- The table of the pairs of a list, later pairs in place of earlier ones. -/
def ofList (l : List (κ × ν)) : Lookup κ ν :=
  l.foldl (fun t e => t.insert e.1 e.2) empty

theorem findIn_alterIn (k x : κ) (f : Option ν → ν) (l : List (κ × ν)) :
    findIn x (alterIn k f l) = if k = x then some (f (findIn k l)) else findIn x l := by
  induction l with
  | nil => simp [alterIn, findIn]
  | cons e rest ih =>
    by_cases hk : e.1 = k
    · by_cases hx : k = x
      · simp [alterIn, findIn, hk, hx]
      · simp [alterIn, findIn, hk, hx]
    · by_cases hx : k = x
      · subst hx
        simp [alterIn, findIn, hk, ih]
      · simp only [alterIn, findIn, hk, if_false, ih, hx]

/-- A changed key has the changed value, every other key the value it had. -/
theorem find?_alter (t : Lookup κ ν) (k x : κ) (f : Option ν → ν) :
    (t.alter k f).find? x = if k = x then some (f (t.find? k)) else t.find? x :=
  findIn_alterIn k x f t.entries

@[simp]
theorem find?_empty (k : κ) : (empty : Lookup κ ν).find? k = none := rfl

end Lookup

end SchemaCatalog
