import Mathlib
import SchemaCatalog.Proofs.BuildableTables
/-!
# Columns found by name

A column is found by halving the list of columns, which is in the order of their names. The halving
keeps every place that can have the name between its bounds, so what it finds is the column of that
name, and it finds one if there is one (`Table.WellFormed.column?_eq_some_iff`). It is what going
through the columns one by one finds, and what is found under all names settles the columns
(`Table.column?_characterizes`).
-/

namespace SchemaCatalog.Table

variable {columns : List Column} {name : String} {c d : Column}

/-- Places are ordered as the names that stand at them. -/
theorem lt_iff_name_lt (h : columns.Pairwise fun c d => c.name < d.name) {i j : Nat}
    (hc : columns[i]? = some c) (hd : columns[j]? = some d) : i < j ↔ c.name < d.name := by
  obtain ⟨hi, rfl⟩ := List.getElem?_eq_some_iff.1 hc
  obtain ⟨hj, rfl⟩ := List.getElem?_eq_some_iff.1 hd
  have hlt := List.pairwise_iff_getElem.1 h
  constructor
  · exact hlt i j hi hj
  · intro hname
    by_contra hle
    rcases Nat.lt_or_eq_of_le (Nat.le_of_not_lt hle) with hji | rfl
    · exact lt_asymm hname (hlt j i hj hi hji)
    · exact lt_irrefl _ hname

/-- The search finds the column of that name between its bounds. -/
theorem search_eq_some_iff (h : columns.Pairwise fun c d => c.name < d.name) {low high : Nat}
    (hhigh : high ≤ columns.length) :
    search columns.toArray name low high = some c ↔
      ∃ i, low ≤ i ∧ i < high ∧ columns[i]? = some c ∧ c.name = name := by
  fun_induction search columns.toArray name low high with
  | case1 low high hlt mid hnone =>
    -- the middle lies within the list
    have hmid : mid < columns.length := by omega
    simp [hmid] at hnone
  | case2 low high hlt mid d hd heq =>
    have hname : d.name = name := compare_eq_iff_eq.1 heq
    have hd : columns[mid]? = some d := by simpa using hd
    constructor
    · rintro ⟨⟩
      exact ⟨mid, by omega, by omega, hd, hname⟩
    · rintro ⟨i, -, -, hc, hsame⟩
      have hbelow := lt_iff_name_lt h hc hd
      have habove := lt_iff_name_lt h hd hc
      rw [hname, hsame, iff_false_right (lt_irrefl name)] at hbelow habove
      obtain rfl : i = mid := by omega
      rw [← hd, hc]
  | case3 low high hlt mid d hd hless ih =>
    have hless : d.name < name := compare_lt_iff_lt.1 hless
    have hd : columns[mid]? = some d := by simpa using hd
    rw [ih hhigh]
    refine exists_congr fun i => ?_
    constructor
    · rintro ⟨hlow, hi, hc, hname⟩
      exact ⟨by omega, hi, hc, hname⟩
    · rintro ⟨-, hi, hc, hname⟩
      exact ⟨(lt_iff_name_lt h hd hc).2 (hname ▸ hless), hi, hc, hname⟩
  | case4 low high hlt mid d hd hgreater ih =>
    have hgreater : name < d.name := compare_gt_iff_gt.1 hgreater
    have hd : columns[mid]? = some d := by simpa using hd
    rw [ih (by omega)]
    refine exists_congr fun i => ?_
    constructor
    · rintro ⟨hlow, hi, hc, hname⟩
      exact ⟨hlow, by omega, hc, hname⟩
    · rintro ⟨hlow, -, hc, hname⟩
      exact ⟨hlow, (lt_iff_name_lt h hc hd).2 (hname ▸ hgreater), hc, hname⟩
  | case5 low high hlt =>
    constructor
    · nofun
    · rintro ⟨i, hlow, hi, -⟩
      omega

/-- What is found under a name among columns in the order of their names. -/
theorem column?_eq_some_iff_of_increasing {t : Table}
    (h : t.columns.Pairwise fun c d => Text.Utf8.encode c.name < Text.Utf8.encode d.name) :
    t.column? name = some c ↔ c ∈ t.columns ∧ c.name = name := by
  have hlt : t.columns.Pairwise fun c d => c.name < d.name :=
    h.imp fun hcd => Text.Utf8.encode_lt_iff.1 hcd
  rw [column?, search_eq_some_iff hlt (le_refl _), List.mem_iff_getElem?]
  constructor
  · rintro ⟨i, -, -, hc, hname⟩
    exact ⟨⟨i, hc⟩, hname⟩
  · rintro ⟨⟨i, hc⟩, hname⟩
    obtain ⟨hi, -⟩ := List.getElem?_eq_some_iff.1 hc
    exact ⟨i, Nat.zero_le i, hi, hc, hname⟩

/-- What is found under a name is the column of that name. -/
theorem WellFormed.column?_eq_some_iff {t : Table} (h : t.WellFormed) :
    t.column? name = some c ↔ c ∈ t.columns ∧ c.name = name :=
  column?_eq_some_iff_of_increasing h.increasing

/-! ## Columns found one by one -/

theorem nodup_names_of_increasing
    (h : columns.Pairwise fun c d => Text.Utf8.encode c.name < Text.Utf8.encode d.name) :
    (columns.map (·.name)).Nodup := by
  refine List.pairwise_map.2 (h.imp fun {c d} hcd hname => ?_)
  rw [hname] at hcd
  exact List.lt_irrefl _ hcd

/-- Where names differ, the first column of a name is the one of that name. -/
theorem find?_name_eq_some_iff (hn : (columns.map (·.name)).Nodup) :
    columns.find? (·.name = name) = some c ↔ c ∈ columns ∧ c.name = name := by
  constructor
  · intro h
    exact ⟨List.mem_of_find?_eq_some h, by simpa using List.find?_some h⟩
  · rintro ⟨hc, rfl⟩
    cases hfind : columns.find? (·.name = c.name) with
    | none =>
      have hnone := List.find?_eq_none.1 hfind c hc
      simp at hnone
    | some d =>
      have hname : d.name = c.name := by simpa using List.find?_some hfind
      rw [List.inj_on_of_nodup_map hn (List.mem_of_find?_eq_some hfind) hc hname]

theorem countP_name_le_one (hn : (columns.map (·.name)).Nodup) (name : String) :
    columns.countP (·.name = name) ≤ 1 := by
  have hcount := List.nodup_iff_count_le_one.1 hn name
  rw [List.count, List.countP_map] at hcount
  exact hcount

/-! ## Columns settled by what is found -/

section Found
variable {t u : Table} {name name' : TableName} {columns columns' : List Column}
  {keys keys' : List ForeignKey}

/-- Tables in which the same is found under every name have the same columns. -/
theorem columns_eq_of_column?
    (ht : t.columns.Pairwise fun c d => Text.Utf8.encode c.name < Text.Utf8.encode d.name)
    (hu : u.columns.Pairwise fun c d => Text.Utf8.encode c.name < Text.Utf8.encode d.name)
    (h : ∀ column, t.column? column = u.column? column) : t.columns = u.columns := by
  have hmem : ∀ c, c ∈ t.columns ↔ c ∈ u.columns := by
    intro c
    have hfound : t.column? c.name = some c ↔ u.column? c.name = some c := by rw [h]
    rw [column?_eq_some_iff_of_increasing ht, column?_eq_some_iff_of_increasing hu] at hfound
    simpa using hfound
  refine eq_of_increasing ht hu ((List.perm_ext_iff_of_nodup ?_ ?_).2 hmem)
  · exact (nodup_names_of_increasing ht).of_map _
  · exact (nodup_names_of_increasing hu).of_map _

theorem increasing_of_ofColumns (h : ofColumns name columns keys = .ok t) :
    t.columns.Pairwise fun c d => Text.Utf8.encode c.name < Text.Utf8.encode d.name :=
  (ofColumns_eq_ok_iff_madeOf.1 h).2.2.increasing

/-- In a table that comes out of the checks, the search for a name finds what going through the columns
finds: the column of that name, of which there is one at most. Two such tables are the same exactly if
they have the same name and foreign keys and the same is found in them under every name. -/
theorem column?_characterizes (ht : ofColumns name columns keys = .ok t)
    (hu : ofColumns name' columns' keys' = .ok u) :
    (∀ column, t.column? column = t.columns.find? (·.name = column)) ∧
    (∀ column c, t.column? column = some c ↔ c ∈ t.columns ∧ c.name = column) ∧
    (∀ column, t.columns.countP (·.name = column) ≤ 1) ∧
    (t = u ↔ t.name = u.name ∧ t.foreignKeys = u.foreignKeys ∧
      ∀ column, t.column? column = u.column? column) := by
  have hincreasing := increasing_of_ofColumns ht
  have hdistinct := nodup_names_of_increasing hincreasing
  refine ⟨fun column => Option.ext fun c => ?_, fun column c => ?_, countP_name_le_one hdistinct, ?_⟩
  · rw [column?_eq_some_iff_of_increasing hincreasing, find?_name_eq_some_iff hdistinct]
  · exact column?_eq_some_iff_of_increasing hincreasing
  · constructor
    · rintro rfl
      exact ⟨rfl, rfl, fun _ => rfl⟩
    · rintro ⟨hname, hkeys, hfound⟩
      have hcolumns := columns_eq_of_column? hincreasing (increasing_of_ofColumns hu) hfound
      cases t
      cases u
      simp_all

end Found

/-- Columns in no order. -/
def scattered : List Column := [("é", "INT"), ("b", "TEXT"), ("Z", "INT"), ("ab", "REAL")].map
  fun (name, type) => { name := name, dataType := type }

/-- The table of these columns is that of the reversed ones, since the same is found in both. There is a
column `ab` and no column `a`. -/
theorem column?_characterizes_scattered : ∃ t u,
    ofColumns ⟨"m", "t"⟩ scattered [] = .ok t ∧ ofColumns ⟨"m", "t"⟩ scattered.reverse [] = .ok u ∧
      t.columns.map (·.name) = ["Z", "ab", "b", "é"] ∧
      t.column? "ab" = some { name := "ab", dataType := "REAL" } ∧ t.column? "a" = none ∧ t = u := by
  have hsome : (ofColumns ⟨"m", "t"⟩ scattered []).toOption.map (·.columns.map (·.name)) =
      some ["Z", "ab", "b", "é"] := by cbv
  have hreversed : (ofColumns ⟨"m", "t"⟩ scattered.reverse []).toOption.isSome := by cbv
  obtain ⟨t, ht, hnames⟩ := Option.map_eq_some_iff.1 hsome
  obtain ⟨u, hu⟩ := Option.isSome_iff_exists.1 hreversed
  replace ht := ok_of_toOption ht
  replace hu := ok_of_toOption hu
  obtain ⟨-, htname, htmade⟩ := ofColumns_eq_ok_iff_madeOf.1 ht
  obtain ⟨-, huname, humade⟩ := ofColumns_eq_ok_iff_madeOf.1 hu
  obtain ⟨hlinear, hfound, -, hsame⟩ := column?_characterizes ht hu
  obtain ⟨-, hfound', -, -⟩ := column?_characterizes hu ht
  refine ⟨t, u, ht, hu, hnames, ?_, ?_, ?_⟩
  · rw [hfound, htmade.columns.mem_iff]
    decide
  · rw [hlinear, List.find?_eq_none]
    intro c hc
    have hall : ∀ c ∈ scattered, ¬ decide (c.name = "a") := by decide
    exact hall c (htmade.columns.mem_iff.1 hc)
  · refine hsame.2 ⟨htname.trans huname.symm, SortedSet.ext fun k => ?_, fun column => ?_⟩
    · rw [htmade.foreignKeys, humade.foreignKeys]
    · refine Option.ext fun c => ?_
      rw [hfound, hfound', htmade.columns.mem_iff, humade.columns.mem_iff, List.mem_reverse]

end SchemaCatalog.Table
