import SchemaCatalog.Proofs.ColumnLookup
import SchemaCatalog.Proofs.RowVersion
/-!
# Tables with one more column

A table is extended by having all its columns checked again. Nothing can be found wrong with those
that it has, so what counts is the new column alone: its name, its two flags and its position, for
which there are only two choices (`Table.WellFormed.representable_append_iff`). The table then has
that column besides all it had, and columns can be added in any order
(`Table.WellFormed.withColumn_extends`).
-/

namespace SchemaCatalog

/-- Places that are counted from zero go on with the next number and with no other. -/
theorem perm_range_append_iff {l : List Nat} {size n : Nat} (h : l.Perm (List.range size)) :
    (∃ m, (l ++ [n]).Perm (List.range m)) ↔ n = size := by
  have happend : (l ++ [n]).Perm (List.range size ++ [n]) := h.append_right [n]
  constructor
  · rintro ⟨m, hm⟩
    have hperm := happend.symm.trans hm
    have hlength : m = size + 1 := by simpa using hperm.length_eq.symm
    rw [hlength, List.range_succ, List.perm_append_left_iff] at hperm
    simpa using hperm
  · rintro rfl
    exact ⟨n + 1, List.range_succ ▸ happend⟩

namespace Table

variable {t u : Table} {c d : Column}

/-- What a column needs in order to be added to the table. -/
structure HasRoomFor (t : Table) (c : Column) : Prop where
  isNew : ∀ d ∈ t.columns, d.name ≠ c.name
  identity : c.isIdentity → c.default? = none
  token : c.isConcurrencyToken → c.isComputed
  /-- The column is outside the key or comes behind all that are in it. -/
  position : c.keyOrdinal? = none ∨ c.keyOrdinal?.map UInt64.toNat = some t.primaryKey.length

theorem WellFormed.keyInSequence_append_iff (h : t.WellFormed) :
    KeyInSequence (t.columns ++ [c]) ↔
      c.keyOrdinal? = none ∨ c.keyOrdinal?.map UInt64.toNat = some t.primaryKey.length := by
  rw [KeyInSequence, List.filterMap_append]
  cases hordinal : c.keyOrdinal? with
  | none =>
    have hlast : [c].filterMap (fun c => c.keyOrdinal?.map UInt64.toNat) = [] := by simp [hordinal]
    rw [hlast, List.append_nil]
    exact iff_of_true ⟨_, h.positions⟩ (.inl rfl)
  | some ordinal =>
    have hlast : [c].filterMap (fun c => c.keyOrdinal?.map UInt64.toNat) = [ordinal.toNat] := by
      simp [hordinal]
    rw [hlast, perm_range_append_iff h.positions]
    simp

/-- The columns with the new one can be those of a table exactly if there is room for it. -/
theorem WellFormed.representable_append_iff (h : t.WellFormed) :
    Representable (t.columns ++ [c]) t.foreignKeys.toList ↔ t.HasRoomFor c := by
  constructor
  · intro hr
    have hnew := (nodup_names_append.1 hr.distinct).2
    exact {
      isNew := fun d hd hname => hnew (List.mem_map.2 ⟨d, hd, hname⟩)
      identity := hr.identity c (by simp)
      token := hr.token c (by simp)
      position := h.keyInSequence_append_iff.1 hr.positions }
  · intro hc
    have hnew : c.name ∉ t.columns.map (·.name) := by
      intro hmem
      obtain ⟨d, hd, hname⟩ := List.mem_map.1 hmem
      exact hc.isNew d hd hname
    refine ⟨by simp, nodup_names_append.2 ⟨h.distinct, hnew⟩, ?_, ?_,
      h.keyInSequence_append_iff.2 hc.position, ?_⟩
    · rintro d hd
      rcases List.mem_append.1 hd with hd | hd
      · exact h.identity d hd
      · rw [List.mem_singleton.1 hd]
        exact hc.identity
    · rintro d hd
      rcases List.mem_append.1 hd with hd | hd
      · exact fun htoken => (h.token d hd htoken).1
      · rw [List.mem_singleton.1 hd]
        exact hc.token
    · intro k hk column hcolumn
      obtain ⟨d, hd, hname⟩ := h.foreignColumns k hk column hcolumn
      exact ⟨d, List.mem_append_left _ hd, hname⟩

/-- What a table is that came out of adding a column to a well-formed one. -/
theorem WellFormed.withColumn_eq_ok_iff (h : t.WellFormed) :
    t.withColumn c = .ok u ↔
      t.HasRoomFor c ∧ u.name = t.name ∧ u.MadeOf (t.columns ++ [c]) t.foreignKeys.toList := by
  rw [withColumn, ofColumns_eq_ok_iff_madeOf, h.representable_append_iff]

theorem WellFormed.of_withColumn (h : t.WellFormed) (hu : t.withColumn c = .ok u) :
    u.WellFormed :=
  wellFormed_of_ofColumns hu h.hasPair

theorem WellFormed.mem_withColumn_iff (h : t.WellFormed) (hu : t.withColumn c = .ok u) :
    d ∈ u.columns ↔ d ∈ t.columns ∨ d = c := by
  obtain ⟨-, -, hmade⟩ := h.withColumn_eq_ok_iff.1 hu
  rw [hmade.columns.mem_iff, List.mem_append, List.mem_singleton]

/-- Of the names only that of the new column is looked up with another result. -/
theorem WellFormed.column?_withColumn (h : t.WellFormed) (hu : t.withColumn c = .ok u)
    (name : String) : u.column? name = if name = c.name then some c else t.column? name := by
  have hw := h.of_withColumn hu
  have hroom := (h.withColumn_eq_ok_iff.1 hu).1
  refine Option.ext fun d => ?_
  rw [hw.column?_eq_some_iff, h.mem_withColumn_iff hu]
  split
  · rename_i hname
    rw [hname, Option.some.injEq]
    constructor
    · rintro ⟨hd | rfl, hsame⟩
      · exact absurd hsame (hroom.isNew d hd)
      · rfl
    · rintro rfl
      exact ⟨.inr rfl, rfl⟩
  · rename_i hname
    rw [h.column?_eq_some_iff]
    constructor
    · rintro ⟨hd | rfl, hsame⟩
      · exact ⟨hd, hsame⟩
      · exact absurd hsame.symm hname
    · rintro ⟨hd, hsame⟩
      exact ⟨.inl hd, hsame⟩

/-- A new column of the key comes behind the others. -/
theorem WellFormed.primaryKey_withColumn (h : t.WellFormed) (hu : t.withColumn c = .ok u) :
    u.primaryKey = t.primaryKey ++ if c.isPrimaryKey then [c] else [] := by
  have hw := h.of_withColumn hu
  have hroom := (h.withColumn_eq_ok_iff.1 hu).1
  -- a place of the key has the column with this position
  refine List.ext_getElem? fun j => Option.ext fun d => ?_
  rw [hw.primaryKey_eq_some_iff, h.mem_withColumn_iff hu, or_and_right,
    ← h.primaryKey_eq_some_iff]
  cases hordinal : c.keyOrdinal? with
  | none =>
    have hkey : c.isPrimaryKey = false := by simp [Column.isPrimaryKey, hordinal]
    rw [hkey, if_neg Bool.false_ne_true, List.append_nil, or_iff_left]
    rintro ⟨rfl, hj⟩
    rw [hordinal] at hj
    cases hj
  | some ordinal =>
    have hkey : c.isPrimaryKey = true := by simp [Column.isPrimaryKey, hordinal]
    have hlast : c.keyOrdinal?.map UInt64.toNat = some t.primaryKey.length :=
      hroom.position.resolve_left (by simp [hordinal])
    rw [hkey, if_pos rfl, List.getElem?_append]
    split
    · rename_i hj
      refine or_iff_left ?_
      rintro ⟨rfl, hd⟩
      have hend : t.primaryKey.length = j := Option.some.inj (hlast.symm.trans hd)
      omega
    · rename_i hj
      rw [List.getElem?_eq_none (Nat.le_of_not_lt hj), List.getElem?_singleton,
        or_iff_right (by simp)]
      constructor
      · rintro ⟨rfl, hd⟩
        have hend : t.primaryKey.length = j := Option.some.inj (hlast.symm.trans hd)
        rw [if_pos (by omega)]
      · intro hd
        split at hd
        · obtain rfl : c = d := Option.some.inj hd
          exact ⟨rfl, hlast.trans (congrArg some (by omega))⟩
        · cases hd

/-- Two columns that are added one after the other are checked together. -/
theorem withColumn_withColumn (hu : t.withColumn c = .ok u) :
    u.withColumn d = ofColumns t.name (t.columns ++ [c, d]) t.foreignKeys.toList := by
  obtain ⟨-, rfl⟩ := ofColumns_eq_ok_iff.1 hu
  refine ofColumns_perm ?_ fun k => ?_
  · have hperm := (perm_byName (t.columns ++ [c])).append_right [d]
    rwa [List.append_assoc] at hperm
  · rw [SortedSet.ofList_toList]

/-- A column can be added exactly if there is room for it. Then the table is found to have that
column and all it had, with the same foreign keys, and the column comes last in the key or is not
in it. Two columns that can be added in either order make the same table in both. -/
theorem WellFormed.withColumn_extends (h : t.WellFormed) (c : Column) :
    ((∃ u, t.withColumn c = .ok u) ↔ t.HasRoomFor c) ∧
    (∀ u, t.withColumn c = .ok u →
      u.name = t.name ∧ u.foreignKeys = t.foreignKeys ∧ u.column? c.name = some c ∧
        (∀ name, name ≠ c.name → u.column? name = t.column? name) ∧
        u.primaryKey = t.primaryKey ++ if c.isPrimaryKey then [c] else []) ∧
    ∀ d u u', (t.withColumn c).bind (·.withColumn d) = .ok u →
      (t.withColumn d).bind (·.withColumn c) = .ok u' → u = u' := by
  refine ⟨?_, fun u hu => ?_, fun d u u' hu hu' => ?_⟩
  · rw [← h.representable_append_iff]
    exact (ofColumns_representable t.name _ _).1
  · obtain ⟨-, hname, hmade⟩ := h.withColumn_eq_ok_iff.1 hu
    refine ⟨hname, SortedSet.ext hmade.foreignKeys, ?_, fun name hne => ?_,
      h.primaryKey_withColumn hu⟩
    · rw [h.column?_withColumn hu, if_pos rfl]
    · rw [h.column?_withColumn hu, if_neg hne]
  · obtain ⟨tc, htc, htcd⟩ := bind_ok_iff.1 hu
    obtain ⟨td, htd, htdc⟩ := bind_ok_iff.1 hu'
    rw [withColumn_withColumn htc] at htcd
    rw [withColumn_withColumn htd,
      ofColumns_perm ((List.Perm.swap c d []).append_left t.columns) fun _ => Iff.rfl] at htdc
    exact Except.ok.inj (htcd.symm.trans htdc)

/-- A table with a key of one column, and a foreign key of the other. -/
def keyed : Table where
  name := ⟨"m", "t"⟩
  columns := [{ name := "b", dataType := "INT", keyOrdinal? := some 0 },
    { name := "d", dataType := "INT" }]
  foreignKeys := SortedSet.ofList [⟨⟨"m", "u"⟩, SortedSet.ofList [⟨"d", "x"⟩]⟩]

/-- A column at a position of the key. -/
def keyColumn (ordinal : UInt64) : Column :=
  { name := "a", dataType := "INT", keyOrdinal? := some ordinal }

theorem wellFormed_keyed : keyed.WellFormed := by
  have h : ofColumns ⟨"m", "t"⟩ keyed.columns keyed.foreignKeys.toList = .ok keyed := by cbv
  refine wellFormed_of_ofColumns h fun k hk => ?_
  have hpairs : ∀ k ∈ keyed.foreignKeys.toList, 0 < k.pairs.size := by decide
  exact hpairs k hk

/-- The second column of the key is added, in front of the first one by name, and the row version
before or after it. The third cannot be added. -/
theorem withColumn_extends_keyed :
    keyed.WellFormed ∧ ∃ u v, keyed.withColumn (keyColumn 1) = .ok u ∧
      u.primaryKey.map (·.name) = ["b", "a"] ∧ u.column? "a" = some (keyColumn 1) ∧
      u.column? "d" = keyed.column? "d" ∧
      (keyed.withColumn (keyColumn 1)).bind (·.withColumn rowVersion) = .ok v ∧
      (keyed.withColumn rowVersion).bind (·.withColumn (keyColumn 1)) = .ok v ∧
      ¬ ∃ u, keyed.withColumn (keyColumn 2) = .ok u := by
  have hkey : keyed.primaryKey.map (·.name) = ["b"] := by cbv
  obtain ⟨hroom, hextends, hcommute⟩ := wellFormed_keyed.withColumn_extends (keyColumn 1)
  have hadded : keyed.HasRoomFor (keyColumn 1) := ⟨by decide, by decide, by decide, .inr (by cbv)⟩
  obtain ⟨u, hu⟩ := hroom.2 hadded
  obtain ⟨-, -, hfound, hothers, hkeyed⟩ := hextends u hu
  have hfirst : ((keyed.withColumn (keyColumn 1)).bind
      (·.withColumn rowVersion)).toOption.isSome := by cbv
  have hlast : ((keyed.withColumn rowVersion).bind
      (·.withColumn (keyColumn 1))).toOption.isSome := by cbv
  obtain ⟨v, hv⟩ := Option.isSome_iff_exists.1 hfirst
  obtain ⟨v', hv'⟩ := Option.isSome_iff_exists.1 hlast
  have hsame : v = v' := hcommute rowVersion v v' (ok_of_toOption hv) (ok_of_toOption hv')
  refine ⟨wellFormed_keyed, u, v, hu, ?_, hfound, hothers "d" (by decide), ok_of_toOption hv,
    hsame ▸ ok_of_toOption hv', ?_⟩
  · rw [hkeyed, List.map_append, hkey]
    rfl
  · rw [(wellFormed_keyed.withColumn_extends (keyColumn 2)).1]
    intro hnone
    have hlength : keyed.primaryKey.length = 1 := by simpa using congrArg List.length hkey
    rcases hnone.position with hposition | hposition
    · cases hposition
    · rw [hlength] at hposition
      cases hposition

end Table

end SchemaCatalog
