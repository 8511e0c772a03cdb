import Mathlib
import SchemaCatalog.Proofs.BuildableTables
import SchemaCatalog.Proofs.RowOrder
/-!
# The row version

On demand PostgreSQL's tables get the column `xmin`, and they get it before their key is known and
before anything is checked. All the same each of them is the table that is extracted without it, with
the column put in later (`Postgres.drain_with_rowVersion`): no catalog row can be about a column that
the catalog does not have, and a table that has a column of this name is turned down on both ways for
the same reason.
-/

namespace SchemaCatalog

/-! ## One more column -/

namespace Table

variable {name : TableName} {columns columns' : List Column} {c : Column} {t : Table}

theorem nodup_names_append : ((columns ++ [c]).map (·.name)).Nodup ↔
    (columns.map (·.name)).Nodup ∧ c.name ∉ columns.map (·.name) := by
  rw [List.map_append, List.map_singleton, List.nodup_append_comm, List.singleton_append,
    List.nodup_cons, and_comm]

/-- Where names differ, a column whose name is taken is the one that is reported. -/
theorem withColumn_of_mem (hn : (t.columns.map (·.name)).Nodup)
    (hc : c.name ∈ t.columns.map (·.name)) :
    t.withColumn c = .error (.inTable t.name (.duplicateColumn c.name)) := by
  have hnot : ¬ ((t.columns ++ [c]).map (·.name)).Nodup := by
    intro h
    exact (nodup_names_append.1 h).2 hc
  obtain ⟨repeated, hrepeated⟩ := exists_repeatedName? hnot
  have htwice := List.duplicate_iff_two_le_count.1
    (repeatedName?_byName_eq_some_iff.1 hrepeated).1
  rw [List.map_append, List.count_append] at htwice
  have honce : (t.columns.map (·.name)).count repeated ≤ 1 := List.nodup_iff_count_le_one.1 hn _
  -- the name occurs at most once among the others, so the new column has it
  have hsame : repeated = c.name := by
    by_contra hne
    have hzero : ([c].map (·.name)).count repeated = 0 := by
      simp [List.count_eq_zero, hne]
    omega
  rw [withColumn, ofColumns_of_repeatedName? hrepeated, hsame]

/-- A well-formed table takes a column of a new name that is right by itself and outside the key. -/
theorem WellFormed.withColumn_eq (h : t.WellFormed) (hfault : columnFault? c = none)
    (hkey : c.keyOrdinal? = none) (hnew : c.name ∉ t.columns.map (·.name)) :
    t.withColumn c = .ok ⟨t.name, byName (t.columns ++ [c]), t.foreignKeys⟩ := by
  have hperm := perm_byName (t.columns ++ [c])
  have hnodup : ((t.columns ++ [c]).map (·.name)).Nodup :=
    nodup_names_append.2 ⟨h.distinct, hnew⟩
  have hordinals : keyOrdinals (byName (t.columns ++ [c])) = keyOrdinals t.columns := by
    rw [keyOrdinals_congr hperm]
    simp [keyOrdinals, hkey]
  rw [withColumn, ofColumns_eq_ok_iff, SortedSet.ofList_toList, fault?_eq_none_iff (byName_sorted _)]
  refine ⟨⟨?_, byName_increasing hnodup, ?_, ?_, ?_⟩, rfl⟩
  · intro hnil
    have hlength := hperm.length_eq
    rw [hnil] at hlength
    simp at hlength
  · intro d hd
    rcases List.mem_append.1 (hperm.mem_iff.1 hd) with hd | hd
    · exact ⟨h.identity d hd, fun htoken => (h.token d hd htoken).1⟩
    · rw [List.mem_singleton.1 hd]
      exact columnFault?_eq_none_iff.1 hfault
  · rw [hordinals]
    exact keyOrder_iff_counting.1 h.keyOrder
  · intro k hk column hcolumn
    obtain ⟨d, hd, hname⟩ := h.foreignColumns k hk column hcolumn
    exact List.mem_map.2 ⟨d, hperm.mem_iff.2 (List.mem_append_left _ hd), hname⟩

/-- The table `u` is `t` with one more column, which is outside the key. -/
structure Extends (t : Table) (c : Column) (u : Table) : Prop where
  name : u.name = t.name
  others : u.columns.filter (·.name ≠ c.name) = t.columns
  added : c ∈ u.columns
  primaryKey : u.primaryKey = t.primaryKey
  foreignKeys : u.foreignKeys = t.foreignKeys

theorem WellFormed.exists_withColumn (h : t.WellFormed) (hfault : columnFault? c = none)
    (hkey : c.keyOrdinal? = none) (hnew : c.name ∉ t.columns.map (·.name)) :
    ∃ u, t.withColumn c = .ok u ∧ t.Extends c u := by
  have hu := h.withColumn_eq hfault hkey hnew
  have hperm := perm_byName (t.columns ++ [c])
  have hw : (⟨t.name, byName (t.columns ++ [c]), t.foreignKeys⟩ : Table).WellFormed :=
    wellFormed_of_ofColumns hu h.hasPair
  have hothers : (t.columns ++ [c]).filter (·.name ≠ c.name) = t.columns := by
    have hall : ∀ d ∈ t.columns, decide (d.name ≠ c.name) = true := by
      intro d hd
      exact decide_eq_true fun hname => hnew (List.mem_map.2 ⟨d, hd, hname⟩)
    simpa [List.filter_append] using hall
  refine ⟨_, hu, rfl, ?_, hperm.mem_iff.2 (by simp), ?_, rfl⟩
  · have hfiltered := hperm.filter (·.name ≠ c.name)
    rw [hothers] at hfiltered
    exact eq_of_increasing (hw.increasing.filter _) h.increasing hfiltered
  -- in both tables a place of the key has the column with this position
  · refine List.ext_getElem? fun j => Option.ext fun d => ?_
    rw [hw.primaryKey_eq_some_iff, h.primaryKey_eq_some_iff, hperm.mem_iff]
    constructor
    · rintro ⟨hd, hj⟩
      rcases List.mem_append.1 hd with hd | hd
      · exact ⟨hd, hj⟩
      · rw [List.mem_singleton.1 hd, hkey] at hj
        cases hj
    · rintro ⟨hd, hj⟩
      exact ⟨List.mem_append_left _ hd, hj⟩

/-- A column behind those of the catalog comes to the same as a column that the assembled table is
given, if it is normal and outside the key. -/
theorem assemble_append {key : KeyOrdinals} {rows : List ReferenceRow} (hnormal : c.normalized = c)
    (hkey : c.keyOrdinal? = none) (h : assemble name columns key rows = .ok t) :
    assemble name (columns ++ [c]) key rows = t.withColumn c := by
  obtain ⟨hmem, keys, hkeys, htable⟩ := assemble_eq_ok_iff_marked.1 h
  obtain ⟨-, rfl⟩ := ofColumns_eq_ok_iff.1 htable
  have hmem' : ∀ e ∈ key.entries, e.1 ∈ (columns ++ [c]).map (·.name) := by
    intro e he
    rw [List.map_append]
    exact List.mem_append_left _ (hmem e he)
  rw [assemble_eq_ofColumns hmem' hkeys, withColumn, List.map_append, List.map_singleton, hnormal]
  have hperm : (columns.map fun d => d.normalized.marked key).Perm
      (byName (columns.map fun d => d.normalized.marked key)) := (perm_byName _).symm
  have hkeys' : ∀ k, k ∈ keys ↔ k ∈ (SortedSet.ofList keys).toList := by
    intro k
    rw [SortedSet.mem_toList, SortedSet.mem_ofList]
  by_cases hc : c.name ∈ columns.map (·.name)
  -- the name is there, which both ways report, whatever position the column would get
  · refine ofColumns_congr_of_not_nodup ?_ ?_
    · rw [List.map_append, List.map_append]
      exact (hperm.map _).append_right _
    · intro hn
      have hnew := (nodup_names_append.1 hn).2
      rw [List.map_map] at hnew
      exact hnew hc
  · have hmarked : c.marked key = c := by
      have hfind : key.find? c.name = none :=
        Lookup.findIn_eq_none_iff.2 fun hin => by
          obtain ⟨e, he, hname⟩ := List.mem_map.1 hin
          exact hc (hname ▸ hmem e he)
      rw [Column.marked, hfind, hkey]
      cases c
      simp_all
    rw [hmarked]
    exact ofColumns_perm (hperm.append_right _) hkeys'

end Table

/-! ## Two runs -/

namespace InformationSchema.Answers

/-- Where a table comes out, the same place has the table with the column, or what keeps the column
out. -/
theorem items_append {a : Answers} {c : Column} (hnormal : c.normalized = c)
    (hkey : c.keyOrdinal? = none) {i : Nat} {t : Table}
    (h : (a.items [])[i]? = some (.ok t)) : (a.items [c])[i]? = some (t.withColumn c) := by
  simp only [items, itemsAfter, List.getElem?_mapIdx, Option.map_eq_some_iff] at h ⊢
  obtain ⟨name, hname, hitem⟩ := h
  refine ⟨name, hname, ?_⟩
  split at hitem
  · cases hitem
  · rename_i hnew
    rw [if_neg hnew]
    have hassembled : Table.assemble name (rowsOf name a.columns)
        (Lookup.ofList (rowsOf name a.primaryKeys)) (rowsOf name a.foreignKeys) = .ok t := by
      simpa [about, Description.table] using hitem
    have hsome : rowsOf name a.columns ≠ [] := (Table.assemble_eq_ok_iff.1 hassembled).1
    have hcolumns : (rowsOf name a.columns ++ if (rowsOf name a.columns).isEmpty then [] else [c]) =
        rowsOf name a.columns ++ [c] := by
      rw [if_neg (by simpa using hsome)]
    show Table.assemble name (rowsOf name a.columns ++
      if (rowsOf name a.columns).isEmpty then [] else [c]) _ _ = _
    rw [hcolumns]
    exact Table.assemble_append hnormal hkey hassembled

end InformationSchema.Answers

namespace Postgres

variable {σ κ : Type} {source : RowSource σ κ} {naming : Naming} {schemas : List String} {s : σ}

/-- All items of an extraction with or without the row version. -/
def drained (source : RowSource σ κ) (naming : Naming) (schemas : List String)
    (concurrencyColumn : Bool) (s : σ) : List (Except Error Table) :=
  ((tables { schemas, concurrencyColumn } naming).drain source s).1

theorem drained_of_reports {a : InformationSchema.Answers} {s' : σ}
    (h : dialect.Reports naming schemas source s s' a) (concurrencyColumn : Bool) :
    drained source naming schemas concurrencyColumn s =
      upToError (a.items (if concurrencyColumn then [xminColumn] else [])) := by
  have hdrain : (Engine.postgres.tables { schemas, concurrencyColumn } naming).drain source s = _ :=
    Engine.drain_of_reports rfl h
  exact congrArg Prod.fst hdrain

/-- A table comes out only if all answers can be read. -/
theorem exists_reports_of_drained {concurrencyColumn : Bool} {t : Table}
    (h : .ok t ∈ drained source naming schemas concurrencyColumn s) :
    t.WellFormed ∧ ∃ s' a, dialect.Reports naming schemas source s s' a := by
  obtain ⟨s', a, ha, htable⟩ := Engine.exists_reports_of_mem_drain
    (show Engine.postgres.dialect? = some dialect from rfl) h
  exact ⟨Table.wellFormed_of_assemble htable, s', a, ha⟩

/-- The option adds the row version and changes nothing else. Each table that comes out without it
comes out with the column at the same place, its other columns, its key and its foreign keys being as
they were. If the table has a column of this name, the error that keeps a second one out is the last
item. -/
theorem drain_with_rowVersion {i : Nat} {t : Table}
    (h : (drained source naming schemas false s)[i]? = some (.ok t))
    (hbefore : ∀ j < i, ∀ e, (drained source naming schemas true s)[j]? ≠ some (.error e)) :
    (drained source naming schemas true s)[i]? = some (t.withColumn xminColumn) ∧
      ("xmin" ∉ t.columns.map (·.name) →
        ∃ u, t.withColumn xminColumn = .ok u ∧ t.Extends xminColumn u) ∧
      ("xmin" ∈ t.columns.map (·.name) →
        t.withColumn xminColumn = .error (.inTable t.name (.duplicateColumn "xmin")) ∧
          (drained source naming schemas true s).length = i + 1) := by
  obtain ⟨hw, s', a, ha⟩ := exists_reports_of_drained (List.mem_of_getElem? h)
  have hitem : (drained source naming schemas true s)[i]? = some (t.withColumn xminColumn) := by
    rw [drained_of_reports ha] at h hbefore ⊢
    rw [getElem?_upToError hbefore]
    exact a.items_append rfl rfl (getElem?_of_upToError_ok h)
  refine ⟨hitem, fun hnew => hw.exists_withColumn rfl rfl hnew, fun hmem => ?_⟩
  have herror : t.withColumn xminColumn = .error (.inTable t.name (.duplicateColumn "xmin")) :=
    Table.withColumn_of_mem hw.distinct hmem
  refine ⟨herror, ?_⟩
  rw [herror, drained_of_reports ha] at hitem
  rw [drained_of_reports ha]
  exact length_upToError hitem

/-! ## A table that has the column -/

/-- Answers about two tables with a key, the second of which has a column named like the row version. -/
def versioned : List (List Row) := [
  ["a", "b"].map fun table => ⟨["table_schema", "table_name"], [.string "m", .string table]⟩,
  [("a", 1, "y"), ("a", 2, "x"), ("b", 1, "xmin")].map fun (table, position, column) =>
    ⟨["table_schema", "table_name", "ordinal_position", "column_name"],
      [.string "m", .string table, .int64 position, .string column]⟩,
  [],
  [("a", "x"), ("a", "y"), ("b", "xmin")].map fun (table, column) =>
    ⟨["table_schema", "table_name", "column_name", "udt_name", "character_maximum_length",
        "nullable", "column_default", "is_generated", "is_identity"],
      [.string "m", .string table, .string column, .string "int4", .null,
        .bool false, .null, .bool false, .bool false]⟩]

theorem reports_versioned :
    dialect.Reports .postgres [] RowSource.inTurn versioned [] {
      tables := [⟨"m", "a"⟩, ⟨"m", "b"⟩]
      primaryKeys := [(⟨"m", "a"⟩, "y", 0), (⟨"m", "a"⟩, "x", 1), (⟨"m", "b"⟩, "xmin", 0)]
      foreignKeys := []
      columns := [("a", "x"), ("a", "y"), ("b", "xmin")].map fun (table, column) =>
        (⟨"m", table⟩,
          { name := column, dataType := typeName "int4" none, nullable := false }) } :=
  InformationSchema.Dialect.reports_inTurn rfl rfl rfl rfl

/-- Without the row version both tables come out. -/
theorem exists_drained_versioned :
    ∃ t v, drained .inTurn .postgres [] false versioned = [.ok t, .ok v] ∧
      t.columns.map (·.name) = ["x", "y"] ∧ v.columns.map (·.name) = ["xmin"] := by
  have hitems : (drained .inTurn .postgres [] false versioned).map
      (fun item => item.toOption.map fun t => t.columns.map (·.name)) =
        [some ["x", "y"], some ["xmin"]] := by
    rw [drained_of_reports reports_versioned]
    cbv
  obtain ⟨first, rest, hdrained, hfirst, hrest⟩ := List.map_eq_cons_iff.1 hitems
  obtain ⟨second, rfl, hsecond⟩ := List.map_eq_singleton_iff.1 hrest
  obtain ⟨t, ht, hcolumns⟩ := Option.map_eq_some_iff.1 hfirst
  obtain ⟨v, hv, hcolumns'⟩ := Option.map_eq_some_iff.1 hsecond
  exact ⟨t, v, by rw [hdrained, ok_of_toOption ht, ok_of_toOption hv], hcolumns, hcolumns'⟩

/-- The first table gets the row version. The second has a column of this name and ends the run. -/
theorem rowVersion_of_versioned :
    ∃ t u v, drained .inTurn .postgres [] false versioned = [.ok t, .ok v] ∧
      t.Extends xminColumn u ∧
      (drained .inTurn .postgres [] true versioned)[0]? = some (.ok u) ∧
      (drained .inTurn .postgres [] true versioned)[1]? =
        some (.error (.inTable v.name (.duplicateColumn "xmin"))) ∧
      (drained .inTurn .postgres [] true versioned).length = 2 := by
  obtain ⟨t, v, hdrained, ht, hv⟩ := exists_drained_versioned
  have hfirst : (drained .inTurn .postgres [] false versioned)[0]? = some (.ok t) := by
    rw [hdrained]
    rfl
  have hsecond : (drained .inTurn .postgres [] false versioned)[1]? = some (.ok v) := by
    rw [hdrained]
    rfl
  obtain ⟨hitem, hnew, -⟩ := drain_with_rowVersion hfirst (by simp)
  obtain ⟨u, hu, hextends⟩ := hnew (by rw [ht]; decide)
  rw [hu] at hitem
  have hbefore : ∀ j < 1, ∀ e,
      (drained .inTurn .postgres [] true versioned)[j]? ≠ some (.error e) := by
    intro j hj e
    rw [Nat.lt_one_iff.1 hj, hitem]
    simp
  obtain ⟨hitem', -, htaken⟩ := drain_with_rowVersion hsecond hbefore
  obtain ⟨herror, hlength⟩ := htaken (by rw [hv]; decide)
  exact ⟨t, u, v, hdrained, hextends, hitem, herror ▸ hitem', hlength⟩

end Postgres

end SchemaCatalog
