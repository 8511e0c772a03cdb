import Mathlib
import SchemaCatalog.Proofs.ReportedKeys
/-!
# The order of rows

Two sources may answer the statements of an information schema with the same rows in different
orders. If no column of a key is reported twice, the tables that are collected from them are the same
(`Engine.collect_rearranged`): every step forgets the order, since it sorts, makes a set or looks up
by name. Which error comes first does depend on the order, so errors are not compared.
-/

namespace SchemaCatalog

/-! ## Sorting -/

/-- Tables with distinct names are put in one order. -/
theorem TableStream.sortByName_perm {ts us : List Table} (h : ts.Perm us)
    (hn : (ts.map (·.name)).Nodup) : sortByName ts = sortByName us := by
  have hperm (l : List Table) : (sortByName l).Perm l := List.mergeSort_perm l _
  refine List.Perm.eq_of_pairwise (fun t u _ _ htu hut => ?_)
    (List.pairwise_map.1 (sortByName_increasing hn))
    (List.pairwise_map.1 (sortByName_increasing ((h.map _).nodup_iff.1 hn)))
    ((hperm ts).trans (h.trans (hperm us).symm))
  exact absurd (Std.TransCmp.lt_trans htu hut) (by rw [Std.ReflOrd.compare_self]; decide)

/-! ## Tables -/

namespace Table

variable {name : TableName} {columns columns' : List Column} {t : Table}

/-- A table is assembled from its columns and foreign key rows in any order, and from any key with
the same positions. -/
theorem assemble_perm {key key' : KeyOrdinals} {rows rows' : List ReferenceRow}
    (hcolumns : columns.Perm columns') (hkey : ∀ column, key.find? column = key'.find? column)
    (hrows : rows.Perm rows') (h : assemble name columns key rows = .ok t) :
    assemble name columns' key' rows' = .ok t := by
  obtain ⟨hmem, keys, hkeys, htable⟩ := assemble_eq_ok_iff_marked.1 h
  refine assemble_eq_ok_iff_marked.2 ⟨?_, keys, (ForeignKey.grouped_perm hrows).1 hkeys, ?_⟩
  · intro e he
    have hfind : key.find? e.1 = some e.2 := (hkey _).trans (Lookup.find?_eq_some_iff.2 he)
    exact (hcolumns.map _).mem_iff.1 (hmem e (Lookup.find?_eq_some_iff.1 hfind))
  -- a key enters only through the position it has for a name
  · have hmarked : (fun c : Column => c.normalized.marked key) =
        fun c => c.normalized.marked key' := by
      funext c
      simp [Column.marked, hkey]
    rw [hmarked] at htable
    rwa [ofColumns_perm (hcolumns.map _).symm fun _ => Iff.rfl]

end Table

/-! ## Answers -/

namespace InformationSchema

/-- The same rows in each of the four answers, in any order. -/
structure Answers.Rearranged (a b : Answers) : Prop where
  tables : a.tables.Perm b.tables
  primaryKeys : a.primaryKeys.Perm b.primaryKeys
  foreignKeys : a.foreignKeys.Perm b.foreignKeys
  columns : a.columns.Perm b.columns

/-- No column of a table is reported twice as one of its key. -/
def Answers.DistinctKeys (a : Answers) : Prop :=
  (a.primaryKeys.map fun r => (r.1, r.2.1)).Nodup

theorem rowsOf_perm {α : Type} {rows rows' : List (TableName × α)} (h : rows.Perm rows')
    (name : TableName) : (rowsOf name rows).Perm (rowsOf name rows') :=
  (h.filter _).map _

namespace Answers

variable {a b : Answers} {added : List Column}

@[symm]
theorem Rearranged.symm (h : a.Rearranged b) : b.Rearranged a :=
  ⟨h.tables.symm, h.primaryKeys.symm, h.foreignKeys.symm, h.columns.symm⟩

theorem Rearranged.distinctKeys (h : a.Rearranged b) (hn : a.DistinctKeys) : b.DistinctKeys :=
  ((h.primaryKeys.map _).nodup_iff).1 hn

theorem DistinctKeys.nodup_of (h : a.DistinctKeys) (name : TableName) :
    ((rowsOf name a.primaryKeys).map (·.1)).Nodup := by
  have hown : ((a.primaryKeys.filter fun r => r.1 = name).map fun r => (r.1, r.2.1)).Nodup :=
    h.sublist (List.filter_sublist.map _)
  rw [rowsOf, List.map_map]
  refine List.Nodup.of_map (fun column => (name, column)) ?_
  rw [List.map_map]
  refine (List.map_congr_left fun r hr => ?_) ▸ hown
  have hname : r.1 = name := by simpa using (List.mem_filter.1 hr).2
  simp [hname]

/-- What is described of a table comes to the same table in any order. -/
theorem Rearranged.table (h : a.Rearranged b) (hn : a.DistinctKeys) {name : TableName} {t : Table}
    (ht : (a.about name).table added name = .ok t) : (b.about name).table added name = .ok t := by
  have hcolumns := rowsOf_perm h.columns name
  have hkeys := rowsOf_perm h.primaryKeys name
  have hadded : (rowsOf name a.columns).isEmpty = (rowsOf name b.columns).isEmpty :=
    hcolumns.isEmpty_eq
  refine Table.assemble_perm ?_ (fun column => ?_) (rowsOf_perm h.foreignKeys name) ht
  -- which columns are added depends on whether there are rows, not on their order
  · show (rowsOf name a.columns ++ if (rowsOf name a.columns).isEmpty then [] else added).Perm
      (rowsOf name b.columns ++ if (rowsOf name b.columns).isEmpty then [] else added)
    rw [hadded]
    exact hcolumns.append_right _
  · refine Option.ext fun ordinal => ?_
    have ha := hn.nodup_of name
    have hb := (h.distinctKeys hn).nodup_of name
    rw [about, about, Lookup.find?_ofList_of_nodup ha, Lookup.find?_ofList_of_nodup hb,
      hkeys.mem_iff]

/-- If each table is listed once, its item is what is described under its name. -/
theorem itemsAfter_of_nodup (a : Answers) (added : List Column) {earlier names : List TableName}
    (h : (earlier ++ names).Nodup) :
    a.itemsAfter added earlier names = names.map fun name => (a.about name).table added name := by
  induction names generalizing earlier with
  | nil => rfl
  | cons name rest ih =>
    have hnew : name ∉ earlier := fun hmem => (List.nodup_append.1 h).2.2 name hmem name (by simp) rfl
    rw [itemsAfter_cons, if_neg hnew, ih (by simpa using h), List.map_cons]

/-- The tables of the answers in the order of their names, if all come out. -/
def collected (a : Answers) (added : List Column) : Except Error (List Table) :=
  ((a.items added).mapM id).map TableStream.sortByName

/-- If each table is listed once, the answers come to what is described under the names. -/
theorem collected_of_nodup (added : List Column) (h : a.tables.Nodup) :
    a.collected added = (a.tables.mapM fun name => (a.about name).table added name).map
      TableStream.sortByName := by
  have hitems : (a.items added).mapM id =
      a.tables.mapM fun name => (a.about name).table added name := by
    rw [items, a.itemsAfter_of_nodup added (by simpa using h), List.mapM_map]
    rfl
  rw [collected, hitems]

/-- Tables are collected exactly if each listed name is listed once and comes to its table. -/
theorem collected_eq_ok_iff {ts : List Table} :
    a.collected added = .ok ts ↔ a.tables.Nodup ∧ ∃ found,
      a.tables.mapM (fun name => (a.about name).table added name) = .ok found ∧
        TableStream.sortByName found = ts := by
  rw [← map_ok_iff]
  constructor
  · intro h
    obtain ⟨found, hfound, -⟩ := map_ok_iff.1 h
    have hlisted : a.tables.Nodup := (a.names_of_mapM added hfound).2
    exact ⟨hlisted, collected_of_nodup added hlisted ▸ h⟩
  · rintro ⟨hlisted, h⟩
    rw [collected_of_nodup added hlisted, h]

theorem names_of_described {names : List TableName} {found : List Table}
    (h : names.mapM (fun name => (a.about name).table added name) = .ok found) :
    found.map (·.name) = names := by
  induction names generalizing found with
  | nil => cases h; rfl
  | cons name rest ih =>
    obtain ⟨t, found', ht, hrest, rfl⟩ := mapM_cons_ok_iff.1 h
    rw [List.map_cons, ih hrest, Table.name_of_assemble ht]

/-- Answers in another order come to the same tables. -/
theorem Rearranged.collected (h : a.Rearranged b) (hn : a.DistinctKeys) {ts : List Table}
    (ht : a.collected added = .ok ts) : b.collected added = .ok ts := by
  obtain ⟨hlisted, found, hfound, hsorted⟩ := collected_eq_ok_iff.1 ht
  obtain ⟨found', hfound', hperm⟩ := exists_mapM_perm h.tables hfound
  have hnames : (found.map (·.name)).Nodup := names_of_described hfound ▸ hlisted
  refine collected_eq_ok_iff.2 ⟨h.tables.nodup_iff.1 hlisted, found', ?_, ?_⟩
  · refine (mapM_ok_congr fun name _ t => ?_).1 hfound'
    exact ⟨h.table hn, h.symm.table (h.distinctKeys hn)⟩
  · rw [← TableStream.sortByName_perm hperm hnames, hsorted]

end Answers

end InformationSchema

/-! ## Sources -/

/-- The answers to statements that are asked one after the other, up to the first that fails. -/
def RowSource.answersTo {σ κ : Type} (source : RowSource σ κ) :
    List Statement → σ → List (Except Error (List Row))
  | [], _ => []
  | statement :: rest, s =>
    match source.fetchAll statement s with
    | (.ok rows, s') => .ok rows :: source.answersTo rest s'
    | (.error e, _) => [.error e]

theorem RowSource.answersTo_inTurn {statements : List Statement} {answers : List (List Row)}
    (h : statements.length = answers.length) :
    inTurn.answersTo statements answers = answers.map .ok := by
  induction statements generalizing answers with
  | nil => rw [List.length_eq_zero_iff.1 h.symm]; rfl
  | cons statement rest ih =>
    obtain ⟨rows, answers, rfl⟩ := List.exists_cons_of_length_eq_add_one h.symm
    simp only [answersTo, fetchAll_inTurn, List.map_cons, ih (Nat.succ.inj h)]

/-- Two answers of the same rows in any order, or two failures. -/
def SameRows : Except Error (List Row) → Except Error (List Row) → Prop
  | .ok rows, .ok rows' => rows.Perm rows'
  | .error _, .error _ => True
  | _, _ => False

theorem SameRows.symm {x y : Except Error (List Row)} (h : SameRows x y) : SameRows y x := by
  cases x <;> cases y
  · exact h
  · exact h
  · exact h
  · exact List.Perm.symm h

namespace InformationSchema

/-- The statements in the order in which they are asked. -/
def Dialect.statements (d : Dialect) (naming : Naming) (schemas : List String) : List Statement := [
  ⟨d.tablesSql naming schemas, schemas.map .string⟩, ⟨primaryKeysSql, []⟩, ⟨foreignKeysSql, []⟩,
  ⟨d.columnsSql, []⟩]

section TwoSources
variable {σ κ σ' κ' : Type} {source : RowSource σ κ} {other : RowSource σ' κ'} {s s' : σ} {u : σ'}

/-- What is read from one source is read from the other, in another order. -/
theorem Reads.rearranged {α : Type} {statement : Statement} {entry : Row → Except Error α}
    {entries : List α} {rest : List Statement} (h : Reads source statement entry s s' entries)
    (hrows : List.Forall₂ SameRows (source.answersTo (statement :: rest) s)
      (other.answersTo (statement :: rest) u)) :
    ∃ u' entries', Reads other statement entry u u' entries' ∧ entries.Perm entries' ∧
      List.Forall₂ SameRows (source.answersTo rest s') (other.answersTo rest u') := by
  obtain ⟨rows, hfetch, hread⟩ := h
  simp only [RowSource.answersTo, hfetch] at hrows
  rcases hother : other.fetchAll statement u with ⟨e | rows', u'⟩ <;> rw [hother] at hrows
  · exact absurd (List.forall₂_cons.1 hrows).1 id
  · obtain ⟨hperm, hrest⟩ := List.forall₂_cons.1 hrows
    obtain ⟨entries', hread', hentries⟩ := exists_mapM_perm hperm hread
    exact ⟨u', entries', ⟨rows', hother, hread'⟩, hentries, hrest⟩

theorem Dialect.Reports.rearranged {d : Dialect} {naming : Naming} {schemas : List String}
    {a : Answers} (h : d.Reports naming schemas source s s' a)
    (hrows : List.Forall₂ SameRows (source.answersTo (d.statements naming schemas) s)
      (other.answersTo (d.statements naming schemas) u)) :
    ∃ u' b, d.Reports naming schemas other u u' b ∧ a.Rearranged b := by
  obtain ⟨s₁, s₂, s₃, htables, hkeys, hreferences, hcolumns⟩ := h
  obtain ⟨u₁, tables, htables', ptables, hrows⟩ := htables.rearranged hrows
  obtain ⟨u₂, keys, hkeys', pkeys, hrows⟩ := hkeys.rearranged hrows
  obtain ⟨u₃, references, hreferences', preferences, hrows⟩ := hreferences.rearranged hrows
  obtain ⟨u', columns, hcolumns', pcolumns, -⟩ := hcolumns.rearranged hrows
  exact ⟨u', ⟨tables, keys, references, columns⟩,
    ⟨u₁, u₂, u₃, htables', hkeys', hreferences', hcolumns'⟩,
    ⟨ptables, pkeys, preferences, pcolumns⟩⟩

end TwoSources

end InformationSchema

/-! ## Runs -/

namespace Engine

open InformationSchema

variable {σ κ σ' κ' : Type} {e : Engine} {d : Dialect} {options : ExtractOptions} {naming : Naming}
  {source : RowSource σ κ} {other : RowSource σ' κ'} {s s' : σ} {u u' : σ'}

theorem collect_of_reports (hd : e.dialect? = some d) {a : Answers}
    (h : d.Reports naming options.schemas source s s' a) :
    ((e.tables options naming).collect source s).1 = a.collected (e.addedColumns options) := by
  rw [TableStream.collect_eq_mapM, drain_of_reports hd h, mapM_id_upToError, Answers.collected]

/-- Tables are collected only from answers that were all read. -/
theorem exists_reports_of_collect (hd : e.dialect? = some d) {ts : List Table}
    (h : ((e.tables options naming).collect source s).1 = .ok ts) :
    ∃ s' a, d.Reports naming options.schemas source s s' a := by
  rcases hrun : (e.tables options naming).run source s with ⟨err | queries, s'⟩
  · rw [TableStream.collect_eq_mapM, TableStream.drain_of_error source hrun] at h
    cases h
  · exact ⟨s', reports_of_run_tables hd hrun⟩

/-- What is collected from one source is collected from the other. -/
theorem collect_of_rearranged (hd : e.dialect? = some d) {a : Answers}
    (ha : d.Reports naming options.schemas source s s' a) (hn : a.DistinctKeys)
    (hrows : List.Forall₂ SameRows (source.answersTo (d.statements naming options.schemas) s)
      (other.answersTo (d.statements naming options.schemas) u)) (ts : List Table) :
    ((e.tables options naming).collect source s).1 = .ok ts ↔
      ((e.tables options naming).collect other u).1 = .ok ts := by
  obtain ⟨u', b, hb, hab⟩ := ha.rearranged hrows
  rw [collect_of_reports hd ha, collect_of_reports hd hb]
  exact ⟨hab.collected hn, hab.symm.collected (hab.distinctKeys hn)⟩

/-- If no column of a key is reported twice, the order in which a source gives the rows of its
answers does not change the tables that are collected from them. -/
theorem collect_rearranged (hd : e.dialect? = some d)
    (hrows : List.Forall₂ SameRows (source.answersTo (d.statements naming options.schemas) s)
      (other.answersTo (d.statements naming options.schemas) u))
    (hdistinct : ∀ s' a, d.Reports naming options.schemas source s s' a → a.DistinctKeys)
    (ts : List Table) :
    ((e.tables options naming).collect source s).1 = .ok ts ↔
      ((e.tables options naming).collect other u).1 = .ok ts := by
  constructor
  · intro h
    obtain ⟨s', a, ha⟩ := exists_reports_of_collect hd h
    exact (collect_of_rearranged hd ha (hdistinct s' a ha) hrows ts).1 h
  · intro h
    -- the keys are known to be distinct in the answers of `source`, so these have to be found first
    obtain ⟨u', b, hb⟩ := exists_reports_of_collect hd h
    obtain ⟨s', a, ha, -⟩ := hb.rearranged (hrows.flip.imp fun _ _ h => SameRows.symm h)
    exact (collect_of_rearranged hd ha (hdistinct s' a ha) hrows ts).2 h

/-! ## Rows in reverse order -/

/-- Answers about two tables with keys of two columns, one of which refers to the other. -/
def ordered : List (List Row) := [
  ["a", "b"].map fun table => ⟨["table_schema", "table_name"], [.string "m", .string table]⟩,
  [("a", 1, "x"), ("a", 2, "y"), ("b", 1, "y"), ("b", 2, "x")].map fun (table, position, column) =>
    ⟨["table_schema", "table_name", "ordinal_position", "column_name"],
      [.string "m", .string table, .int64 position, .string column]⟩,
  [("f", 1, "x", "y"), ("f", 2, "y", "x"), ("g", 1, "y", "y")].map
      fun (constraint, position, foreign, primary) =>
    ⟨["constraint_name", "ordinal_position", "foreign_schema", "foreign_table", "foreign_column",
        "primary_schema", "primary_table", "primary_column"],
      [.string constraint, .int64 position, .string "m", .string "a", .string foreign, .string "m",
        .string "b", .string primary]⟩,
  [("a", "x"), ("b", "x"), ("a", "y"), ("b", "y")].map fun (table, column) =>
    ⟨["table_schema", "table_name", "column_name", "udt_name", "character_maximum_length",
        "nullable", "column_default", "is_generated", "is_identity"],
      [.string "m", .string table, .string column, .string "int4", .null,
        .bool false, .null, .bool false, .bool false]⟩]

/-- What is read from these answers. -/
def orderedAnswers : Answers where
  tables := [⟨"m", "a"⟩, ⟨"m", "b"⟩]
  primaryKeys := [("a", "x", 0), ("a", "y", 1), ("b", "y", 0), ("b", "x", 1)].map
    fun (table, column, ordinal) => (⟨"m", table⟩, column, ordinal)
  foreignKeys := [("f", 0, "x", "y"), ("f", 1, "y", "x"), ("g", 0, "y", "y")].map
    fun (constraint, ordinal, foreign, primary) =>
      (⟨"m", "a"⟩, ⟨constraint, ordinal, foreign, ⟨"m", "b"⟩, primary⟩)
  columns := [("a", "x"), ("b", "x"), ("a", "y"), ("b", "y")].map fun (table, column) =>
    (⟨"m", table⟩, { name := column, dataType := typeName "int4" none, nullable := false })

theorem reports_ordered :
    Postgres.dialect.Reports .postgres [] RowSource.inTurn ordered [] orderedAnswers :=
  Dialect.reports_inTurn rfl rfl rfl rfl

theorem exists_collect_ordered :
    ∃ ts, ((postgres.tables {} .postgres).collect .inTurn ordered).1 = .ok ts ∧
      ts.map (fun t => (t.name.name, t.primaryKey.map (·.name), t.foreignKeys.toList.length)) =
        [("a", ["x", "y"], 2), ("b", ["y", "x"], 0)] := by
  rw [collect_of_reports rfl reports_ordered]
  refine (map_ok_iff (f := List.map _)).1 ?_
  cbv

/-- The tables are the same with all rows in reverse order. -/
theorem collect_reversed :
    ∃ ts, ((postgres.tables {} .postgres).collect .inTurn ordered).1 = .ok ts ∧
      ((postgres.tables {} .postgres).collect .inTurn (ordered.map List.reverse)).1 = .ok ts ∧
      ts.map (fun t => (t.name.name, t.primaryKey.map (·.name), t.foreignKeys.toList.length)) =
        [("a", ["x", "y"], 2), ("b", ["y", "x"], 0)] := by
  obtain ⟨ts, hts, hview⟩ := exists_collect_ordered
  refine ⟨ts, hts, (collect_rearranged rfl ?_ ?_ ts).1 hts, hview⟩
  · rw [RowSource.answersTo_inTurn rfl, RowSource.answersTo_inTurn rfl, List.map_map,
      List.forall₂_map_left_iff, List.forall₂_map_right_iff]
    exact List.forall₂_same.2 fun rows _ => (List.reverse_perm rows).symm
  · intro s' a ha
    rw [ha.unique reports_ordered]
    show List.Nodup _
    decide

end Engine

end SchemaCatalog
