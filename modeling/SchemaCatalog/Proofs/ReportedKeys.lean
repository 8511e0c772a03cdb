import Mathlib
import SchemaCatalog.Proofs.Assembling
import SchemaCatalog.Proofs.Construction
import SchemaCatalog.Proofs.OwnRows
/-!
# The rows that make a key

An information schema reports a primary key row by row, each with a column and its position. Of the
rows about one column the last one counts (`Engine.key_from_last_rows`). So the rows are the columns
of the key, one for one, exactly if no column is reported twice; rows that contradict each other may
come to a key like any other, since the positions are checked only after the rows were entered by
column.
-/

namespace SchemaCatalog

/-! ## Keyed entries -/

namespace Lookup

variable {κ ν : Type} [DecidableEq κ]

/-- Of pairs with distinct keys every one counts. -/
theorem find?_ofList_of_nodup {l : List (κ × ν)} (hl : (l.map (·.1)).Nodup) {k : κ} {v : ν} :
    (ofList l).find? k = some v ↔ (k, v) ∈ l := by
  rw [find?_ofList, ← findIn_eq_some_iff hl]
  induction l with
  | nil => simp [findIn]
  | cons e rest ih =>
    obtain ⟨he, hrest⟩ := List.nodup_cons.1 hl
    by_cases h : e.1 = k
    · have hnone : rest.filter (fun e => e.1 = k) = [] := by
        rw [List.filter_eq_nil_iff]
        intro other hother
        have hne : other.1 ≠ k := fun hk => he (List.mem_map.2 ⟨other, hother, hk.trans h.symm⟩)
        simpa using hne
      rw [List.filter_cons_of_pos (by simpa using h), hnone]
      simp [findIn, h]
    · rw [List.filter_cons_of_neg (by simpa using h), ih hrest]
      simp [findIn, h]

end Lookup

/-! ## The key of a table -/

namespace Table

/-- The column at a place of the key is the one that has this position. -/
theorem WellFormed.primaryKey_eq_some_iff {t : Table} (h : t.WellFormed) {j : Nat} {c : Column} :
    t.primaryKey[j]? = some c ↔ c ∈ t.columns ∧ c.keyOrdinal?.map UInt64.toNat = some j := by
  have hplace : ∀ {i : Nat} {d : Column}, t.primaryKey[i]? = some d →
      d.keyOrdinal?.map UInt64.toNat = some i := by
    intro i d hd
    obtain ⟨hi, rfl⟩ := List.getElem?_eq_some_iff.1 hd
    have horder := congrArg (·[i]?) h.keyOrder
    simpa [hi] using horder
  constructor
  · intro hc
    have hmem := (List.mem_filter.1 (h.keyColumns.mem_iff.1 (List.mem_of_getElem? hc))).1
    exact ⟨hmem, hplace hc⟩
  · rintro ⟨hmem, hj⟩
    have hkey : c.isPrimaryKey := by
      obtain ⟨n, hn, -⟩ := Option.map_eq_some_iff.1 hj
      simp [Column.isPrimaryKey, hn]
    obtain ⟨i, hi⟩ := List.getElem?_of_mem (h.keyColumns.mem_iff.2 (List.mem_filter.2 ⟨hmem, hkey⟩))
    have hij : i = j := Option.some.inj ((hplace hi).symm.trans hj)
    exact hij ▸ hi

/-- The columns of an assembled table have the positions that were given for their names, and every
position belongs to a column. -/
theorem mem_key_iff_of_assemble {name : TableName} {columns : List Column} {key : KeyOrdinals}
    {rows : List ReferenceRow} {t : Table} (h : assemble name columns key rows = .ok t)
    (hplain : ∀ c ∈ columns, c.keyOrdinal? = none) {column : String} {ordinal : UInt64} :
    (∃ c ∈ t.columns, c.name = column ∧ c.keyOrdinal? = some ordinal) ↔
      key.find? column = some ordinal := by
  obtain ⟨hkey, keys, -, htable⟩ := assemble_eq_ok_iff_marked.1 h
  have hcolumns : ∀ {c : Column}, c ∈ t.columns ↔
      ∃ d ∈ columns, (d.normalized.marked key) = c := by
    intro c
    rw [(ofColumns_eq_ok_iff.1 htable).2]
    exact List.mem_mergeSort.trans List.mem_map
  have hmarked : ∀ {d : Column}, d ∈ columns →
      (d.normalized.marked key).keyOrdinal? = key.find? d.name := by
    intro d hd
    simp [Column.marked, hplain d hd]
  constructor
  · rintro ⟨c, hc, hname, hordinal⟩
    obtain ⟨d, hd, rfl⟩ := hcolumns.1 hc
    rw [← hname, ← hordinal, hmarked hd]
    rfl
  · intro hfind
    obtain ⟨d, hd, hname⟩ := List.mem_map.1 (hkey _ (Lookup.find?_eq_some_iff.1 hfind))
    exact ⟨_, hcolumns.2 ⟨d, hd, rfl⟩, hname, by rw [hmarked hd, hname, hfind]⟩

end Table

/-! ## Runs over an information schema -/

namespace InformationSchema

variable {σ κ : Type} {source : RowSource σ κ} {s s' : σ}

/-- A snapshot is taken only of answers that can all be read. -/
theorem Dialect.reports_of_run {d : Dialect} {naming : Naming} {schemas : List String}
    {snapshot : Snapshot} (h : (d.snapshot naming schemas).run source s = (.ok snapshot, s')) :
    ∃ a, d.Reports naming schemas source s s' a := by
  simp only [Dialect.snapshot, loadPrimaryKeys, loadForeignKeys, primaryKeys, foreignKeys, columnsBy,
    Query.run_bind_eq_ok_iff, Query.run_rows, Query.run_ofExcept, Prod.mk.injEq, bind_ok_iff] at h
  obtain ⟨listed, s₁, hlisted, tables, _, ⟨htables, rfl⟩, _, _, ⟨keyRows, s₂, hkeyRows,
    ⟨keys, hkeys, -⟩, rfl⟩, _, _, ⟨referenceRows, s₃, hreferenceRows, ⟨references, hreferences, -⟩,
    rfl⟩, columnRows, s₄, hcolumnRows, _, _, ⟨⟨columns, hcolumns, -⟩, rfl⟩, hdone⟩ := h
  obtain ⟨-, rfl⟩ := Prod.mk.inj hdone
  exact ⟨⟨tables, keys, references, columns⟩, s₁, s₂, s₃, ⟨listed, hlisted, htables⟩,
    ⟨keyRows, hkeyRows, hkeys⟩, ⟨referenceRows, hreferenceRows, hreferences⟩,
    ⟨columnRows, hcolumnRows, hcolumns⟩⟩

/-- A source in one state gives one set of answers. -/
theorem Dialect.Reports.unique {d : Dialect} {naming : Naming} {schemas : List String} {u : σ}
    {a b : Answers} (ha : d.Reports naming schemas source s s' a)
    (hb : d.Reports naming schemas source s u b) : a = b := by
  have same {α : Type} {statement : Statement} {entry : Row → Except Error α} {v w w' : σ}
      {l m : List α} (hl : Reads source statement entry v w l)
      (hm : Reads source statement entry v w' m) : l = m ∧ w = w' := by
    obtain ⟨rows, hrows, hl⟩ := hl
    obtain ⟨rows', hrows', hm⟩ := hm
    obtain ⟨hrows, rfl⟩ := Prod.mk.inj (hrows.symm.trans hrows')
    cases hrows
    exact ⟨Except.ok.inj (hl.symm.trans hm), rfl⟩
  obtain ⟨_, _, _, htables, hkeys, hreferences, hcolumns⟩ := ha
  obtain ⟨_, _, _, htables', hkeys', hreferences', hcolumns'⟩ := hb
  obtain ⟨h₁, rfl⟩ := same htables htables'
  obtain ⟨h₂, rfl⟩ := same hkeys hkeys'
  obtain ⟨h₃, rfl⟩ := same hreferences hreferences'
  obtain ⟨h₄, -⟩ := same hcolumns hcolumns'
  cases a
  cases b
  simp_all

/-- A table that comes out is the one described under its name. -/
theorem Answers.table_of_mem_items {a : Answers} {added : List Column} {t : Table}
    (h : .ok t ∈ a.items added) : (a.about t.name).table added t.name = .ok t := by
  obtain ⟨i, hi, hitem⟩ := List.mem_mapIdx.1 h
  split at hitem
  · cases hitem
  · rw [Table.name_of_assemble hitem]
    exact hitem

end InformationSchema

namespace Engine

open InformationSchema

variable {σ κ : Type} {e : Engine} {d : Dialect} {options : ExtractOptions} {naming : Naming}
  {source : RowSource σ κ} {s s' : σ}

/-- A run that comes to its tables has read all four answers. -/
theorem reports_of_run_tables (hd : e.dialect? = some d) {queries : List (Query Table)}
    (h : (e.tables options naming).run source s = (.ok queries, s')) :
    ∃ a, d.Reports naming options.schemas source s s' a := by
  cases e with
  | postgres =>
    cases hd
    obtain ⟨snapshot, s₁, hsnapshot, hdone⟩ := (Query.run_bind_eq_ok_iff source).1 h
    obtain ⟨-, rfl⟩ := Prod.mk.inj hdone
    exact Dialect.reports_of_run hsnapshot
  | sqlServer =>
    cases hd
    obtain ⟨snapshot, s₁, hsnapshot, hdone⟩ := (Query.run_bind_eq_ok_iff source).1 h
    obtain ⟨-, rfl⟩ := Prod.mk.inj hdone
    exact Dialect.reports_of_run hsnapshot
  | sqlite => cases hd

/-- A table that comes out of a run is assembled from the answers, which were all read. -/
theorem exists_reports_of_mem_drain (hd : e.dialect? = some d) {t : Table}
    (h : .ok t ∈ ((e.tables options naming).drain source s).1) :
    ∃ s' a, d.Reports naming options.schemas source s s' a ∧
      (a.about t.name).table (e.addedColumns options) t.name = .ok t := by
  rcases hrun : (e.tables options naming).run source s with ⟨err | queries, s'⟩
  · rw [TableStream.drain_of_error source hrun] at h
    simp at h
  · obtain ⟨a, ha⟩ := reports_of_run_tables hd hrun
    rw [drain_of_reports hd ha] at h
    exact ⟨s', a, ha, Answers.table_of_mem_items (mem_of_mem_upToError h)⟩

/-- No column has a key position before the key is known. -/
theorem keyOrdinal?_of_reports (hd : e.dialect? = some d) {a : Answers}
    (h : d.Reports naming options.schemas source s s' a) (name : TableName) :
    ∀ c ∈ rowsOf name a.columns ++ e.addedColumns options, c.keyOrdinal? = none := by
  obtain ⟨_, _, _, -, -, -, ⟨rows, -, hcolumns⟩⟩ := h
  intro c hc
  rcases List.mem_append.1 hc with hc | hc
  · obtain ⟨entry, hentry, rfl⟩ := List.mem_map.1 hc
    obtain ⟨row, -, hrow⟩ := exists_of_mem_mapM hcolumns (List.mem_filter.1 hentry).1
    -- every read before the column is built may fail, and none of them gives it a position
    cases e with
    | postgres =>
      cases hd
      simp only [Postgres.dialect, Postgres.columnEntry, bind_ok_iff] at hrow
      obtain ⟨_, -, _, -, _, -, _, -, _, -, _, -, _, -, _, -, _, -, hrow⟩ := hrow
      cases hrow
      rfl
    | sqlServer =>
      cases hd
      simp only [SqlServer.dialect, SqlServer.columnEntry, bind_ok_iff] at hrow
      obtain ⟨_, -, _, -, _, -, _, -, _, -, _, -, _, -, _, -, _, -, hrow⟩ := hrow
      cases hrow
      rfl
    | sqlite => cases hd
  · cases e with
    | postgres =>
      simp only [addedColumns] at hc
      split at hc
      · rw [List.mem_singleton.1 hc]
        rfl
      · cases hc
    | sqlServer => cases hc
    | sqlite => cases hc

end Engine

/-! ## Which rows count -/

namespace InformationSchema

/-- The rows, each with a column and its position, are the columns of the key, one for one. -/
def Accounted (rows : List (String × UInt64)) (key : List Column) : Prop :=
  (rows.map fun r => (r.1, r.2.toNat)).Perm (key.zipIdx.map fun (c, j) => (c.name, j))

/-- If each place of the key has the column whose last row gives it, the rows are the columns of the
key exactly if they name each column once. -/
theorem accounted_iff_nodup {rows : List (String × UInt64)} {key : List Column}
    (hkey : (key.map (·.name)).Nodup)
    (h : ∀ column j, (key[j]?).map (·.name) = some column ↔
      ((Lookup.ofList rows).find? column).map UInt64.toNat = some j) :
    Accounted rows key ↔ (rows.map (·.1)).Nodup := by
  have hnames : (key.zipIdx.map fun (c, j) => (c.name, j)).map (·.1) = key.map (·.name) := by
    rw [List.map_map, ← List.zipIdx_map_fst 0 key, List.map_map]
    simp only [List.zipIdx_map_fst]
    rfl
  constructor
  · intro hperm
    have hfst := hperm.map (·.1)
    rw [hnames, List.map_map] at hfst
    exact hfst.nodup_iff.2 hkey
  · intro hn
    have hrows : (rows.map fun r => (r.1, r.2.toNat)).Nodup :=
      List.Nodup.of_map (·.1) (by rwa [List.map_map])
    -- nothing occurs twice on either side, so only what occurs has to be compared
    refine (List.perm_ext_iff_of_nodup hrows (List.Nodup.of_map (·.1) (hnames ▸ hkey))).2 ?_
    rintro ⟨column, j⟩
    have hplace : (column, j) ∈ key.zipIdx.map (fun (c, j) => (c.name, j)) ↔
        (key[j]?).map (·.name) = some column := by
      simp [List.mem_map, List.mem_zipIdx_iff_getElem?]
    have hrow : (column, j) ∈ rows.map (fun r => (r.1, r.2.toNat)) ↔
        ((Lookup.ofList rows).find? column).map UInt64.toNat = some j := by
      simp [Option.map_eq_some_iff, Lookup.find?_ofList_of_nodup hn]
    rw [hplace, h, hrow]

end InformationSchema

namespace Engine

open InformationSchema

variable {σ κ : Type} {e : Engine} {d : Dialect} {options : ExtractOptions} {naming : Naming}
  {source : RowSource σ κ} {s : σ}

/-- The key of a table that comes out has at each place the column whose last row gives this
position. So the rows about its key are the columns of the key, one for one, exactly if no column is
reported twice. -/
theorem key_from_last_rows (hd : e.dialect? = some d) {t : Table}
    (h : .ok t ∈ ((e.tables options naming).drain source s).1) :
    ∃ s' a, d.Reports naming options.schemas source s s' a ∧
      (∀ column j, (t.primaryKey[j]?).map (·.name) = some column ↔
        (((rowsOf t.name a.primaryKeys).filter (·.1 = column)).getLast?).map (·.2.toNat) = some j) ∧
      (Accounted (rowsOf t.name a.primaryKeys) t.primaryKey ↔
        ((rowsOf t.name a.primaryKeys).map (·.1)).Nodup) := by
  obtain ⟨s', a, ha, hdescribed⟩ := exists_reports_of_mem_drain hd h
  have hw : t.WellFormed := Table.wellFormed_of_assemble hdescribed
  have hplain : ∀ c ∈ rowsOf t.name a.columns ++
      (if (rowsOf t.name a.columns).isEmpty then [] else e.addedColumns options),
      c.keyOrdinal? = none := by
    intro c hc
    refine keyOrdinal?_of_reports hd ha t.name c ?_
    split at hc <;> simp_all
  have hkey : ∀ {column ordinal}, (∃ c ∈ t.columns, c.name = column ∧ c.keyOrdinal? = some ordinal) ↔
      (Lookup.ofList (rowsOf t.name a.primaryKeys)).find? column = some ordinal :=
    Table.mem_key_iff_of_assemble hdescribed hplain
  have hplaces : ∀ column j, (t.primaryKey[j]?).map (·.name) = some column ↔
      ((Lookup.ofList (rowsOf t.name a.primaryKeys)).find? column).map UInt64.toNat = some j := by
    intro column j
    simp only [Option.map_eq_some_iff, hw.primaryKey_eq_some_iff, ← hkey]
    constructor
    · rintro ⟨c, ⟨hc, ordinal, hordinal, hj⟩, hname⟩
      exact ⟨ordinal, ⟨c, hc, hname, hordinal⟩, hj⟩
    · rintro ⟨ordinal, ⟨c, hc, hname, hordinal⟩, hj⟩
      exact ⟨c, ⟨hc, ordinal, hordinal, hj⟩, hname⟩
  have hdistinct : (t.primaryKey.map (·.name)).Nodup :=
    (hw.keyColumns.map (·.name)).nodup_iff.2
      (hw.distinct.sublist (List.filter_sublist.map _))
  refine ⟨s', a, ha, fun column j => ?_, accounted_iff_nodup hdistinct hplaces⟩
  rw [hplaces, Lookup.find?_ofList, Option.map_map]
  rfl

/-! ## Rows that contradict each other -/

/-- Answers about one table of two columns. The second column is reported twice, once at the position
of the first. -/
def contradictory : List (List Row) := [
  [⟨["table_schema", "table_name"], [.string "m", .string "t"]⟩],
  [(1, "x"), (1, "y"), (2, "y")].map fun (position, column) =>
    ⟨["table_schema", "table_name", "ordinal_position", "column_name"],
      [.string "m", .string "t", .int64 position, .string column]⟩,
  [],
  ["x", "y"].map fun column =>
    ⟨["table_schema", "table_name", "column_name", "udt_name", "character_maximum_length",
        "nullable", "column_default", "is_generated", "is_identity"],
      [.string "m", .string "t", .string column, .string "int4", .null,
        .bool false, .null, .bool false, .bool false]⟩]

/-- What is read from these answers. -/
def contradictoryAnswers : Answers where
  tables := [⟨"m", "t"⟩]
  primaryKeys := [(⟨"m", "t"⟩, "x", 0), (⟨"m", "t"⟩, "y", 0), (⟨"m", "t"⟩, "y", 1)]
  foreignKeys := []
  columns := ["x", "y"].map fun column =>
    (⟨"m", "t"⟩, { name := column, dataType := typeName "int4" none, nullable := false })

theorem reports_contradictory :
    Postgres.dialect.Reports .postgres [] RowSource.inTurn contradictory []
      contradictoryAnswers :=
  Dialect.reports_inTurn rfl rfl rfl rfl

/-- A table comes out all the same, with both columns in its key. -/
theorem mem_drain_contradictory :
    ∃ t, .ok t ∈ ((postgres.tables {} .postgres).drain .inTurn contradictory).1 ∧
      t.name = ⟨"m", "t"⟩ ∧ t.primaryKey.map (·.name) = ["x", "y"] := by
  have hitems : ((postgres.tables {} .postgres).drain .inTurn contradictory).1.map
      (fun item => item.toOption.map fun t =>
        (t.name.schema, t.name.name, t.primaryKey.map (·.name))) = [some ("m", "t", ["x", "y"])] := by
    rw [drain_of_reports rfl reports_contradictory]
    cbv
  obtain ⟨item, hitem, hview⟩ := List.map_eq_singleton_iff.1 hitems
  obtain ⟨t, ht, hview⟩ := Option.map_eq_some_iff.1 hview
  simp only [Prod.mk.injEq] at hview
  refine ⟨t, ?_, ?_, hview.2.2⟩
  · rw [hitem, ok_of_toOption ht]
    exact List.mem_singleton_self _
  · rw [← hview.1, ← hview.2.1]

/-- Three rows about a key of two columns. -/
theorem not_accounted_of_contradictory {t : Table} (hname : t.name = ⟨"m", "t"⟩)
    (hkey : t.primaryKey.map (·.name) = ["x", "y"]) :
    ¬ Accounted (rowsOf t.name contradictoryAnswers.primaryKeys) t.primaryKey := by
  intro hperm
  have hlength := hperm.length_eq
  have hsize := congrArg List.length hkey
  rw [hname] at hlength
  simp [rowsOf, contradictoryAnswers] at hlength hsize
  omega

/-- The key of the table is made of two of the three rows about it. -/
theorem key_from_contradictory_rows :
    ∃ t s' a, .ok t ∈ ((postgres.tables {} .postgres).drain .inTurn contradictory).1 ∧
      Postgres.dialect.Reports .postgres [] RowSource.inTurn contradictory s' a ∧
      rowsOf t.name a.primaryKeys = [("x", 0), ("y", 0), ("y", 1)] ∧
      t.primaryKey.map (·.name) = ["x", "y"] ∧
      (Accounted (rowsOf t.name a.primaryKeys) t.primaryKey ↔
        ((rowsOf t.name a.primaryKeys).map (·.1)).Nodup) := by
  obtain ⟨t, ht, hname, hkey⟩ := mem_drain_contradictory
  obtain ⟨s', a, ha, -, haccounted⟩ := key_from_last_rows rfl ht
  refine ⟨t, s', a, ht, ha, ?_, hkey, haccounted⟩
  rw [ha.unique reports_contradictory, hname]
  decide

/-- That every row about a key counts does not hold of all tables that come out. -/
theorem not_all_rows_accounted :
    ¬ ∀ (σ κ : Type) (e : Engine) (d : Dialect) (options : ExtractOptions) (naming : Naming)
        (source : RowSource σ κ) (s s' : σ) (a : Answers) (t : Table), e.dialect? = some d →
        d.Reports naming options.schemas source s s' a →
        .ok t ∈ ((e.tables options naming).drain source s).1 →
        Accounted (rowsOf t.name a.primaryKeys) t.primaryKey := by
  intro h
  obtain ⟨t, ht, hname, hkey⟩ := mem_drain_contradictory
  exact not_accounted_of_contradictory hname hkey
    (h _ _ postgres _ {} _ _ _ _ _ t rfl reports_contradictory ht)

end Engine

end SchemaCatalog
