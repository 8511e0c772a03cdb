import Mathlib
import SchemaCatalog.Engine
import SchemaCatalog.Proofs.Runs
import SchemaCatalog.Proofs.TableInvariant
/-!
# Tables from their own rows

An engine with an information schema reports on all tables at once, and the rows are gathered by
table before the first one is assembled. The specification does not gather: it picks, for every
listed table, the rows that carry its name (`Answers.items`). Both come to the same tables
(`Snapshot.assemble_eq_items`, `Engine.drain_of_reports`).
-/

namespace SchemaCatalog

/-! ## Keyed entries -/

namespace Lookup

variable {κ ν : Type} [DecidableEq κ]

theorem findIn_filter_ne (k x : κ) (l : List (κ × ν)) :
    findIn x (l.filter fun e => e.1 ≠ k) = if x = k then none else findIn x l := by
  induction l with
  | nil => simp [findIn]
  | cons e rest ih =>
    by_cases hk : e.1 = k
    · rw [List.filter_cons_of_neg (by simp [hk]), ih]
      by_cases hx : x = k
      · simp [hx]
      · have hex : e.1 ≠ x := fun h => hx (h ▸ hk)
        simp [hx, findIn, hex]
    · rw [List.filter_cons_of_pos (by simp [hk])]
      by_cases hex : e.1 = x
      · have hx : x ≠ k := fun h => hk (hex.trans h)
        simp [findIn, hex, hx]
      · simp only [findIn, if_neg hex, ih]

/-- The erased key has no value, every other key the value it had. -/
theorem find?_erase (t : Lookup κ ν) (k x : κ) :
    (t.erase k).find? x = if x = k then none else t.find? x :=
  findIn_filter_ne k x t.entries

theorem find?_foldl_insert (l : List (κ × ν)) (t : Lookup κ ν) (k : κ) :
    (l.foldl (fun t e => t.insert e.1 e.2) t).find? k =
      ((l.filter fun e => e.1 = k).getLast?.map (·.2)).or (t.find? k) := by
  induction l generalizing t with
  | nil => simp
  | cons e rest ih =>
    rw [List.foldl_cons, ih, insert, find?_alter]
    by_cases hk : e.1 = k
    · rw [List.filter_cons_of_pos (by simp [hk]), List.getLast?_cons]
      cases (rest.filter fun e => e.1 = k).getLast? <;> simp [hk]
    · rw [List.filter_cons_of_neg (by simp [hk]), if_neg hk]

/-- Of the pairs of a list that share a key the last one counts. -/
theorem find?_ofList (l : List (κ × ν)) (k : κ) :
    (ofList l).find? k = (l.filter fun e => e.1 = k).getLast?.map (·.2) := by
  simp [ofList, find?_foldl_insert]

end Lookup

namespace InformationSchema

/-! ## The specification -/

/-- What the rows say about one table, in their order. -/
def rowsOf {α : Type} (name : TableName) (rows : List (TableName × α)) : List α :=
  (rows.filter fun r => r.1 = name).map (·.2)

/-- All that is reported about one table. -/
structure Description where
  columns : List Column
  key : List (String × UInt64)
  references : List ReferenceRow

/-- The table that is described. A table that has columns may get further ones behind them; of the
key positions that are given for one column the last one counts (`Lookup.find?_ofList`). -/
def Description.table (added : List Column) (name : TableName) (d : Description) :
    Except Error Table :=
  Table.assemble name (d.columns ++ if d.columns.isEmpty then [] else added)
    (Lookup.ofList d.key) d.references

/-- The rows of the four answers. -/
structure Answers where
  tables : List TableName
  primaryKeys : List (TableName × String × UInt64)
  foreignKeys : List (TableName × ReferenceRow)
  columns : List (TableName × Column)

namespace Answers

/-- What the answers tell about a table. -/
def about (a : Answers) (name : TableName) : Description :=
  ⟨rowsOf name a.columns, rowsOf name a.primaryKeys, rowsOf name a.foreignKeys⟩

/-- One item for each of the names: the table described, unless it came before. -/
def itemsAfter (a : Answers) (added : List Column) (earlier names : List TableName) :
    List (Except Error Table) :=
  names.mapIdx fun i name =>
    if name ∈ earlier ++ names.take i then .error (.inTable name .noColumns)
    else (a.about name).table added name

/-- One item for each listed table, in the order of the listing. A table that is listed again has
no columns left. -/
def items (a : Answers) (added : List Column) : List (Except Error Table) :=
  a.itemsAfter added [] a.tables

end Answers

/-- The source answers the statement with rows that the rule reads. -/
def Reads {σ κ α : Type} (source : RowSource σ κ) (statement : Statement)
    (entry : Row → Except Error α) (s s' : σ) (entries : List α) : Prop :=
  ∃ rows, source.fetchAll statement s = (.ok rows, s') ∧ rows.mapM entry = .ok entries

/-- The source answers all four statements, in the order in which they are asked. -/
def Dialect.Reports {σ κ : Type} (d : Dialect) (naming : Naming) (schemas : List String)
    (source : RowSource σ κ) (s s' : σ) (a : Answers) : Prop :=
  ∃ s₁ s₂ s₃,
    Reads source ⟨d.tablesSql naming schemas, schemas.map .string⟩ (tableEntry d.listing)
      s s₁ a.tables ∧
    Reads source ⟨primaryKeysSql, []⟩ primaryKeyEntry s₁ s₂ a.primaryKeys ∧
    Reads source ⟨foreignKeysSql, []⟩ foreignKeyEntry s₂ s₃ a.foreignKeys ∧
    Reads source ⟨d.columnsSql, []⟩ d.columnEntry s₃ s' a.columns

/-! ## Gathering -/

theorem rowsOf_cons {α : Type} (name : TableName) (r : TableName × α)
    (rows : List (TableName × α)) :
    rowsOf name (r :: rows) = if r.1 = name then r.2 :: rowsOf name rows else rowsOf name rows := by
  by_cases h : r.1 = name <;> simp [rowsOf, h]

/-- What is gathered for a table are the rows of that table. -/
theorem find?_foldl_addTo {α : Type} (rows : List (TableName × α)) (values : ByTable α)
    (name : TableName) :
    ((rows.foldl addTo values).find? name).getD [] =
      (values.find? name).getD [] ++ rowsOf name rows := by
  induction rows generalizing values with
  | nil => simp [rowsOf]
  | cons r rest ih =>
    rw [List.foldl_cons, ih, addTo, Lookup.find?_alter, rowsOf_cons]
    by_cases h : r.1 = name <;> simp [h]

/-- The key gathered for a table is the one that its own rows enter, one after the other. -/
theorem find?_foldl_addKeyColumn (rows : List (TableName × String × UInt64)) (keys : PrimaryKeys)
    (name : TableName) :
    ((rows.foldl addKeyColumn keys).find? name).getD Lookup.empty =
      (rowsOf name rows).foldl (fun key e => key.insert e.1 e.2)
        ((keys.find? name).getD Lookup.empty) := by
  induction rows generalizing keys with
  | nil => simp [rowsOf]
  | cons r rest ih =>
    rw [List.foldl_cons, ih, addKeyColumn, Lookup.find?_alter, rowsOf_cons]
    by_cases h : r.1 = name <;> simp [h]

theorem Answers.itemsAfter_cons (a : Answers) (added : List Column) (earlier : List TableName)
    (name : TableName) (rest : List TableName) :
    a.itemsAfter added earlier (name :: rest) =
      (if name ∈ earlier then .error (.inTable name .noColumns)
        else (a.about name).table added name) ::
      a.itemsAfter added (earlier ++ [name]) rest := by
  simp [itemsAfter, List.mapIdx_cons]

/-- The tables assembled from gathered rows are those assembled from their own rows, if the columns
of the earlier tables are used up. -/
theorem Snapshot.assembleFrom_eq_itemsAfter {a : Answers} {decorate : List Column → List Column}
    {added : List Column} (hd : ∀ own, decorate own = own ++ added) {names earlier : List TableName}
    {columns : ByTable Column}
    (hc : ∀ name, (columns.find? name).getD [] =
      if name ∈ earlier then [] else rowsOf name a.columns) :
    assembleFrom decorate (a.primaryKeys.foldl addKeyColumn Lookup.empty)
        (a.foreignKeys.foldl addTo Lookup.empty) names columns =
      a.itemsAfter added earlier names := by
  -- Along the listing `earlier` grows by the name whose columns are erased: that is `hc`.
  induction names generalizing earlier columns with
  | nil => rfl
  | cons name rest ih =>
    have hrest : ∀ other, ((columns.erase name).find? other).getD [] =
        if other ∈ earlier ++ [name] then [] else rowsOf other a.columns := by
      intro other
      rw [Lookup.find?_erase]
      by_cases ho : other = name <;> simp [ho, hc]
    rw [assembleFrom, a.itemsAfter_cons, ih hrest, hc, find?_foldl_addKeyColumn, find?_foldl_addTo]
    congr 1
    by_cases he : name ∈ earlier
    · rw [if_pos he, if_pos he]
      rfl
    · have hown : (if (rowsOf name a.columns).isEmpty then rowsOf name a.columns
          else decorate (rowsOf name a.columns)) =
          rowsOf name a.columns ++ if (rowsOf name a.columns).isEmpty then [] else added := by
        rw [hd]
        cases rowsOf name a.columns <;> simp
      rw [if_neg he, if_neg he, hown]
      rfl

/-- Gathering the rows before the first table is assembled changes nothing. -/
theorem Snapshot.assemble_eq_items (a : Answers) {decorate : List Column → List Column}
    {added : List Column} (hd : ∀ own, decorate own = own ++ added) :
    assemble decorate ⟨a.tables, a.columns.foldl addTo Lookup.empty,
      a.primaryKeys.foldl addKeyColumn Lookup.empty, a.foreignKeys.foldl addTo Lookup.empty⟩ =
      a.items added := by
  refine assembleFrom_eq_itemsAfter hd fun name => ?_
  rw [find?_foldl_addTo]
  simp

section Reports
variable {σ κ : Type} {source : RowSource σ κ} {s s' : σ}

/-- Rows that are all read are handed on together. -/
theorem run_gather {α β : Type} {statement : Statement} {entry : Row → Except Error α}
    {gather : List Row → Except Error β} {f : List α → β} {entries : List α}
    (hgather : ∀ rows, gather rows = do let entries ← rows.mapM entry; pure (f entries))
    (h : Reads source statement entry s s' entries) :
    (Query.rows statement >>= fun rows => Query.ofExcept (gather rows)).run source s =
      (.ok (f entries), s') := by
  obtain ⟨rows, hrows, hentries⟩ := h
  rw [Query.run_bind_ok source (by rw [Query.run_rows, hrows]), Query.run_ofExcept, hgather,
    hentries]
  rfl

theorem run_loadPrimaryKeys {rows : List (TableName × String × UInt64)}
    (h : Reads source ⟨primaryKeysSql, []⟩ primaryKeyEntry s s' rows) :
    loadPrimaryKeys.run source s = (.ok (rows.foldl addKeyColumn Lookup.empty), s') :=
  run_gather (fun _ => rfl) h

theorem run_loadForeignKeys {rows : List (TableName × ReferenceRow)}
    (h : Reads source ⟨foreignKeysSql, []⟩ foreignKeyEntry s s' rows) :
    loadForeignKeys.run source s = (.ok (rows.foldl addTo Lookup.empty), s') :=
  run_gather (fun _ => rfl) h

theorem Dialect.run_snapshot {d : Dialect} {naming : Naming} {schemas : List String} {a : Answers}
    (h : d.Reports naming schemas source s s' a) :
    (d.snapshot naming schemas).run source s =
      (.ok ⟨a.tables, a.columns.foldl addTo Lookup.empty,
        a.primaryKeys.foldl addKeyColumn Lookup.empty, a.foreignKeys.foldl addTo Lookup.empty⟩,
        s') := by
  obtain ⟨s₁, s₂, s₃, ⟨listed, hlisted, htables⟩, hkeys, hforeign, ⟨rows, hrows, hcolumns⟩⟩ := h
  unfold snapshot
  rw [Query.run_bind_ok source (by rw [Query.run_rows, hlisted]),
    Query.run_bind_ok source (by rw [Query.run_ofExcept, htables]),
    Query.run_bind_ok source (run_loadPrimaryKeys hkeys),
    Query.run_bind_ok source (run_loadForeignKeys hforeign),
    Query.run_bind_ok source (by rw [Query.run_rows, hrows]),
    Query.run_bind_ok source (by rw [Query.run_ofExcept, columnsBy, hcolumns]; rfl),
    Query.run_pure]

end Reports

end InformationSchema

/-! ## Names -/

namespace TableStream

/-- The names of the tables among the items. -/
def names (items : List (Except Error Table)) : List TableName :=
  (items.filterMap Except.toOption).map (·.name)

@[simp]
theorem names_nil : names [] = [] := rfl

@[simp]
theorem names_error (e : Error) : names [.error e] = [] := rfl

@[simp]
theorem names_ok (t : Table) (items : List (Except Error Table)) :
    names (.ok t :: items) = t.name :: names items := rfl

theorem names_map_ok (ts : List Table) : names (ts.map .ok) = ts.map (·.name) := by
  rw [names, List.filterMap_map]
  exact congrArg _ List.filterMap_some

end TableStream

theorem Table.name_of_assemble {name : TableName} {columns : List Column} {key : KeyOrdinals}
    {rows : List ReferenceRow} {t : Table} (h : assemble name columns key rows = .ok t) :
    t.name = name := by
  obtain ⟨_, _, _, _, _, h⟩ := assemble_eq_ok_iff.1 h
  rw [(ofColumns_eq_ok_iff.1 h).2]

namespace InformationSchema.Answers

variable (a : Answers) (added : List Column)

theorem length_items : (a.items added).length = a.tables.length := by
  simp [items, itemsAfter]

/-- The tables before the first error are the first ones listed, and no two of them are the same. -/
theorem names_upToError (earlier names : List TableName) :
    let found := TableStream.names (upToError (a.itemsAfter added earlier names))
    found <+: names ∧ found.Nodup ∧ ∀ name ∈ found, name ∉ earlier := by
  induction names generalizing earlier with
  | nil => simp [itemsAfter, upToError]
  | cons name rest ih =>
    rw [itemsAfter_cons]
    by_cases he : name ∈ earlier
    · -- A name that came before gives an error, and nothing behind an error counts.
      simp [he, upToError]
    · rw [if_neg he]
      cases ht : (a.about name).table added name with
      | error e => simp [upToError]
      | ok t =>
        obtain ⟨hinit, hnodup, hnew⟩ := ih (earlier ++ [name])
        have hname : t.name = name := Table.name_of_assemble ht
        simp only [upToError, TableStream.names_ok, hname]
        refine ⟨(List.prefix_cons_inj name).2 hinit, List.nodup_cons.2 ⟨fun h => ?_, hnodup⟩, ?_⟩
        · exact hnew name h (by simp)
        · intro other ho
          rcases List.mem_cons.1 ho with rfl | ho
          · exact he
          · exact fun h => hnew other ho (List.mem_append_left _ h)

theorem names_items :
    TableStream.names (upToError (a.items added)) <+: a.tables ∧
      (TableStream.names (upToError (a.items added))).Nodup :=
  have h := a.names_upToError added [] a.tables
  ⟨h.1, h.2.1⟩

/-- If all items are tables, these are the listed ones, each listed once. -/
theorem names_of_mapM {ts : List Table} (h : (a.items added).mapM id = .ok ts) :
    ts.map (·.name) = a.tables ∧ a.tables.Nodup := by
  have hall : a.items added = ts.map .ok := by simpa using mapM_ok_iff.1 h
  have hfirst : upToError (a.items added) = ts.map .ok := by
    rw [← mapM_id_upToError] at h
    simpa using mapM_ok_iff.1 h
  obtain ⟨hinit, hnodup⟩ := a.names_items added
  rw [hfirst, TableStream.names_map_ok] at hinit hnodup
  have hnames : ts.map (·.name) = a.tables := by
    refine hinit.eq_of_length ?_
    rw [← a.length_items added, hall, List.length_map, List.length_map]
  exact ⟨hnames, hnames ▸ hnodup⟩

/-- What answers tell about tables that are not listed makes no difference. -/
theorem items_congr {a b : Answers} (htables : b.tables = a.tables)
    (habout : ∀ name ∈ a.tables, b.about name = a.about name) : b.items added = a.items added := by
  unfold items itemsAfter
  rw [htables]
  refine List.mapIdx_eq_mapIdx_iff.2 fun i hi => ?_
  rw [habout _ (List.getElem_mem hi)]

end InformationSchema.Answers

namespace TableStream

theorem compare_lt_of_isLE {m n : TableName} (h : (compare m n).isLE) (hne : m ≠ n) :
    compare m n = .lt := by
  cases hc : compare m n with
  | lt => rfl
  | eq => exact absurd (Std.LawfulEqOrd.eq_of_compare hc) hne
  | gt => rw [hc] at h; cases h

/-- Tables with distinct names are put in strictly increasing order. -/
theorem sortByName_increasing {ts : List Table} (h : (ts.map (·.name)).Nodup) :
    ((sortByName ts).map (·.name)).Pairwise fun m n => compare m n = .lt := by
  have hle : (sortByName ts).Pairwise fun t u => (compare t.name u.name).isLE :=
    List.pairwise_mergeSort (fun _ _ _ => Std.TransCmp.isLE_trans) (fun t u => by
      have hswap : compare u.name t.name = (compare t.name u.name).swap := Std.OrientedCmp.eq_swap
      cases hc : compare t.name u.name <;> simp [hswap, hc]) ts
  have hne : (sortByName ts).Pairwise fun t u => t.name ≠ u.name :=
    List.pairwise_map.1 (((List.mergeSort_perm ts _).map _).nodup_iff.2 h)
  exact List.pairwise_map.2 ((hle.and hne).imp fun h => compare_lt_of_isLE h.1 h.2)

end TableStream

/-! ## Engines with an information schema -/

namespace Engine

open InformationSchema

/-- How the engine words what it asks of an information schema, if it has one. -/
def dialect? : Engine → Option InformationSchema.Dialect
  | postgres => some Postgres.dialect
  | sqlServer => some SqlServer.dialect
  | sqlite => none

/-- The columns that the options add to a table. -/
def addedColumns : Engine → ExtractOptions → List Column
  | postgres, options => if options.concurrencyColumn then [Postgres.xminColumn] else []
  | _, _ => []

variable {σ κ : Type} {e : Engine} {d : Dialect} {options : ExtractOptions} {naming : Naming}
  {source : RowSource σ κ} {s s' : σ} {a : Answers}

theorem decorate_eq_append (options : ExtractOptions) (own : List Column) :
    Postgres.decorate options own = own ++ postgres.addedColumns options := by
  cases h : options.concurrencyColumn <;> simp [Postgres.decorate, addedColumns, h]

theorem run_tables_of_reports (hd : e.dialect? = some d)
    (h : d.Reports naming options.schemas source s s' a) :
    (e.tables options naming).run source s =
      (.ok ((a.items (e.addedColumns options)).map Query.ofExcept), s') := by
  cases e with
  | postgres =>
    cases hd
    show (Postgres.tables options naming).run source s = _
    rw [Postgres.tables, Query.run_bind_ok source (Dialect.run_snapshot h), Query.run_pure,
      Snapshot.assemble_eq_items a (decorate_eq_append options)]
  | sqlServer =>
    cases hd
    show (SqlServer.tables options naming).run source s = _
    rw [SqlServer.tables, Query.run_bind_ok source (Dialect.run_snapshot h), Query.run_pure]
    have hitems := Snapshot.assemble_eq_items a fun own => (List.append_nil own).symm
    exact congrArg (fun items => (Except.ok (items.map Query.ofExcept), s')) hitems
  | sqlite => cases hd

/-- Items that are known beforehand come out as they are, and nothing more is asked. -/
theorem drain_tables_ofExcept (items : List (Except Error Table)) (s : σ) :
    (TableStream.tables source).stopAfterError.drain (items.map Query.ofExcept, false) s =
      (upToError items, s) := by
  induction items with
  | nil => exact TableStream.drain_stopped_nil source s
  | cons item rest ih =>
    cases item with
    | ok t =>
      rw [List.map_cons,
        TableStream.drain_stopped_ok source (Query.run_ofExcept source (.ok t) s), ih]
      rfl
    | error err =>
      rw [List.map_cons,
        TableStream.drain_stopped_error source (Query.run_ofExcept source (.error err) s)]
      cases rest <;> simp [upToError]

theorem drain_of_reports (hd : e.dialect? = some d)
    (h : d.Reports naming options.schemas source s s' a) :
    (e.tables options naming).drain source s =
      (upToError (a.items (e.addedColumns options)), s') := by
  rw [TableStream.drain_of_ok source (run_tables_of_reports hd h), drain_tables_ofExcept]

/-- What is extracted are the tables of the listing, each from its own rows. What answers tell about
other tables makes no difference, no listed table is passed over or comes twice, and tables that are
collected are the listed ones in strictly increasing order. -/
theorem tables_from_own_rows (hd : e.dialect? = some d)
    (h : d.Reports naming options.schemas source s s' a) :
    (e.tables options naming).drain source s =
        (upToError (a.items (e.addedColumns options)), s') ∧
      (∀ {σ' κ' : Type} {other : RowSource σ' κ'} {u u' : σ'} {b : Answers},
        d.Reports naming options.schemas other u u' b → b.tables = a.tables →
          (∀ name ∈ a.tables, b.about name = a.about name) →
          ((e.tables options naming).drain other u).1 =
            ((e.tables options naming).drain source s).1) ∧
      (TableStream.names ((e.tables options naming).drain source s).1 <+: a.tables ∧
        (TableStream.names ((e.tables options naming).drain source s).1).Nodup) ∧
      ∀ ts, ((e.tables options naming).collect source s).1 = .ok ts →
        (ts.map (·.name)).Pairwise (fun m n => compare m n = .lt) ∧
          (ts.map (·.name)).Perm a.tables := by
  have hdrain := drain_of_reports hd h
  refine ⟨hdrain, ?_, ?_, ?_⟩
  · intro _ _ other u u' b hb htables habout
    rw [hdrain, drain_of_reports hd hb, Answers.items_congr _ htables habout]
  · rw [hdrain]
    exact a.names_items (e.addedColumns options)
  · intro ts hts
    rw [TableStream.collect_eq_mapM, hdrain, mapM_id_upToError] at hts
    obtain ⟨found, hfound, rfl⟩ := map_ok_iff.1 hts
    obtain ⟨hnames, hnodup⟩ := a.names_of_mapM _ hfound
    refine ⟨TableStream.sortByName_increasing (hnames ▸ hnodup), ?_⟩
    rw [← hnames]
    exact (List.mergeSort_perm found _).map _

end Engine

/-! ## Answers in which the tables are mixed -/

namespace RowSource

/-- A source that answers with the given rows in turn, whatever it is asked. -/
def inTurn : RowSource (List (List Row)) (List (Except Error Row)) where
  driverName := "script"
  start
    | _, [] => (.error (.query "no rows left"), [])
    | _, rows :: rest => (.ok (rows.map .ok), rest)
  answers := .ofList

theorem fetchAll_inTurn (statement : Statement) (rows : List Row) (rest : List (List Row)) :
    inTurn.fetchAll statement (rows :: rest) = (.ok rows, rest) := by
  show ItemStream.ofList.collect (rows.map .ok) rest = _
  rw [ItemStream.collect_ofList, mapM_id_map_ok]

end RowSource

/-- Four lists of rows that can be read are reported by the source that gives them in turn. -/
theorem InformationSchema.Dialect.reports_inTurn {d : Dialect} {naming : Naming}
    {schemas : List String} {listed keyRows referenceRows columnRows : List Row} {a : Answers}
    (htables : listed.mapM (tableEntry d.listing) = .ok a.tables)
    (hkeys : keyRows.mapM primaryKeyEntry = .ok a.primaryKeys)
    (hreferences : referenceRows.mapM foreignKeyEntry = .ok a.foreignKeys)
    (hcolumns : columnRows.mapM d.columnEntry = .ok a.columns) :
    d.Reports naming schemas .inTurn [listed, keyRows, referenceRows, columnRows] [] a :=
  ⟨_, _, _, ⟨_, RowSource.fetchAll_inTurn _ _ _, htables⟩,
    ⟨_, RowSource.fetchAll_inTurn _ _ _, hkeys⟩, ⟨_, RowSource.fetchAll_inTurn _ _ _, hreferences⟩,
    ⟨_, RowSource.fetchAll_inTurn _ _ _, hcolumns⟩⟩

namespace Engine

/-- Answers about two tables of one name in different schemas, one of them listed twice, with rows
about a third table in between. -/
def interleaved : List (List Row) := [
  [("a", "t"), ("b", "t"), ("a", "t")].map fun (schema, table) =>
    ⟨["table_schema", "table_name"], [.string schema, .string table]⟩,
  [("b", 1, "x"), ("a", 2, "k"), ("c", 1, "z"), ("a", 1, "k")].map fun (schema, position, column) =>
    ⟨["table_schema", "table_name", "ordinal_position", "column_name"],
      [.string schema, .string "t", .int64 position, .string column]⟩,
  [],
  [("a", "k"), ("b", "x"), ("c", "z"), ("a", "l")].map fun (schema, column) =>
    ⟨["table_schema", "table_name", "column_name", "udt_name", "character_maximum_length",
        "nullable", "column_default", "is_generated", "is_identity"],
      [.string schema, .string "t", .string column, .string "int4", .null,
        .bool false, .null, .bool false, .bool false]⟩]

theorem reports_interleaved :
    Postgres.dialect.Reports .postgres [] RowSource.inTurn interleaved [] {
      tables := [⟨"a", "t"⟩, ⟨"b", "t"⟩, ⟨"a", "t"⟩]
      primaryKeys := [(⟨"b", "t"⟩, "x", 0), (⟨"a", "t"⟩, "k", 1), (⟨"c", "t"⟩, "z", 0),
        (⟨"a", "t"⟩, "k", 0)]
      foreignKeys := []
      columns := [("a", "k"), ("b", "x"), ("c", "z"), ("a", "l")].map fun (schema, column) =>
        (⟨schema, "t"⟩,
          { name := column, dataType := typeName "int4" none, nullable := false }) } :=
  InformationSchema.Dialect.reports_inTurn rfl rfl rfl rfl

theorem tables_from_interleaved_rows :
    ((postgres.tables { concurrencyColumn := true } .postgres).drain .inTurn interleaved).1.map
        (fun item => item.toOption.map fun t =>
          (t.name.schema, t.columns.map (·.name), t.primaryKey.map (·.name))) =
      [some ("a", ["k", "l", "xmin"], ["k"]), some ("b", ["x", "xmin"], ["x"]), none] := by
  rw [(tables_from_own_rows rfl reports_interleaved).1]
  cbv

end Engine

end SchemaCatalog
