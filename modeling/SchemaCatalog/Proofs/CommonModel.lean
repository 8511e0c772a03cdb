import SchemaCatalog.Proofs.PresentedSchema
import SchemaCatalog.Proofs.PresentedSqlite
/-!
# One model from every engine

The engines with an information schema report all keys together and gather the rows by table. SQLite
is asked about one table after the other, calls the constraints of foreign keys by numbers, counts
from zero where the others count from one, and writes lengths into types. If they are shown the same
catalog, they come to the same model, or to the same error (`Engine.collect_shared`).
-/

namespace SchemaCatalog

/-! ## Three engines -/

/-- The engines that are shown one catalog all come to its model, or to what is wrong with the first
of its tables that cannot be built. -/
theorem Engine.collect_shared {catalog : SharedCatalog} {σ₁ κ₁ σ₂ κ₂ σ₃ κ₃ : Type}
    (options₁ options₂ options₃ : ExtractOptions) {naming₁ naming₂ naming₃ : Naming}
    {source₁ : RowSource σ₁ κ₁} {source₂ : RowSource σ₂ κ₂} {source₃ : RowSource σ₃ κ₃}
    (hplain : options₁.concurrencyColumn = false) (hmain : Sqlite.includesMain options₃)
    (h₁ : InformationSchema.Presents Postgres.dialect Postgres.columnCells naming₁ options₁.schemas
      source₁ catalog)
    (h₂ : InformationSchema.Presents SqlServer.dialect SqlServer.columnCells naming₂
      options₂.schemas source₂ catalog)
    (h₃ : Sqlite.Presents naming₃ source₃ catalog) (s₁ : σ₁) (s₂ : σ₂) (s₃ : σ₃) :
    ((postgres.tables options₁ naming₁).collect source₁ s₁).1 =
        ((sqlServer.tables options₂ naming₂).collect source₂ s₂).1 ∧
      ((sqlServer.tables options₂ naming₂).collect source₂ s₂).1 =
        ((sqlite.tables options₃ naming₃).collect source₃ s₃).1 ∧
      ((sqlite.tables options₃ naming₃).collect source₃ s₃).1 = catalog.model := by
  have hpostgres := collect_of_presents (e := postgres) rfl (by simp [addedColumns, hplain])
    (fun _ _ _ hrow => Postgres.columnEntry_of_shows hrow) h₁ s₁
  have hsqlServer := collect_of_presents (e := sqlServer) rfl rfl
    (fun _ _ _ hrow => SqlServer.columnEntry_of_shows hrow) h₂ s₂
  have hsqlite : ((sqlite.tables options₃ naming₃).collect source₃ s₃).1 = catalog.model :=
    Sqlite.collect_of_presents hmain h₃ s₃
  rw [hpostgres, hsqlServer, hsqlite]
  exact ⟨rfl, rfl, rfl⟩

/-! ## One catalog, three sources -/

/-- A value that is what the cell says. -/
def Cell.value : Cell → Value
  | null => .null
  | text s => .string s
  | flag b => .bool b
  | number ns => .int64 (Int64.ofInt (ns.headD 0))

/-- The row with these cells and no others. -/
def Row.ofCells (cells : List (String × Cell)) : Row :=
  ⟨cells.map (·.1), cells.map (·.2.value)⟩

namespace RowSource

/-- A source that knows the answers to some statements. -/
def knowing (answers : Lookup Statement (List Row)) : RowSource Unit (List (Except Error Row)) where
  driverName := "script"
  start statement s :=
    match answers.find? statement with
    | some rows => (.ok (rows.map .ok), s)
    | none => (.error (.query "no answer"), s)
  answers := .ofList

theorem fetchAll_knowing {answers : Lookup Statement (List Row)} {statement : Statement}
    {rows : List Row} (h : (statement, rows) ∈ answers.entries) (s : Unit) :
    (knowing answers).fetchAll statement s = (.ok rows, s) := by
  simp only [fetchAll, knowing, Lookup.find?_eq_some_iff.2 h, ItemStream.collect_ofList,
    mapM_id_map_ok]

variable {β : Type} {answers : Lookup Statement (List Row)} {statement : Statement}
  {cells : β → List (String × Cell)} {data : List β}
  (h : (statement, data.map fun b => Row.ofCells (cells b)) ∈ answers.entries)
  (hrows : ∀ b ∈ data, (Row.ofCells (cells b)).Shows (cells b))

include h hrows

theorem lists_knowing : (knowing answers).Lists statement cells data := by
  intro s
  refine ⟨data.map fun b => Row.ofCells (cells b), ?_, ?_⟩
  · rw [fetchAll_knowing h]
  · rw [List.forall₂_map_left_iff]
    exact List.forall₂_same.2 hrows

theorem tells_knowing : (knowing answers).Tells statement cells data := by
  intro s
  obtain ⟨rows, hfetch, hshown⟩ := lists_knowing h hrows s
  exact ⟨rows, data, hfetch, .refl data, hshown⟩

end RowSource

namespace Engine

/-- Two tables, one of which has a key of two columns and refers to both. -/
def sample : SharedCatalog where
  tables := [
    { name := "b"
      columns := [{ name := "y", type := "varchar", length? := some 40 },
        { name := "x", type := "integer" }] },
    { name := "a"
      columns := [
        { name := "z", type := "numeric", generated := true },
        { name := "x", type := "integer", nullable := false },
        { name := "y", type := "varchar", length? := some 40, default? := some "'?'" }]
      key := ["y", "x"]
      references := [
        { constraint := "f", parent := "b", pairs := [⟨"x", "x"⟩, ⟨"y", "y"⟩] },
        { constraint := "g", parent := "a", pairs := [⟨"z", "x"⟩] }] }]

/-- The answers of an information schema about the sample. -/
def schemaAnswers (d : InformationSchema.Dialect) (naming : Naming)
    (columnCells : SharedTable × SharedColumn → List (String × Cell)) :
    List (Statement × List Row) := [
  (⟨d.tablesSql naming [], []⟩,
    sample.tables.map fun t => .ofCells (InformationSchema.tableCells t)),
  (⟨InformationSchema.primaryKeysSql, []⟩,
    sample.keyColumns.map fun k => .ofCells (InformationSchema.keyCells k)),
  (⟨InformationSchema.foreignKeysSql, []⟩,
    sample.pairs.map fun p => .ofCells (InformationSchema.referenceCells p)),
  (⟨d.columnsSql, []⟩, sample.columns.map fun c => .ofCells (columnCells c))]

theorem presents_sample {d : InformationSchema.Dialect} {naming : Naming}
    {columnCells : SharedTable × SharedColumn → List (String × Cell)}
    (hdistinct : ((schemaAnswers d naming columnCells).map (·.1)).Nodup)
    (hcolumns : ∀ c ∈ sample.columns, (Row.ofCells (columnCells c)).Shows (columnCells c)) :
    InformationSchema.Presents d columnCells naming []
      (.knowing ⟨schemaAnswers d naming columnCells, hdistinct⟩) sample where
  tables := RowSource.lists_knowing (by simp [schemaAnswers]) (by decide)
  primaryKeys := RowSource.tells_knowing (by simp [schemaAnswers]) (by decide)
  foreignKeys := RowSource.tells_knowing (by simp [schemaAnswers]) (by decide)
  columns := RowSource.tells_knowing (by simp [schemaAnswers]) hcolumns

def postgresAnswers : Lookup Statement (List Row) :=
  ⟨schemaAnswers Postgres.dialect .postgres Postgres.columnCells, by decide +kernel⟩

def sqlServerAnswers : Lookup Statement (List Row) :=
  ⟨schemaAnswers SqlServer.dialect .sqlServer SqlServer.columnCells, by decide +kernel⟩

/-- How SQLite numbers the constraints. -/
def constraintNumber (constraint : String) : Int :=
  if constraint = "f" then 1 else 0

/-- SQLite's answers about the sample. -/
def sqliteAnswers : Lookup Statement (List Row) where
  entries := (⟨Sqlite.tablesSql, []⟩,
      sample.tables.map fun t => .ofCells (Sqlite.listingCells t)) ::
    sample.tables.flatMap fun t => [
      (⟨Sqlite.columnsSql .sqlite, [.string t.name]⟩,
        t.columns.map fun c => .ofCells (Sqlite.columnCells t c)),
      (⟨Sqlite.foreignKeysSql .sqlite, [.string t.name]⟩,
        t.pairs.map fun p => .ofCells (Sqlite.referenceCells constraintNumber p))]
  distinct := by decide +kernel

theorem presents_sqlite_sample : Sqlite.Presents .sqlite (.knowing sqliteAnswers) sample where
  tables := RowSource.lists_knowing (.head _) (by decide)
  columns t ht := by
    refine RowSource.tells_knowing ?_ ?_
    · refine .tail _ (List.mem_flatMap.2 ⟨t, ht, by simp⟩)
    · revert t
      decide
  foreignKeys t ht := by
    refine ⟨constraintNumber, ?_, ?_⟩
    · revert t
      simp [sample, Set.InjOn, constraintNumber]
    · refine RowSource.tells_knowing ?_ ?_
      · refine .tail _ (List.mem_flatMap.2 ⟨t, ht, by simp⟩)
      · revert t
        decide

/-- What is seen of a table: the columns with their types, the key and the parents. -/
def outline (t : Table) : String × List (String × String) × List String × List String :=
  (t.name.name, t.columns.map fun c => (c.name, c.dataType), t.primaryKey.map (·.name),
    t.sortedForeignKeys.map (·.parent.name))

theorem exists_model_sample : ∃ ts, sample.model = .ok ts ∧ ts.map outline = [
    ("a", [("x", "INTEGER"), ("y", "VARCHAR(40)"), ("z", "NUMERIC")], ["y", "x"], ["b", "a"]),
    ("b", [("x", "INTEGER"), ("y", "VARCHAR(40)")], [], [])] := by
  refine map_ok_iff.1 ?_
  cbv

/-- The sample comes to the same two tables on all engines. -/
theorem collect_sample : ∃ ts,
    ((postgres.tables {} .postgres).collect (.knowing postgresAnswers) ()).1 = .ok ts ∧
    ((sqlServer.tables {} .sqlServer).collect (.knowing sqlServerAnswers) ()).1 = .ok ts ∧
    ((sqlite.tables {} .sqlite).collect (.knowing sqliteAnswers) ()).1 = .ok ts ∧
    ts.map outline = [
      ("a", [("x", "INTEGER"), ("y", "VARCHAR(40)"), ("z", "NUMERIC")], ["y", "x"], ["b", "a"]),
      ("b", [("x", "INTEGER"), ("y", "VARCHAR(40)")], [], [])] := by
  obtain ⟨ts, hmodel, hview⟩ := exists_model_sample
  obtain ⟨hpostgres, hsqlServer, hsqlite⟩ := collect_shared {} {} {} rfl rfl
    (presents_sample postgresAnswers.distinct (by decide))
    (presents_sample sqlServerAnswers.distinct (by decide)) presents_sqlite_sample () () ()
  have hok := hsqlite.trans hmodel
  exact ⟨ts, hpostgres.trans (hsqlServer.trans hok), hsqlServer.trans hok, hok, hview⟩

end Engine

end SchemaCatalog
