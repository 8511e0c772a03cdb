import Mathlib
import SchemaCatalog.Proofs.SharedCatalog
import SchemaCatalog.Proofs.ShownRows
/-!
# A shared catalog in an information schema

How PostgreSQL and SQL Server tell a shared catalog: in four answers, with the rows of all tables
mixed in any order. What is collected from them is the catalog's model
(`Engine.collect_of_presents`).
-/

namespace SchemaCatalog

/-! ## Rows -/

namespace InformationSchema

/-- A row about a table. -/
def tableCells (t : SharedTable) : List (String × Cell) := [
  ("table_schema", .text Sqlite.mainSchema), ("table_name", .text t.name)]

/-- A row about a column of a key. Places are counted from one. -/
def keyCells : SharedTable × String × Nat → List (String × Cell)
  | (t, column, i) => [
    ("table_schema", .text Sqlite.mainSchema), ("table_name", .text t.name),
    ("ordinal_position", .number [i + 1]), ("column_name", .text column)]

/-- A row about a pair of a foreign key. -/
def referenceCells : SharedTable × SharedReference × ColumnPair × Nat → List (String × Cell)
  | (t, r, pair, i) => [
    ("constraint_name", .text r.constraint), ("ordinal_position", .number [i + 1]),
    ("foreign_schema", .text Sqlite.mainSchema), ("foreign_table", .text t.name),
    ("foreign_column", .text pair.foreign), ("primary_schema", .text Sqlite.mainSchema),
    ("primary_table", .text r.parent), ("primary_column", .text pair.primary)]

/-- The source answers the four statements with the catalog. -/
structure Presents {σ κ : Type} (d : Dialect)
    (columnCells : SharedTable × SharedColumn → List (String × Cell)) (naming : Naming)
    (schemas : List String) (source : RowSource σ κ) (catalog : SharedCatalog) : Prop where
  tables : source.Lists ⟨d.tablesSql naming schemas, schemas.map .string⟩ tableCells catalog.tables
  primaryKeys : source.Tells ⟨primaryKeysSql, []⟩ keyCells catalog.keyColumns
  foreignKeys : source.Tells ⟨foreignKeysSql, []⟩ referenceCells catalog.pairs
  columns : source.Tells ⟨d.columnsSql, []⟩ columnCells catalog.columns

end InformationSchema

/-- A row about a column as PostgreSQL reports it. -/
def Postgres.columnCells : SharedTable × SharedColumn → List (String × Cell)
  | (t, c) => [
    ("table_schema", .text Sqlite.mainSchema), ("table_name", .text t.name),
    ("column_name", .text c.name), ("udt_name", .text c.type),
    ("character_maximum_length", .ofNumber? c.length?), ("nullable", .flag c.nullable),
    ("column_default", .ofText? c.default?), ("is_generated", .flag c.generated),
    ("is_identity", .flag false)]

/-- A row about a column as SQL Server reports it. -/
def SqlServer.columnCells : SharedTable × SharedColumn → List (String × SchemaCatalog.Cell)
  | (t, c) => [
    ("table_schema", .text Sqlite.mainSchema), ("table_name", .text t.name),
    ("column_name", .text c.name), ("data_type", .text c.type),
    ("character_maximum_length", .ofNumber? c.length?), ("nullable", .flag c.nullable),
    ("column_default", .ofText? c.default?), ("is_identity", .flag false),
    ("is_computed", .flag c.generated)]

/-! ## Reading -/

section Rows
variable {row : Row}

theorem InformationSchema.tableEntry_of_shows {t : SharedTable} (h : row.Shows (tableCells t))
    (query : String) : tableEntry query row = .ok t.fullName := by
  have hschema : row.string query "table_schema" = .ok Sqlite.mainSchema :=
    h.string query (by simp [tableCells])
  have hname : row.string query "table_name" = .ok t.name := h.string query (by simp [tableCells])
  rw [tableEntry, hschema, hname]
  rfl

theorem InformationSchema.primaryKeyEntry_of_shows {t : SharedTable} {column : String} {i : Nat}
    (h : row.Shows (keyCells (t, column, i))) :
    primaryKeyEntry row = .ok (t.fullName, column, UInt64.ofNat i) := by
  have hschema : row.string "primary_keys" "table_schema" = .ok Sqlite.mainSchema :=
    h.string _ (by simp [keyCells])
  have hname : row.string "primary_keys" "table_name" = .ok t.name :=
    h.string _ (by simp [keyCells])
  have hordinal : row.ordinal "primary_keys" "ordinal_position" = .ok (UInt64.ofNat i) :=
    h.ordinal _ (by simp [keyCells])
  have hcolumn : row.string "primary_keys" "column_name" = .ok column :=
    h.string _ (by simp [keyCells])
  rw [primaryKeyEntry, hschema, hname, hordinal, hcolumn]
  rfl

theorem InformationSchema.foreignKeyEntry_of_shows {t : SharedTable} {r : SharedReference}
    {pair : ColumnPair} {i : Nat} (h : row.Shows (referenceCells (t, r, pair, i))) :
    foreignKeyEntry row = .ok (t.fullName, r.row id (pair, i)) := by
  have hconstraint : row.string "foreign_keys" "constraint_name" = .ok r.constraint :=
    h.string _ (by simp [referenceCells])
  have hordinal : row.ordinal "foreign_keys" "ordinal_position" = .ok (UInt64.ofNat i) :=
    h.ordinal _ (by simp [referenceCells])
  have hforeign : row.string "foreign_keys" "foreign_column" = .ok pair.foreign :=
    h.string _ (by simp [referenceCells])
  have hparentSchema : row.string "foreign_keys" "primary_schema" = .ok Sqlite.mainSchema :=
    h.string _ (by simp [referenceCells])
  have hparent : row.string "foreign_keys" "primary_table" = .ok r.parent :=
    h.string _ (by simp [referenceCells])
  have hprimary : row.string "foreign_keys" "primary_column" = .ok pair.primary :=
    h.string _ (by simp [referenceCells])
  have hschema : row.string "foreign_keys" "foreign_schema" = .ok Sqlite.mainSchema :=
    h.string _ (by simp [referenceCells])
  have hname : row.string "foreign_keys" "foreign_table" = .ok t.name :=
    h.string _ (by simp [referenceCells])
  rw [foreignKeyEntry, hconstraint, hordinal, hforeign, hparentSchema, hparent, hprimary, hschema,
    hname]
  rfl

theorem Postgres.columnEntry_of_shows {t : SharedTable} {c : SharedColumn}
    (h : row.Shows (columnCells (t, c))) : columnEntry row = .ok (t.fullName, c.column) := by
  have hschema : row.string "columns" "table_schema" = .ok Sqlite.mainSchema :=
    h.string _ (by simp [columnCells])
  have htable : row.string "columns" "table_name" = .ok t.name :=
    h.string _ (by simp [columnCells])
  have htype : row.string "columns" "udt_name" = .ok c.type := h.string _ (by simp [columnCells])
  have hlength : row.int? "columns" "character_maximum_length" = .ok c.length? :=
    h.int? _ (by simp [columnCells])
  have hnullable : row.flag "columns" "nullable" = .ok c.nullable :=
    h.flag _ (by simp [columnCells])
  have hdefault : row.string? "columns" "column_default" = .ok c.default? :=
    h.string? _ (by simp [columnCells])
  have hgenerated : row.flag "columns" "is_generated" = .ok c.generated :=
    h.flag _ (by simp [columnCells])
  have hidentity : row.flag "columns" "is_identity" = .ok false :=
    h.flag _ (by simp [columnCells])
  have hname : row.string "columns" "column_name" = .ok c.name :=
    h.string _ (by simp [columnCells])
  rw [columnEntry, hschema, htable, htype, hlength, hnullable, hdefault, hgenerated, hidentity,
    hname]
  rfl

theorem SqlServer.columnEntry_of_shows {t : SharedTable} {c : SharedColumn}
    (h : row.Shows (columnCells (t, c))) : columnEntry row = .ok (t.fullName, c.column) := by
  have hschema : row.string "columns" "table_schema" = .ok Sqlite.mainSchema :=
    h.string _ (by simp [columnCells])
  have htable : row.string "columns" "table_name" = .ok t.name :=
    h.string _ (by simp [columnCells])
  have htype : row.string "columns" "data_type" = .ok c.type := h.string _ (by simp [columnCells])
  have hnullable : row.flag "columns" "nullable" = .ok c.nullable :=
    h.flag _ (by simp [columnCells])
  have hdefault : row.string? "columns" "column_default" = .ok c.default? :=
    h.string? _ (by simp [columnCells])
  have hidentity : row.flag "columns" "is_identity" = .ok false :=
    h.flag _ (by simp [columnCells])
  have hcomputed : row.flag "columns" "is_computed" = .ok c.generated :=
    h.flag _ (by simp [columnCells])
  have hname : row.string "columns" "column_name" = .ok c.name :=
    h.string _ (by simp [columnCells])
  have hlength : row.int? "columns" "character_maximum_length" = .ok c.length? :=
    h.int? _ (by simp [columnCells])
  rw [columnEntry, hschema, htable, htype, hnullable, hdefault, hidentity, hcomputed, hname, hlength]
  simp only [bind, Except.bind, pure, Except.pure, c.not_token, Bool.or_false]
  rfl

end Rows

/-! ## The model -/

theorem SharedCatalog.fullNames_nodup (catalog : SharedCatalog) :
    (catalog.tables.map (·.fullName)).Nodup := by
  have h := catalog.names_nodup.map (f := TableName.mk Sqlite.mainSchema) fun _ _ h =>
    congrArg TableName.name h
  rwa [List.map_map] at h

namespace InformationSchema

/-- What there is to read of the catalog. -/
def Answers.ofCatalog (catalog : SharedCatalog) : Answers where
  tables := catalog.tables.map (·.fullName)
  primaryKeys := catalog.tables.flatMap fun t => t.keyEntries.map (t.fullName, ·)
  foreignKeys := catalog.tables.flatMap fun t => (t.referenceRows id).map (t.fullName, ·)
  columns := catalog.tables.flatMap fun t => t.columns.map fun c => (t.fullName, c.column)

/-- Of the rows of all tables those under the name of one are its own. -/
theorem rowsOf_flatMap {α : Type} (catalog : SharedCatalog) (own : SharedTable → List α)
    {t : SharedTable} (ht : t ∈ catalog.tables) :
    rowsOf t.fullName (catalog.tables.flatMap fun t => (own t).map (t.fullName, ·)) = own t := by
  have hown : (catalog.tables.flatMap fun t => (own t).map (t.fullName, ·)).filter
      (fun r => r.1 = t.fullName) = (own t).map (t.fullName, ·) := by
    refine filter_flatMap_of_nodup SharedTable.fullName Prod.fst (fun u _ r hr => ?_)
      catalog.fullNames_nodup ht
    obtain ⟨_, -, rfl⟩ := List.mem_map.1 hr
    rfl
  rw [rowsOf, hown, List.map_map]
  exact List.map_id _

section Catalog
variable {catalog : SharedCatalog} {a : Answers}

/-- From the answers, in any order, every table comes out as in the model. -/
theorem Answers.table_eq_build (h : a.Rearranged (.ofCatalog catalog)) {t : SharedTable}
    (ht : t ∈ catalog.tables) : (a.about t.fullName).table [] t.fullName = t.build := by
  have hcolumns : (rowsOf t.fullName a.columns).Perm (t.columns.map (·.column)) := by
    rw [← rowsOf_flatMap catalog (fun t => t.columns.map (·.column)) ht]
    refine (rowsOf_perm h.columns _).trans (.of_eq ?_)
    simp [ofCatalog, Function.comp_def]
  have hkey : (rowsOf t.fullName a.primaryKeys).Perm t.keyEntries := by
    rw [← rowsOf_flatMap catalog SharedTable.keyEntries ht]
    exact rowsOf_perm h.primaryKeys _
  have hreferences : (rowsOf t.fullName a.foreignKeys).Perm (t.referenceRows id) := by
    rw [← rowsOf_flatMap catalog (SharedTable.referenceRows id) ht]
    exact rowsOf_perm h.foreignKeys _
  have hdistinct : ((rowsOf t.fullName a.primaryKeys).map (·.1)).Nodup := by
    rw [(hkey.map _).nodup_iff, t.keyEntries_names]
    exact t.key_nodup
  have hplaces : ∀ column,
      (Lookup.ofList (rowsOf t.fullName a.primaryKeys)).find? column = t.ordinal? column := by
    intro column
    refine Option.ext fun ordinal => ?_
    rw [Lookup.find?_ofList_of_nodup hdistinct, hkey.mem_iff, SharedTable.ordinal?_eq_some_iff]
  rw [Description.table, ite_self, List.append_nil]
  exact t.assemble_eq_build id hcolumns hplaces (fun _ _ _ _ h => h) hreferences

/-- The tables that are collected from the answers are the model. -/
theorem Answers.collected_eq_model (h : a.Rearranged (.ofCatalog catalog))
    (htables : a.tables = catalog.tables.map (·.fullName)) : a.collected [] = catalog.model := by
  have hlisted : a.tables.Nodup := htables ▸ catalog.fullNames_nodup
  -- the order of the listing decides which error comes first, so it has to be that of the catalog
  rw [collected_of_nodup [] hlisted, htables, List.mapM_map, SharedCatalog.model]
  congr 1
  exact mapM_congr fun t ht => table_eq_build h ht

end Catalog

/-- A source that presents the catalog reports all there is to read of it. -/
theorem Presents.reports {σ κ : Type} {d : Dialect} {naming : Naming} {schemas : List String}
    {columnCells : SharedTable × SharedColumn → List (String × Cell)} {source : RowSource σ κ}
    {catalog : SharedCatalog} (h : Presents d columnCells naming schemas source catalog)
    (hcolumn : ∀ t c (row : Row), row.Shows (columnCells (t, c)) →
      d.columnEntry row = .ok (t.fullName, c.column)) (s : σ) :
    ∃ s' a, d.Reports naming schemas source s s' a ∧ a.Rearranged (.ofCatalog catalog) ∧
      a.tables = catalog.tables.map (·.fullName) := by
  obtain ⟨s₁, htables⟩ := h.tables.reads (·.fullName)
    (fun t _ row hrow => tableEntry_of_shows hrow d.listing) s
  obtain ⟨s₂, keys, hkeys, pkeys⟩ := h.primaryKeys.reads
    (fun (t, column, i) => (t.fullName, column, UInt64.ofNat i))
    (fun _ _ row hrow => primaryKeyEntry_of_shows hrow) s₁
  obtain ⟨s₃, references, hreferences, preferences⟩ := h.foreignKeys.reads
    (fun (t, r, pair) => (t.fullName, r.row id pair))
    (fun _ _ row hrow => foreignKeyEntry_of_shows hrow) s₂
  obtain ⟨s', columns, hcolumns, pcolumns⟩ := h.columns.reads
    (fun (t, c) => (t.fullName, c.column)) (fun (t, c) _ row hrow => hcolumn t c row hrow) s₃
  refine ⟨s', ⟨_, keys, references, columns⟩, ⟨s₁, s₂, s₃, htables, hkeys, hreferences, hcolumns⟩,
    ⟨.refl _, ?_, ?_, ?_⟩, rfl⟩
  · refine pkeys.trans (.of_eq ?_)
    simp [Answers.ofCatalog, SharedCatalog.keyColumns, SharedTable.keyEntries, List.map_flatMap,
      Function.comp_def]
  · refine preferences.trans (.of_eq ?_)
    simp [Answers.ofCatalog, SharedCatalog.pairs, SharedTable.pairs, SharedTable.referenceRows,
      SharedReference.rows, List.map_flatMap, Function.comp_def]
  · refine pcolumns.trans (.of_eq ?_)
    simp [Answers.ofCatalog, SharedCatalog.columns, List.map_flatMap, Function.comp_def]

end InformationSchema

theorem Engine.collect_of_presents {σ κ : Type} {e : Engine} {d : InformationSchema.Dialect}
    {options : ExtractOptions} {naming : Naming} {source : RowSource σ κ} {catalog : SharedCatalog}
    {columnCells : SharedTable × SharedColumn → List (String × Cell)}
    (hd : e.dialect? = some d) (hadded : e.addedColumns options = [])
    (hcolumn : ∀ t c (row : Row), row.Shows (columnCells (t, c)) →
      d.columnEntry row = .ok (t.fullName, c.column))
    (h : InformationSchema.Presents d columnCells naming options.schemas source catalog) (s : σ) :
    ((e.tables options naming).collect source s).1 = catalog.model := by
  obtain ⟨s', a, ha, hrearranged, htables⟩ := h.reports hcolumn s
  rw [collect_of_reports hd ha, hadded, InformationSchema.Answers.collected_eq_model hrearranged htables]

end SchemaCatalog
