import SchemaCatalog.Assembly
import SchemaCatalog.Naming
import SchemaCatalog.Query
/-!
# The information schema

Engines with an information schema are read in four stages, each one statement: the tables, the
columns of the primary keys, the column pairs of the foreign keys, and the columns. The keys are
asked for in the same words everywhere. All four answers are gathered in a `Snapshot` before the
first table is assembled from it.
-/

namespace SchemaCatalog

/-- The lines of a statement. -/
def sqlText (lines : List String) : String :=
  "\n".intercalate lines

namespace InformationSchema

/-- Asks for the columns of all primary keys. -/
def primaryKeysSql : String := sqlText [
  "SELECT tc.TABLE_SCHEMA AS table_schema,",
  "       tc.TABLE_NAME AS table_name,",
  "       kcu.ORDINAL_POSITION AS ordinal_position,",
  "       kcu.COLUMN_NAME AS column_name",
  "FROM INFORMATION_SCHEMA.TABLE_CONSTRAINTS tc",
  "JOIN INFORMATION_SCHEMA.KEY_COLUMN_USAGE kcu",
  "  ON kcu.CONSTRAINT_CATALOG = tc.CONSTRAINT_CATALOG",
  " AND kcu.CONSTRAINT_SCHEMA = tc.CONSTRAINT_SCHEMA",
  " AND kcu.CONSTRAINT_NAME = tc.CONSTRAINT_NAME",
  " AND kcu.TABLE_SCHEMA = tc.TABLE_SCHEMA",
  " AND kcu.TABLE_NAME = tc.TABLE_NAME",
  "WHERE tc.CONSTRAINT_TYPE = 'PRIMARY KEY'"]

/-- Asks for the column pairs of all foreign keys. A pair is two columns at the same position, one
in the foreign key and one in the key that it refers to. The names of constraints may repeat in
other tables, so the table is compared as well. -/
def foreignKeysSql : String := sqlText [
  "SELECT tc.CONSTRAINT_NAME AS constraint_name,",
  "       fk.ORDINAL_POSITION AS ordinal_position,",
  "       fk.TABLE_SCHEMA AS foreign_schema,",
  "       fk.TABLE_NAME AS foreign_table,",
  "       fk.COLUMN_NAME AS foreign_column,",
  "       pk.TABLE_SCHEMA AS primary_schema,",
  "       pk.TABLE_NAME AS primary_table,",
  "       pk.COLUMN_NAME AS primary_column",
  "FROM INFORMATION_SCHEMA.TABLE_CONSTRAINTS tc",
  "JOIN INFORMATION_SCHEMA.REFERENTIAL_CONSTRAINTS rc",
  "  ON rc.CONSTRAINT_CATALOG = tc.CONSTRAINT_CATALOG",
  " AND rc.CONSTRAINT_SCHEMA = tc.CONSTRAINT_SCHEMA",
  " AND rc.CONSTRAINT_NAME = tc.CONSTRAINT_NAME",
  "JOIN INFORMATION_SCHEMA.KEY_COLUMN_USAGE fk",
  "  ON fk.CONSTRAINT_CATALOG = tc.CONSTRAINT_CATALOG",
  " AND fk.CONSTRAINT_SCHEMA = tc.CONSTRAINT_SCHEMA",
  " AND fk.CONSTRAINT_NAME = tc.CONSTRAINT_NAME",
  " AND fk.TABLE_SCHEMA = tc.TABLE_SCHEMA",
  " AND fk.TABLE_NAME = tc.TABLE_NAME",
  "JOIN INFORMATION_SCHEMA.KEY_COLUMN_USAGE pk",
  "  ON pk.CONSTRAINT_CATALOG = rc.UNIQUE_CONSTRAINT_CATALOG",
  " AND pk.CONSTRAINT_SCHEMA = rc.UNIQUE_CONSTRAINT_SCHEMA",
  " AND pk.CONSTRAINT_NAME = rc.UNIQUE_CONSTRAINT_NAME",
  " AND pk.ORDINAL_POSITION = fk.ORDINAL_POSITION",
  "WHERE tc.CONSTRAINT_TYPE = 'FOREIGN KEY'"]

/-- A row about a column of a primary key: the table, the column and its position. -/
def primaryKeyEntry (row : Row) : Except Error (TableName × String × UInt64) := do
  let schema ← row.string "primary_keys" "table_schema"
  let name ← row.string "primary_keys" "table_name"
  let ordinal ← row.ordinal "primary_keys" "ordinal_position"
  let column ← row.string "primary_keys" "column_name"
  pure (⟨schema, name⟩, column, ordinal)

/-- A row about a column pair of a foreign key: the table and the pair. -/
def foreignKeyEntry (row : Row) : Except Error (TableName × ReferenceRow) := do
  let constraint ← row.string "foreign_keys" "constraint_name"
  let ordinal ← row.ordinal "foreign_keys" "ordinal_position"
  let foreignColumn ← row.string "foreign_keys" "foreign_column"
  let parentSchema ← row.string "foreign_keys" "primary_schema"
  let parentName ← row.string "foreign_keys" "primary_table"
  let primaryColumn ← row.string "foreign_keys" "primary_column"
  let schema ← row.string "foreign_keys" "foreign_schema"
  let name ← row.string "foreign_keys" "foreign_table"
  pure (⟨schema, name⟩, ⟨constraint, ordinal, foreignColumn, ⟨parentSchema, parentName⟩, primaryColumn⟩)

/-- A row about a table. The statement is named in errors. -/
def tableEntry (query : String) (row : Row) : Except Error TableName := do
  let schema ← row.string query "table_schema"
  let name ← row.string query "table_name"
  pure ⟨schema, name⟩

/-- The primary keys by table. A column that is reported again gets the later position. -/
abbrev PrimaryKeys := Lookup TableName KeyOrdinals

/-- Values by table, in the order in which they were reported. -/
abbrev ByTable (α : Type) := Lookup TableName (List α)

/-- Adds one more column to the key of a table. -/
def addKeyColumn (keys : PrimaryKeys) : TableName × String × UInt64 → PrimaryKeys
  | (table, column, ordinal) =>
    keys.alter table fun key? => (key?.getD Lookup.empty).insert column ordinal

/-- Adds one more value to those of a table. -/
def addTo {α : Type} (values : ByTable α) : TableName × α → ByTable α
  | (table, a) => values.alter table fun old? => old?.getD [] ++ [a]

/-- The primary keys that the rows report. -/
def primaryKeys (rows : List Row) : Except Error PrimaryKeys := do
  let entries ← rows.mapM primaryKeyEntry
  pure (entries.foldl addKeyColumn Lookup.empty)

/-- The pairs of the foreign keys that the rows report. -/
def foreignKeys (rows : List Row) : Except Error (ByTable ReferenceRow) := do
  let entries ← rows.mapM foreignKeyEntry
  pure (entries.foldl addTo Lookup.empty)

/-- The columns that the rows report, each read by the given rule. -/
def columnsBy (entry : Row → Except Error (TableName × Column)) (rows : List Row) :
    Except Error (ByTable Column) := do
  let entries ← rows.mapM entry
  pure (entries.foldl addTo Lookup.empty)

/-- Asks for the primary keys. -/
def loadPrimaryKeys : Query PrimaryKeys := do
  Query.ofExcept (primaryKeys (← Query.rows ⟨primaryKeysSql, []⟩))

/-- Asks for the foreign keys. -/
def loadForeignKeys : Query (ByTable ReferenceRow) := do
  Query.ofExcept (foreignKeys (← Query.rows ⟨foreignKeysSql, []⟩))

/-- All that an engine reports. -/
structure Snapshot where
  /-- The tables in the order of their listing. -/
  tables : List TableName
  columns : ByTable Column
  primaryKeys : PrimaryKeys
  foreignKeys : ByTable ReferenceRow

namespace Snapshot

/-- The tables of a list, each assembled from its columns, to which `decorate` may add. The columns
of a table are used up, so a table that is listed again has none. -/
def assembleFrom (decorate : List Column → List Column) (primaryKeys : PrimaryKeys)
    (foreignKeys : ByTable ReferenceRow) :
    List TableName → ByTable Column → List (Except Error Table)
  | [], _ => []
  | name :: rest, columns =>
    let own := (columns.find? name).getD []
    Table.assemble name (if own.isEmpty then own else decorate own)
        ((primaryKeys.find? name).getD Lookup.empty) ((foreignKeys.find? name).getD []) ::
      assembleFrom decorate primaryKeys foreignKeys rest (columns.erase name)

/-- The listed tables, one after the other. -/
def assemble (decorate : List Column → List Column) (s : Snapshot) : List (Except Error Table) :=
  assembleFrom decorate s.primaryKeys s.foreignKeys s.tables s.columns

end Snapshot

/-- How an engine words the statements for tables and columns, and reads the rows. -/
structure Dialect where
  /-- The name of the table listing in errors. -/
  listing : String
  /-- Lists the tables of the schemas, all of them if there are none given. -/
  tablesSql : Naming → List String → String
  columnsSql : String
  columnEntry : Row → Except Error (TableName × Column)

namespace Dialect

/-- Asks for all that the engine reports about the tables of the schemas. -/
def snapshot (d : Dialect) (naming : Naming) (schemas : List String) : Query Snapshot := do
  let listed ← Query.rows ⟨d.tablesSql naming schemas, schemas.map .string⟩
  let tables ← Query.ofExcept (listed.mapM (tableEntry d.listing))
  let primaryKeys ← loadPrimaryKeys
  let foreignKeys ← loadForeignKeys
  let columnRows ← Query.rows ⟨d.columnsSql, []⟩
  let columns ← Query.ofExcept (columnsBy d.columnEntry columnRows)
  pure ⟨tables, columns, primaryKeys, foreignKeys⟩

/-- The condition of a table listing that the schema is one of those given. -/
def schemaFilter (column : String) (naming : Naming) (schemas : List String) : List String :=
  if schemas.isEmpty then []
  else [s!"  AND {column} IN ({naming.placeholders 0 (UInt64.ofNat schemas.length)})"]

end Dialect

end InformationSchema

end SchemaCatalog
