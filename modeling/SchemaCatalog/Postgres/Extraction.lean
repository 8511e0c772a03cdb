import SchemaCatalog.InformationSchema
import SchemaCatalog.Settings
import SchemaCatalog.TableStream
/-!
# Tables of PostgreSQL

The tables come from the information schema. On demand each of them gets the system column `xmin`,
which changes with every write to a row and so serves as a concurrency token.
-/

namespace SchemaCatalog.Postgres

/-- The conditions on a schema that leave out those of the system. -/
def userSchemas (column : String) : List String := [
  s!"  AND {column} NOT IN ('pg_catalog', 'information_schema')",
  s!"  AND {column} NOT LIKE 'pg\\_toast%'",
  s!"  AND {column} NOT LIKE 'pg\\_temp\\_%'"]

/-- Lists the tables. -/
def tablesSql (naming : Naming) (schemas : List String) : String :=
  sqlText <|
    ["SELECT t.table_schema, t.table_name",
      "FROM information_schema.tables t",
      "WHERE t.table_type = 'BASE TABLE'"] ++
    userSchemas "t.table_schema" ++
    InformationSchema.Dialect.schemaFilter "t.table_schema::text" naming schemas ++
    ["ORDER BY t.table_schema, t.table_name"]

/-- Lists the columns of all tables. -/
def columnsSql : String :=
  sqlText <|
    ["SELECT c.table_schema,",
      "       c.table_name,",
      "       c.column_name,",
      "       c.udt_name,",
      "       c.character_maximum_length,",
      "       c.is_nullable = 'YES' AS nullable,",
      "       c.column_default,",
      "       c.is_generated = 'ALWAYS' AS is_generated,",
      "       pg_get_serial_sequence(",
      "           quote_ident(c.table_schema::text) || '.' || quote_ident(c.table_name::text),",
      "           c.column_name::text",
      "       ) IS NOT NULL AS is_identity",
      "FROM information_schema.columns c",
      "JOIN information_schema.tables t",
      "  ON t.table_schema = c.table_schema",
      " AND t.table_name = c.table_name",
      "WHERE t.table_type = 'BASE TABLE'"] ++
    userSchemas "c.table_schema" ++
    ["ORDER BY c.table_schema, c.table_name, c.ordinal_position"]

/-- A row about a column. -/
def columnEntry (row : Row) : Except Error (TableName × Column) := do
  let schema ← row.string "columns" "table_schema"
  let table ← row.string "columns" "table_name"
  let type ← row.string "columns" "udt_name"
  let length? ← row.int? "columns" "character_maximum_length"
  let nullable ← row.flag "columns" "nullable"
  let default? ← row.string? "columns" "column_default"
  let isComputed ← row.flag "columns" "is_generated"
  let isIdentity ← row.flag "columns" "is_identity"
  let name ← row.string "columns" "column_name"
  pure (⟨schema, table⟩,
    { name, dataType := typeName type length?, nullable, default?, isComputed, isIdentity })

/-- PostgreSQL's words. -/
def dialect : InformationSchema.Dialect :=
  ⟨"tables", tablesSql, columnsSql, columnEntry⟩

/-- The version of a row, which every write changes. -/
def xminColumn : Column where
  name := "xmin"
  dataType := "XID"
  nullable := false
  isComputed := true
  isConcurrencyToken := true

/-- The columns of a table as the options ask for them. -/
def decorate (options : ExtractOptions) (columns : List Column) : List Column :=
  if options.concurrencyColumn then columns ++ [xminColumn] else columns

/-- The tables that the options ask for. -/
def tables (options : ExtractOptions) (naming : Naming) : TableStream := do
  let snapshot ← dialect.snapshot naming options.schemas
  pure ((snapshot.assemble (decorate options)).map Query.ofExcept)

end SchemaCatalog.Postgres
