import SchemaCatalog.InformationSchema
import SchemaCatalog.Settings
import SchemaCatalog.TableStream
/-!
# Tables of SQL Server

The tables come from the system's own listing, all else from the information schema. A column of a
row version type is a concurrency token.
-/

namespace SchemaCatalog.SqlServer

/-- The types whose values the engine renews at every write. -/
def tokenTypes : List String := ["timestamp", "rowversion"]

/-- The type is one of those, in any case of its letters. -/
def isTokenType (type : String) : Bool :=
  tokenTypes.any fun t => Text.eqIgnoringCase t.toList (Text.trimBlanks type.toList)

/-- Lists the tables. -/
def tablesSql (naming : Naming) (schemas : List String) : String :=
  sqlText <|
    ["SELECT s.name AS table_schema, t.name AS table_name",
      "FROM sys.tables t",
      "JOIN sys.schemas s ON s.schema_id = t.schema_id",
      "WHERE t.is_ms_shipped = 0"] ++
    InformationSchema.Dialect.schemaFilter "s.name" naming schemas ++
    ["ORDER BY s.name, t.name"]

/-- Lists the columns of all tables. -/
def columnsSql : String := sqlText [
  "SELECT c.TABLE_SCHEMA AS table_schema,",
  "       c.TABLE_NAME AS table_name,",
  "       c.COLUMN_NAME AS column_name,",
  "       c.DATA_TYPE AS data_type,",
  "       c.CHARACTER_MAXIMUM_LENGTH AS character_maximum_length,",
  "       CAST(CASE WHEN c.IS_NULLABLE = 'YES' THEN 1 ELSE 0 END AS bit) AS nullable,",
  "       c.COLUMN_DEFAULT AS column_default,",
  "       CAST(COALESCE(COLUMNPROPERTY(OBJECT_ID(QUOTENAME(c.TABLE_SCHEMA) + '.' + QUOTENAME(c.TABLE_NAME)),",
  "                                    c.COLUMN_NAME, 'IsIdentity'), 0) AS bit) AS is_identity,",
  "       CAST(COALESCE(COLUMNPROPERTY(OBJECT_ID(QUOTENAME(c.TABLE_SCHEMA) + '.' + QUOTENAME(c.TABLE_NAME)),",
  "                                    c.COLUMN_NAME, 'IsComputed'), 0) AS bit) AS is_computed",
  "FROM INFORMATION_SCHEMA.COLUMNS c",
  "ORDER BY c.TABLE_SCHEMA, c.TABLE_NAME, c.ORDINAL_POSITION"]

/-- A row about a column. -/
def columnEntry (row : Row) : Except Error (TableName × Column) := do
  let schema ← row.string "columns" "table_schema"
  let table ← row.string "columns" "table_name"
  let type ← row.string "columns" "data_type"
  let nullable ← row.flag "columns" "nullable"
  let default? ← row.string? "columns" "column_default"
  let isIdentity ← row.flag "columns" "is_identity"
  let computed ← row.flag "columns" "is_computed"
  let name ← row.string "columns" "column_name"
  let length? ← row.int? "columns" "character_maximum_length"
  let isConcurrencyToken := isTokenType type
  pure (⟨schema, table⟩, {
    name, dataType := typeName type length?, nullable, default?, isIdentity, isConcurrencyToken
    isComputed := computed || isConcurrencyToken })

/-- SQL Server's words. -/
def dialect : InformationSchema.Dialect :=
  ⟨"sys.tables", tablesSql, columnsSql, columnEntry⟩

/-- The tables that the options ask for. -/
def tables (options : ExtractOptions) (naming : Naming) : TableStream := do
  let snapshot ← dialect.snapshot naming options.schemas
  pure ((snapshot.assemble id).map Query.ofExcept)

end SchemaCatalog.SqlServer
