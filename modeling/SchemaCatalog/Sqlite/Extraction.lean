import SchemaCatalog.Assembly
import SchemaCatalog.InformationSchema
import SchemaCatalog.Settings
import SchemaCatalog.Sqlite.GeneratedColumn
import SchemaCatalog.TableStream
import SchemaCatalog.Text.Word
/-!
# Tables of SQLite

SQLite lists its tables in `sqlite_master` and describes each of them on request: its columns, and
the column pairs of its foreign keys. A pair may leave out the parent's column; the column meant is
then the one at the same position of the parent's primary key, for which the parent is asked.
-/

namespace SchemaCatalog.Sqlite

/-- The schema of all tables. -/
def mainSchema : String := "main"

/-- Lists the tables; names that begin with the engine's own word are left out. -/
def tablesSql : String := sqlText [
  "SELECT name, sql",
  "FROM sqlite_master",
  "WHERE type = 'table' AND name NOT LIKE 'sqlite\\_%' ESCAPE '\\'",
  "ORDER BY name"]

/-- Lists the columns of one table. -/
def columnsSql (naming : Naming) : String :=
  "SELECT cid, name, type, \"notnull\" AS not_null, dflt_value, pk, hidden FROM pragma_table_xinfo(" ++
    naming.token 0 ++ ") ORDER BY cid"

/-- Lists the column pairs of the foreign keys of one table. -/
def foreignKeysSql (naming : Naming) : String :=
  "SELECT id, seq, \"table\" AS parent_table, \"from\" AS from_column, \"to\" AS to_column FROM pragma_foreign_key_list(" ++
    naming.token 0 ++ ") ORDER BY id, seq"

/-- The statement that made the table asks for keys that are filled in by counting. -/
def declaresAutoincrement (ddl? : Option String) : Bool :=
  match ddl? with
  | some ddl => Text.standsAlone "AUTOINCREMENT" ddl
  | none => false

/-- The tables of the main schema are wanted. -/
def includesMain (options : ExtractOptions) : Bool :=
  options.schemas.isEmpty || options.schemas.contains mainSchema

/-- A table as it is listed: its name and the statement that made it. -/
structure Listed where
  name : String
  ddl? : Option String

/-- A row about a table. -/
def tableEntry (row : Row) : Except Error Listed := do
  let name ← row.string "sqlite_master" "name"
  let ddl? ← row.string? "sqlite_master" "sql"
  pure ⟨name, ddl?⟩

/-- A row about a column: the column and its position in the primary key. Columns that belong to the
inner works of a virtual table are passed over. -/
def columnOf? (table : TableName) (autoincrement : Bool) (row : Row) :
    Except Error (Option (Column × Option UInt64)) := do
  let hidden ← row.int "pragma_table_xinfo" "hidden"
  if hidden = 1 then return none
  let name ← row.string "pragma_table_xinfo" "name"
  let declared ← row.string "pragma_table_xinfo" "type"
  let (dataType, isComputed) ← classifyColumn table name declared hidden
  let position ← row.int "pragma_table_xinfo" "pk"
  let notNull ← row.int "pragma_table_xinfo" "not_null"
  let default? ← row.string? "pragma_table_xinfo" "dflt_value"
  let inKey := position > 0
  pure (some (
    { name, dataType, default?, isComputed
      nullable := notNull = 0
      isIdentity := inKey && autoincrement },
    if inKey then some (position - 1).toUInt64 else none))

/-- The position of a column in the primary key, entered under its name. -/
def addKeyColumn (key : KeyOrdinals) : Column × Option UInt64 → KeyOrdinals
  | (column, some ordinal) => key.insert column.name ordinal
  | (_, none) => key

/-- A row about a key column of a parent: its position and name, if it is one. -/
def keyColumnOf? (row : Row) : Except Error (Option (Int64 × String)) := do
  let position ← row.int "pragma_table_xinfo" "pk"
  if position > 0 then
    let name ← row.string "pragma_table_xinfo" "name"
    pure (some (position, name))
  else pure none

/-- Key columns are ordered by position, then by name. -/
def keyColumnLE (a b : Int64 × String) : Bool :=
  a.1 < b.1 || (a.1 = b.1 && a.2 ≤ b.2)

/-- The columns of the primary key that the rows about a parent's columns report, in key order. -/
def keyColumns (rows : List Row) : Except Error (List (Int64 × String)) := do
  let found ← rows.mapM keyColumnOf?
  pure ((found.filterMap id).mergeSort keyColumnLE)

/-- The column of the parent's key at the given position, which counts from zero. -/
def implicitParentColumn (naming : Naming) (table : TableName) (parent : String)
    (position : Int64) : Query String := do
  let rows ← Query.rows ⟨columnsSql naming, [.string parent]⟩
  let columns ← Query.ofExcept (keyColumns rows)
  match columns[position.toUInt64.toNat]? with
  | some (_, name) => pure name
  | none => .fail (.inTable table (.noImplicitParent parent position))

/-- A row about a column pair of a foreign key. -/
def referenceRow (naming : Naming) (table : TableName) (row : Row) : Query ReferenceRow := do
  let position ← Query.ofExcept (row.int "pragma_foreign_key_list" "seq")
  let parent ← Query.ofExcept (row.string "pragma_foreign_key_list" "parent_table")
  let primaryColumn ←
    match ← Query.ofExcept (row.string? "pragma_foreign_key_list" "to_column") with
    | some column => pure column
    | none => implicitParentColumn naming table parent position
  let id ← Query.ofExcept (row.int "pragma_foreign_key_list" "id")
  let foreignColumn ← Query.ofExcept (row.string "pragma_foreign_key_list" "from_column")
  pure ⟨toString id.toInt, position.toUInt64, foreignColumn, ⟨mainSchema, parent⟩, primaryColumn⟩

/-- One listed table. -/
def table (naming : Naming) (listed : Listed) : Query Table := do
  let name : TableName := ⟨mainSchema, listed.name⟩
  let autoincrement := declaresAutoincrement listed.ddl?
  let columnRows ← Query.rows ⟨columnsSql naming, [.string listed.name]⟩
  let found ← Query.ofExcept (columnRows.mapM (columnOf? name autoincrement))
  let entries := found.filterMap id
  let referenceRows ← Query.rows ⟨foreignKeysSql naming, [.string listed.name]⟩
  let references ← referenceRows.mapM (referenceRow naming name)
  Query.ofExcept
    (Table.assemble name (entries.map (·.1)) (entries.foldl addKeyColumn Lookup.empty) references)

/-- The tables that the options ask for. -/
def tables (options : ExtractOptions) (naming : Naming) : TableStream :=
  if includesMain options then do
    let rows ← Query.rows ⟨tablesSql, []⟩
    let listed ← Query.ofExcept (rows.mapM tableEntry)
    pure (listed.map (table naming))
  else pure []

end SchemaCatalog.Sqlite
