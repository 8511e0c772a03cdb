import SchemaCatalog.Json.Record
import SchemaCatalog.Table
/-!
# Tables in JSON

How columns, foreign keys and tables are written, and how they are read back. Reading goes through
the same checks as building: a foreign key needs a pair of columns, and a table is only read if
`Table.ofColumns` accepts it.
-/

namespace SchemaCatalog

namespace Column

/-- The column as an object; what it does not have is null. -/
def toJson (c : Column) : Json :=
  .object [
    ("name", .string c.name),
    ("data_type", .string c.dataType),
    ("nullable", .bool c.nullable),
    ("default_value", Json.ofOption .string c.default?),
    ("primary_key_idx", Json.ofOption (fun n => .int n.toNat) c.keyOrdinal?),
    ("is_computed", .bool c.isComputed),
    ("is_identity", .bool c.isIdentity),
    ("is_concurrency_token", .bool c.isConcurrencyToken)]

end Column

namespace ForeignKey

/-- The pair as an array of the two names. -/
def pairToJson (p : ColumnPair) : Json :=
  .array [.string p.foreign, .string p.primary]

/-- The foreign key as an object, the pairs in their order. -/
def toJson (k : ForeignKey) : Json :=
  .object [
    ("primary_key_schema", .string k.parent.schema),
    ("primary_key_table", .string k.parent.name),
    ("foreign_to_primary", .array (k.pairs.toList.map pairToJson))]

end ForeignKey

namespace Table

/-- The table as an object. -/
def toJson (t : Table) : Json :=
  .object [
    ("schema", .string t.name.schema),
    ("name", .string t.name.name),
    ("columns", .array (t.columns.map Column.toJson)),
    ("foreign_keys", .array (t.foreignKeys.toList.map ForeignKey.toJson))]

/-- Tables as an array. -/
def listToJson (ts : List Table) : Json :=
  .array (ts.map toJson)

end Table

namespace Json.Reader

/-- A number of sixty-four bits without a sign. -/
def uint64 : Reader UInt64 := do
  let n ← int 0 18446744073709551615
  pure (UInt64.ofNat n.toNat)

/-- The members of a column read so far. -/
structure ColumnDraft where
  name : Option String := none
  dataType : Option String := none
  nullable : Option Bool := none
  default? : Option (Option String) := none
  keyOrdinal? : Option (Option UInt64) := none
  isComputed : Option Bool := none
  isIdentity : Option Bool := none
  isConcurrencyToken : Option Bool := none

namespace ColumnDraft

/-- The members of a column in the order of the array form. -/
def members : List (Member ColumnDraft) := [
  .place "name" (·.name) (fun d x => { d with name := some x }) string,
  .place "data_type" (·.dataType) (fun d x => { d with dataType := some x }) string,
  .place "nullable" (·.nullable) (fun d x => { d with nullable := some x }) bool,
  .place "default_value" (·.default?) (fun d x => { d with default? := some x }) (optional string),
  .place "primary_key_idx" (·.keyOrdinal?) (fun d x => { d with keyOrdinal? := some x })
    (optional uint64),
  .place "is_computed" (·.isComputed) (fun d x => { d with isComputed := some x }) bool,
  .place "is_identity" (·.isIdentity) (fun d x => { d with isIdentity := some x }) bool,
  .place "is_concurrency_token" (·.isConcurrencyToken)
    (fun d x => { d with isConcurrencyToken := some x }) bool]

/-- The column, if all that is required was read. -/
def finish (d : ColumnDraft) : Except ReadFault Column := do
  let name ← required "name" d.name
  let dataType ← required "data_type" d.dataType
  let nullable ← required "nullable" d.nullable
  let isComputed ← required "is_computed" d.isComputed
  let isIdentity ← required "is_identity" d.isIdentity
  let isConcurrencyToken ← required "is_concurrency_token" d.isConcurrencyToken
  pure {
    name, dataType, nullable, isComputed, isIdentity, isConcurrencyToken
    default? := d.default?.join
    keyOrdinal? := d.keyOrdinal?.join }

end ColumnDraft

/-- A column. -/
def column : Reader Column :=
  record ColumnDraft.members {} ColumnDraft.finish

/-- A pair of columns as an array of two names. -/
def columnPair : Reader ColumnPair := do
  char '['
  let foreign ← string
  char ','
  let primary ← string
  char ']'
  pure ⟨foreign, primary⟩

/-- The members of a foreign key read so far. -/
structure ForeignKeyDraft where
  schema : Option String := none
  table : Option String := none
  pairs : Option (List ColumnPair) := none

namespace ForeignKeyDraft

/-- The members of a foreign key in the order of the array form. -/
def members : List (Member ForeignKeyDraft) := [
  .place "primary_key_schema" (·.schema) (fun d x => { d with schema := some x }) string,
  .place "primary_key_table" (·.table) (fun d x => { d with table := some x }) string,
  .place "foreign_to_primary" (·.pairs) (fun d x => { d with pairs := some x })
    (array columnPair)]

/-- The foreign key, if all that is required was read and there is a pair. -/
def finish (d : ForeignKeyDraft) : Except ReadFault ForeignKey := do
  let schema ← required "primary_key_schema" d.schema
  let table ← required "primary_key_table" d.table
  let pairs ← required "foreign_to_primary" d.pairs
  (ForeignKey.ofPairs ⟨schema, table⟩ pairs).mapError (.refused · false)

end ForeignKeyDraft

/-- A foreign key. -/
def foreignKey : Reader ForeignKey :=
  record ForeignKeyDraft.members {} ForeignKeyDraft.finish

/-- The members of a table read so far. -/
structure TableDraft where
  schema : Option String := none
  name : Option String := none
  columns : Option (List Column) := none
  foreignKeys : Option (List ForeignKey) := none

namespace TableDraft

/-- The members of a table in the order of the array form. -/
def members : List (Member TableDraft) := [
  .place "schema" (·.schema) (fun d x => { d with schema := some x }) string,
  .place "name" (·.name) (fun d x => { d with name := some x }) string,
  .place "columns" (·.columns) (fun d x => { d with columns := some x }) (array column),
  (Member.place "foreign_keys" (·.foreignKeys) (fun d x => { d with foreignKeys := some x })
    (array foreignKey)).trailing]

/-- The table, if all that is required was read and nothing is wrong with it. -/
def finish (d : TableDraft) : Except ReadFault Table := do
  let schema ← required "schema" d.schema
  let name ← required "name" d.name
  let columns ← required "columns" d.columns
  (Table.ofColumns ⟨schema, name⟩ columns (d.foreignKeys.getD [])).mapError (.refused · false)

end TableDraft

/-- A table. -/
def table : Reader Table :=
  record TableDraft.members {} TableDraft.finish

/-- Any number of tables. -/
def tables : Reader (List Table) :=
  array table

end Json.Reader

end SchemaCatalog
