import SchemaCatalog.Error
import SchemaCatalog.Value
/-!
# Rows of catalog queries

A row names its columns. A column is found by name, the first of that name if there are several,
and read as one kind of value; a value of any other kind is an error that names the query, the
column and both kinds.
-/

namespace SchemaCatalog

/-- One row of a result: column names and, in parallel, values. -/
structure Row where
  columns : List String
  values : List Value
deriving DecidableEq

namespace Row

/-- The value under the first column of that name. A row may have fewer values than columns. -/
def find? (row : Row) (column : String) : Option Value :=
  match row.columns.idxOf? column with
  | some i => row.values[i]?
  | none => none

/-- The value of a column of the named query. -/
def value (row : Row) (query column : String) : Except Error Value :=
  match row.find? column with
  | some v => .ok v
  | none => .error (.missingColumn query column)

/-- The error for a value of the wrong kind. -/
def mismatch (query column expected : String) (found : Value) : Error :=
  .typeMismatch query column expected found.kind

/-- Text that is not null. -/
def string (row : Row) (query column : String) : Except Error String := do
  match ← row.value query column with
  | .string s => .ok s
  | other => .error (mismatch query column "string" other)

/-- Text or null. -/
def string? (row : Row) (query column : String) : Except Error (Option String) := do
  match ← row.value query column with
  | .null => .ok none
  | .string s => .ok (some s)
  | other => .error (mismatch query column "string or null" other)

/-- An integer of any width that is not null. -/
def int (row : Row) (query column : String) : Except Error Int64 := do
  let v ← row.value query column
  match v.toInt64? with
  | some n => .ok n
  | none => .error (mismatch query column "integer" v)

/-- An integer of any width or null. -/
def int? (row : Row) (query column : String) : Except Error (Option Int64) := do
  match ← row.value query column with
  | .null => .ok none
  | other =>
    match other.toInt64? with
    | some n => .ok (some n)
    | none => .error (mismatch query column "integer or null" other)

/-- A position counted from one in the catalog, counted from zero here. -/
def ordinal (row : Row) (query column : String) : Except Error UInt64 := do
  let n ← row.int query column
  if n < 1 then .error (.inconsistent (.ordinalNotOneBased query column n))
  else .ok (n - 1).toUInt64

/-- A truth value that is not null. -/
def flag (row : Row) (query column : String) : Except Error Bool := do
  match ← row.value query column with
  | .bool b => .ok b
  | other => .error (mismatch query column "bool" other)

end Row

end SchemaCatalog
