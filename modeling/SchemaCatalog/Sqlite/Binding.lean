import SchemaCatalog.Naming
import SchemaCatalog.Row
import SchemaCatalog.Error
/-!
# Values bound in SQLite

SQLite knows five kinds of values. Catalog values are bound as one of them, each under the name that
stands for it in the statement, and come back as the widest catalog value of that kind.
-/

namespace SchemaCatalog.Sqlite

/-- A value as SQLite keeps it. -/
inductive Stored where
  | null
  | integer (n : Int64)
  | real (x : Float)
  | text (s : String)
  | blob (bytes : List UInt8)

namespace Stored

/-- The value as it is bound. -/
def ofValue : Value → Stored
  | .null => null
  | .bool b => integer (if b then 1 else 0)
  | .int8 n => integer n.toInt64
  | .int16 n => integer n.toInt64
  | .int32 n => integer n.toInt64
  | .int64 n => integer n
  | .float32 x => real x.toFloat
  | .float64 x => real x
  | .decimal s => text s
  | .string s => text s
  | .bytes bytes => blob bytes

/-- The value as it is read back from a row. What is no number is null. -/
def toValue : Stored → Value
  | null => .null
  | integer n => .int64 n
  | real x => if x.isNaN then .null else .float64 x
  | text s => .string s
  | blob bytes => .bytes bytes

end Stored

/-- The values of a statement's parameters under the names by which it calls them. -/
def bound (values : List Value) : List (String × Stored) :=
  values.zipIdx.map fun (v, i) => (":" ++ Naming.sqlite.parameterName (UInt64.ofNat i), .ofValue v)

/-- The most columns that a statement can select. -/
def columnLimit : Nat := 2000

/-- The row of a statement that selects its parameters as columns `c0`, `c1`, …. There is no such
statement without parameters, nor with more than a statement can select. -/
def selectBound (values : List Value) : Except Error Row :=
  if values.isEmpty then .error (.query "Failed to prepare query: incomplete input")
  else if columnLimit < values.length then
    .error (.query "Failed to prepare query: too many columns in result set")
  else .ok {
    columns := (List.range values.length).map fun i => s!"c{i}"
    values := values.map fun v => (Stored.ofValue v).toValue }

end SchemaCatalog.Sqlite
