import SchemaCatalog.Decimal.Shortest
/-!
# Values in catalog rows

The closed set of values that a catalog query may return or be given as a parameter.
-/

namespace SchemaCatalog

/-- One value of a row or one parameter of a statement. -/
inductive Value where
  | null
  | bool (b : Bool)
  | int8 (n : Int8)
  | int16 (n : Int16)
  | int32 (n : Int32)
  | int64 (n : Int64)
  | float32 (x : Float32)
  | float64 (x : Float)
  /-- A decimal number, kept as the text in which it came. -/
  | decimal (text : String)
  | string (text : String)
  | bytes (content : List UInt8)
deriving DecidableEq

namespace Value

/-- The name of the value's kind in messages. -/
def kind : Value → String
  | .null => "null"
  | .bool _ => "bool"
  | .int8 _ => "int8"
  | .int16 _ => "int16"
  | .int32 _ => "int32"
  | .int64 _ => "int64"
  | .float32 _ => "float32"
  | .float64 _ => "float64"
  | .decimal _ => "decimal"
  | .string _ => "string"
  | .bytes _ => "bytes"

/-- The integer that the value is; texts are not read as numbers. -/
def toInt64? : Value → Option Int64
  | .int8 n => some n.toInt64
  | .int16 n => some n.toInt64
  | .int32 n => some n.toInt64
  | .int64 n => some n
  | _ => none

/-- The value for people to read. -/
def text : Value → String
  | .null => "NULL"
  | .bool b => if b then "true" else "false"
  | .int8 n => toString n.toInt
  | .int16 n => toString n.toInt
  | .int32 n => toString n.toInt
  | .int64 n => toString n.toInt
  | .float32 x => Decimal.singleText x
  | .float64 x => Decimal.doubleText x
  | .decimal text => text
  | .string text => text
  | .bytes content => s!"<{content.length} bytes>"

/-- A value that may be absent. -/
def ofOption {α : Type} (wrap : α → Value) : Option α → Value
  | none => .null
  | some a => wrap a

end Value

end SchemaCatalog
