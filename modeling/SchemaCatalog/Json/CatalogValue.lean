import SchemaCatalog.Json.Record
import SchemaCatalog.Value
/-!
# Catalog values in JSON

A value is written as an object whose one member is named for the kind of the value. Null has no
content and is written as the bare name; reading also takes it as an object with a null member.
-/

namespace SchemaCatalog.Json.Reader

/-- Bytes as an array of numbers. -/
def bytes : Reader (List UInt8) :=
  array do
    let n ← int 0 255
    pure (UInt8.ofNat n.toNat)

/-- The content of a value of the named kind. -/
def content (kind : String) : Reader Value :=
  match kind with
  | "Null" => do word "null"; pure .null
  | "Bool" => .bool <$> bool
  | "Int8" => (fun n => .int8 (Int8.ofInt n)) <$> int Int8.minValue.toInt Int8.maxValue.toInt
  | "Int16" => (fun n => .int16 (Int16.ofInt n)) <$> int Int16.minValue.toInt Int16.maxValue.toInt
  | "Int32" => (fun n => .int32 (Int32.ofInt n)) <$> int Int32.minValue.toInt Int32.maxValue.toInt
  | "Int64" => (fun n => .int64 (Int64.ofInt n)) <$> int Int64.minValue.toInt Int64.maxValue.toInt
  | "Float32" => (fun n => .float32 n.toSingle) <$> number
  | "Float64" => (fun n => .float64 n.toDouble) <$> number
  | "Decimal" => .decimal <$> string
  | "String" => .string <$> string
  | "Bytes" => .bytes <$> bytes
  | _ => fail .malformed

/-- A catalog value. -/
def value : Reader Value := do
  match ← peek with
  | some '{' =>
    char '{'
    let kind ← string
    char ':'
    let v ← content kind
    char '}'
    pure v
  | _ =>
    if (← string) == "Null" then pure .null else fail .malformed

end SchemaCatalog.Json.Reader
