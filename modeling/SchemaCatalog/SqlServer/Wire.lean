import SchemaCatalog.SqlServer.Connection
import SchemaCatalog.Text.Hex
import SchemaCatalog.Value
/-!
# Values on SQL Server's wire

The server sends cells of typed columns, each of which may be null. Catalog statements ask for no
dates or times, so a cell that holds one is an error. Parameters are sent as cells, too.
-/

namespace SchemaCatalog.SqlServer

/-- The decimal number `value · 10^(-scale)`. -/
structure Numeric where
  value : Int
  scale : Nat
deriving DecidableEq, Repr

namespace Numeric

/-- A number of at least `width` characters, filled up with zeros after the sign. -/
def padded (width : Nat) (n : Int) : String :=
  let digits := toString n.natAbs
  let sign := if n < 0 then "-" else ""
  let zeros := width - sign.length - digits.length
  sign ++ String.ofList (List.replicate zeros '0') ++ digits

/-- The whole part, a point, and what is left with `scale` characters. Both parts carry the sign of
the number, which counts as one of the characters. -/
def text (n : Numeric) : String :=
  let unit : Int := Nat.pow 10 n.scale
  s!"{n.value.tdiv unit}.{padded n.scale (n.value.tmod unit)}"

end Numeric

/-- A cell of a typed column. -/
inductive Cell where
  | bit (v : Option Bool)
  | uint8 (v : Option UInt8)
  | int16 (v : Option Int16)
  | int32 (v : Option Int32)
  | int64 (v : Option Int64)
  | float32 (v : Option Float32)
  | float64 (v : Option Float)
  | string (v : Option String)
  | xml (v : Option String)
  /-- Sixteen bytes. -/
  | guid (v : Option (List UInt8))
  | binary (v : Option (List UInt8))
  | numeric (v : Option Numeric)
  /-- A date or a time, of which is only known whether there is one. -/
  | temporal (isPresent : Bool)

/-- The bytes of a unique identifier as five groups of digits. -/
def guidText (bytes : List UInt8) : String :=
  let group (first count : Nat) := String.ofList (Text.Hex.encode ((bytes.drop first).take count))
  "-".intercalate [group 0 4, group 4 2, group 6 2, group 8 2, group 10 6]

/-- The catalog value of a cell. -/
def decode : Cell → Except Error Value
  | .bit v => .ok (.ofOption .bool v)
  | .uint8 v => .ok (.ofOption (fun n => .int16 (Int16.ofNat n.toNat)) v)
  | .int16 v => .ok (.ofOption .int16 v)
  | .int32 v => .ok (.ofOption .int32 v)
  | .int64 v => .ok (.ofOption .int64 v)
  | .float32 v => .ok (.ofOption .float32 v)
  | .float64 v => .ok (.ofOption .float64 v)
  | .string v => .ok (.ofOption .string v)
  | .xml v => .ok (.ofOption .string v)
  | .guid v => .ok (.ofOption (fun bytes => .string (guidText bytes)) v)
  | .binary v => .ok (.ofOption .bytes v)
  | .numeric v => .ok (.ofOption (fun n => .decimal n.text) v)
  | .temporal false => .ok .null
  | .temporal true =>
    .error
      (Fault.typeConversion "temporal values are not part of the catalog value set").toError

/-- The cell in which a parameter is sent. -/
def encode : Value → Cell
  | .null => .int32 none
  | .bool b => .bit (some b)
  | .int8 n => .int16 (some n.toInt16)
  | .int16 n => .int16 (some n)
  | .int32 n => .int32 (some n)
  | .int64 n => .int64 (some n)
  | .float32 x => .float32 (some x)
  | .float64 x => .float64 (some x)
  | .decimal text | .string text => .string (some text)
  | .bytes content => .binary (some content)

end SchemaCatalog.SqlServer
