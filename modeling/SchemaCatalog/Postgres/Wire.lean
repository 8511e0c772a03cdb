import SchemaCatalog.Error
import SchemaCatalog.Text.Utf8
import SchemaCatalog.Value
/-!
# Values on PostgreSQL's wire

The server sends values as bytes, in a form that depends on the type: numbers with their high byte
first and in a fixed width, texts as they are. A domain has the form of the type that it is over.
Parameters are sent in the same forms, chosen by the value.
-/

namespace SchemaCatalog.Postgres

/-- A type that is not a domain. -/
inductive BaseType where
  | bool
  | char
  | int2
  | int4
  | int8
  | oid
  | float4
  | float8
  | text
  | varchar
  | bpchar
  | name
  | unknown
  /-- Any other type; its values are kept as bytes. -/
  | other (name : String)
deriving DecidableEq, Repr

/-- The types that are decoded, by name. -/
def namedTypes : List (String × BaseType) := [
  ("bool", .bool), ("char", .char), ("int2", .int2), ("int4", .int4), ("int8", .int8),
  ("oid", .oid), ("float4", .float4), ("float8", .float8), ("text", .text),
  ("varchar", .varchar), ("bpchar", .bpchar), ("name", .name), ("unknown", .unknown)]

namespace BaseType

/-- The type of that name. -/
def ofName (name : String) : BaseType :=
  (namedTypes.lookup name).getD (.other name)

/-- The name of the type. -/
def typeName : BaseType → String
  | bool => "bool"
  | char => "char"
  | int2 => "int2"
  | int4 => "int4"
  | int8 => "int8"
  | oid => "oid"
  | float4 => "float4"
  | float8 => "float8"
  | text => "text"
  | varchar => "varchar"
  | bpchar => "bpchar"
  | name => "name"
  | unknown => "unknown"
  | other known => known

end BaseType

/-- A type as the server describes it. -/
inductive WireType where
  | base (type : BaseType)
  | domain (name : String) (underlying : WireType)
deriving DecidableEq, Repr

namespace WireType

/-- The name of the type. -/
def typeName : WireType → String
  | base type => type.typeName
  | domain name _ => name

/-- What is left of the type when all domains are taken off. -/
def baseType : WireType → BaseType
  | base type => type
  | domain _ underlying => underlying.baseType

end WireType

/-- Why bytes are no value of a type. -/
inductive DecodeFault where
  | wrongSize
  | tooShort
  | noText (fault : Text.Utf8.Fault)
deriving DecidableEq, Repr

/-- The fault in words. -/
def DecodeFault.message : DecodeFault → String
  | .wrongSize => "invalid buffer size"
  | .tooShort => "failed to fill whole buffer"
  | .noText fault => fault.message

/-- The number that the bytes stand for, the high byte first. -/
def ofBigEndian (bytes : List UInt8) : Nat :=
  bytes.foldl (fun n b => 256 * n + b.toNat) 0

/-- The lowest bytes of a number, as many as asked for, the high byte first. -/
def bigEndian : Nat → Nat → List UInt8
  | 0, _ => []
  | width + 1, n => bigEndian width (n / 256) ++ [UInt8.ofNat n]

/-- The number in exactly so many bytes. -/
def fixedWidth (width : Nat) (bytes : List UInt8) : Except DecodeFault Nat :=
  if bytes.length < width then .error .tooShort
  else if width < bytes.length then .error .wrongSize
  else .ok (ofBigEndian bytes)

/-- The text that the bytes stand for. -/
def textOf (bytes : List UInt8) : Except DecodeFault String :=
  (Text.Utf8.decode bytes).mapError .noText

/-- The value of a type that is not a domain. -/
def decodeBase (type : BaseType) (bytes : List UInt8) : Except DecodeFault Value :=
  match type with
  | .bool =>
    match bytes with
    | [b] => .ok (.bool (b != 0))
    | _ => .error .wrongSize
  | .char => (fixedWidth 1 bytes).map fun n => .int8 (UInt8.ofNat n).toInt8
  | .int2 => (fixedWidth 2 bytes).map fun n => .int16 (UInt16.ofNat n).toInt16
  | .int4 => (fixedWidth 4 bytes).map fun n => .int32 (UInt32.ofNat n).toInt32
  | .int8 => (fixedWidth 8 bytes).map fun n => .int64 (UInt64.ofNat n).toInt64
  | .oid => (fixedWidth 4 bytes).map fun n => .int64 (UInt64.ofNat n).toInt64
  | .float4 => (fixedWidth 4 bytes).map fun n => .float32 (Float32.ofBits (UInt32.ofNat n))
  | .float8 => (fixedWidth 8 bytes).map fun n => .float64 (Float.ofBits (UInt64.ofNat n))
  | .text | .varchar | .bpchar | .name | .unknown => (textOf bytes).map .string
  | .other _ => .ok (.bytes bytes)

/-- The value of any type. An error names the type itself, not what it is a domain over. -/
def decode (type : WireType) (bytes : List UInt8) : Except Error Value :=
  (decodeBase type.baseType bytes).mapError fun fault =>
    .query s!"failed to decode {type.typeName} value: {fault.message}"

/-- The bytes of a parameter; null has none. -/
def encode? : Value → Option (List UInt8)
  | .null => none
  | .bool b => some [if b then 1 else 0]
  | .int8 n => some (bigEndian 2 n.toInt16.toUInt16.toNat)
  | .int16 n => some (bigEndian 2 n.toUInt16.toNat)
  | .int32 n => some (bigEndian 4 n.toUInt32.toNat)
  | .int64 n => some (bigEndian 8 n.toUInt64.toNat)
  | .float32 x => some (bigEndian 4 x.toBits.toNat)
  | .float64 x => some (bigEndian 8 x.toBits.toNat)
  | .decimal text | .string text => some (Text.Utf8.encode text)
  | .bytes content => some content

end SchemaCatalog.Postgres
