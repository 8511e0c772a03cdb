import Mathlib
import SchemaCatalog.Postgres.Wire
import SchemaCatalog.Proofs.Outcomes
import SchemaCatalog.Proofs.TextBytes
/-!
# Values sent and read back

A value that is sent as a parameter is read back as itself, under its own type and under every domain
over that type, however deep (`Postgres.decode_seen_through`): domains are taken off before anything
is read, and reading a type undoes the form in which its values are sent.
-/

namespace SchemaCatalog.Postgres

/-! ## Numbers of a fixed width -/

theorem length_bigEndian (width n : Nat) : (bigEndian width n).length = width := by
  induction width generalizing n with
  | zero => rfl
  | succ width ih => rw [bigEndian, List.length_append, ih, List.length_singleton]

theorem ofBigEndian_append (bytes : List UInt8) (b : UInt8) :
    ofBigEndian (bytes ++ [b]) = 256 * ofBigEndian bytes + b.toNat := by
  rw [ofBigEndian, List.foldl_append]
  rfl

/-- The bytes of a number are read as what of it fits in them. -/
theorem ofBigEndian_bigEndian (width n : Nat) : ofBigEndian (bigEndian width n) = n % 256 ^ width := by
  induction width generalizing n with
  | zero => rw [Nat.pow_zero, Nat.mod_one]; rfl
  | succ width ih =>
    have hlast : (UInt8.ofNat n).toNat = n % 256 := UInt8.toNat_ofNat'
    rw [bigEndian, ofBigEndian_append, ih, hlast, Nat.pow_succ', Nat.mod_mul, Nat.add_comm]

theorem fixedWidth_bigEndian {width n : Nat} (h : n < 256 ^ width) :
    fixedWidth width (bigEndian width n) = .ok n := by
  rw [fixedWidth, length_bigEndian, if_neg (lt_irrefl _), if_neg (lt_irrefl _),
    ofBigEndian_bigEndian, Nat.mod_eq_of_lt h]

/-- Bytes are a number exactly if there are as many as its width. -/
theorem exists_fixedWidth_iff {width : Nat} {bytes : List UInt8} :
    (∃ n, fixedWidth width bytes = .ok n) ↔ bytes.length = width := by
  rw [fixedWidth]
  split_ifs with hshort hlong
  · simp; omega
  · simp; omega
  · simp; omega

/-- How many bytes a value of the type has, where all have the same. -/
def BaseType.width? : BaseType → Option Nat
  | bool | char => some 1
  | int2 => some 2
  | int4 | oid | float4 => some 4
  | int8 | float8 => some 8
  | text | varchar | bpchar | name | unknown | other _ => none

/-! ## Domains -/

namespace WireType

/-- A domain over a domain and so on, down to a base type; the outermost name comes first. -/
def domainsOver (names : List String) (type : BaseType) : WireType :=
  names.foldr domain (base type)

theorem baseType_domainsOver (names : List String) (type : BaseType) :
    (domainsOver names type).baseType = type := by
  induction names with
  | nil => rfl
  | cons name rest ih => exact ih

end WireType

theorem decode_eq_ok_iff {t : WireType} {bytes : List UInt8} {v : Value} :
    decode t bytes = .ok v ↔ decodeBase t.baseType bytes = .ok v := by
  rw [decode]
  cases decodeBase t.baseType bytes with
  | ok w => simp [Except.mapError]
  | error fault => simp [Except.mapError]

/-! ## What is sent comes back -/

/-- The types of texts. -/
def textTypes : List BaseType := [.text, .varchar, .bpchar, .name, .unknown]

/-- The value has the form of the type, so it comes back as itself. -/
inductive Fits : Value → BaseType → Prop where
  | bool (b : Bool) : Fits (.bool b) .bool
  | int16 (n : Int16) : Fits (.int16 n) .int2
  | int32 (n : Int32) : Fits (.int32 n) .int4
  | int64 (n : Int64) : Fits (.int64 n) .int8
  | text (s : String) {type : BaseType} (h : type ∈ textTypes) : Fits (.string s) type
  | bytes (content : List UInt8) (name : String) : Fits (.bytes content) (.other name)

theorem decodeBase_text {type : BaseType} (h : type ∈ textTypes) (s : String) :
    decodeBase type (Text.Utf8.encode s) = .ok (.string s) := by
  have htext : textOf (Text.Utf8.encode s) = .ok s := by
    rw [textOf, Text.Utf8.decode_encode]
    rfl
  have hread : decodeBase type (Text.Utf8.encode s) =
      (textOf (Text.Utf8.encode s)).map .string := by
    simp only [textTypes, List.mem_cons, List.not_mem_nil, or_false] at h
    rcases h with rfl | rfl | rfl | rfl | rfl <;> rfl
  rw [hread, htext]
  rfl

/-- A value that fits a type is sent as bytes from which the type reads it. -/
theorem exists_decodeBase_of_fits {v : Value} {type : BaseType} (h : Fits v type) :
    ∃ bytes, encode? v = some bytes ∧ decodeBase type bytes = .ok v := by
  cases h with
  | bool b =>
    refine ⟨_, rfl, ?_⟩
    cases b <;> rfl
  | int16 n =>
    refine ⟨_, rfl, ?_⟩
    rw [decodeBase, fixedWidth_bigEndian n.toUInt16.toNat_lt]
    simp [Except.map]
  | int32 n =>
    refine ⟨_, rfl, ?_⟩
    rw [decodeBase, fixedWidth_bigEndian n.toUInt32.toNat_lt]
    simp [Except.map]
  | int64 n =>
    refine ⟨_, rfl, ?_⟩
    rw [decodeBase, fixedWidth_bigEndian n.toUInt64.toNat_lt]
    simp [Except.map]
  | text s htype => exact ⟨_, rfl, decodeBase_text htype s⟩
  | bytes content name => exact ⟨_, rfl, rfl⟩

/-- The number of an object fills the low half of the number as which it is read. -/
theorem decodeBase_oid (n : UInt32) :
    decodeBase .oid (bigEndian 4 n.toNat) = .ok (.int64 (.ofNat n.toNat)) := by
  rw [decodeBase, fixedWidth_bigEndian n.toNat_lt]
  exact congrArg (fun k => Except.ok (Value.int64 k)) UInt64.toInt64_ofNat'

theorem exists_decode_iff_length {type : BaseType} {width : Nat} (h : type.width? = some width)
    {t : WireType} (ht : t.baseType = type) {bytes : List UInt8} :
    (∃ v, decode t bytes = .ok v) ↔ bytes.length = width := by
  simp only [decode_eq_ok_iff, ht]
  have hnumber (f : Nat → Value) : (∃ v, (fixedWidth width bytes).map f = .ok v) ↔
      bytes.length = width := by
    rw [← exists_fixedWidth_iff]
    simp only [map_ok_iff]
    constructor
    · rintro ⟨_, n, hn, -⟩
      exact ⟨n, hn⟩
    · rintro ⟨n, hn⟩
      exact ⟨_, n, hn, rfl⟩
  cases type with
  | bool =>
    cases h
    match bytes with
    | [] => simp [decodeBase]
    | [b] => simp [decodeBase]
    | _ :: _ :: _ => simp [decodeBase]
  | char | int2 | int4 | int8 | oid | float4 | float8 =>
    cases h
    exact hnumber _
  | text | varchar | bpchar | name | unknown | other => cases h

/-- A domain, over however many others, is read as its base type, and values of a fixed width exactly
from that many bytes. A value that is sent comes back under every type in whose form it is; a number of
eight bits comes back as the same number of sixteen, and the number of an object as the same number,
which is never negative. -/
theorem decode_seen_through (names : List String) :
    (∀ (b : BaseType), (WireType.domainsOver names b).baseType = b ∧
      ∀ (bytes : List UInt8) (v : Value),
        decode (.domainsOver names b) bytes = .ok v ↔ decode (.base b) bytes = .ok v) ∧
      (∀ (b : BaseType) (width : Nat), b.width? = some width → ∀ bytes : List UInt8,
        (∃ v, decode (.domainsOver names b) bytes = .ok v) ↔ bytes.length = width) ∧
      (∀ (v : Value) (b : BaseType), Fits v b →
        ∃ bytes, encode? v = some bytes ∧ decode (.domainsOver names b) bytes = .ok v) ∧
      (∀ n : Int8, ∃ (bytes : List UInt8) (m : Int16), encode? (.int8 n) = some bytes ∧
        decode (.domainsOver names .int2) bytes = .ok (.int16 m) ∧ m.toInt = n.toInt) ∧
      ∀ n : UInt32, ∃ k : Int64,
        decode (.domainsOver names .oid) (bigEndian 4 n.toNat) = .ok (.int64 k) ∧
          k.toInt = n.toNat := by
  have hbase := WireType.baseType_domainsOver names
  have hread {b : BaseType} {bytes : List UInt8} {v : Value} (h : decodeBase b bytes = .ok v) :
      decode (.domainsOver names b) bytes = .ok v := by
    rwa [decode_eq_ok_iff, hbase]
  refine ⟨fun b => ⟨hbase b, fun bytes v => ?_⟩, fun b width h bytes => ?_, fun v b h => ?_,
    fun n => ?_, fun n => ?_⟩
  · rw [decode_eq_ok_iff, decode_eq_ok_iff, hbase]
    rfl
  · exact exists_decode_iff_length h (hbase b)
  · obtain ⟨bytes, hbytes, hvalue⟩ := exists_decodeBase_of_fits h
    exact ⟨bytes, hbytes, hread hvalue⟩
  · -- the smaller number is sent as the greater one is
    obtain ⟨bytes, hbytes, hvalue⟩ := exists_decodeBase_of_fits (.int16 n.toInt16)
    exact ⟨bytes, n.toInt16, hbytes, hread hvalue, Int8.toInt_toInt16 n⟩
  · have hsmall : n.toNat < 2 ^ 63 := lt_trans n.toNat_lt (by decide)
    exact ⟨_, hread (decodeBase_oid n), Int64.toInt_ofNat_of_lt hsmall⟩

/-- Behind two domains: a text, too few bytes, a negative number of eight bits, and the greatest number
of an object. -/
theorem decode_seen_through_identifier :
    (∃ bytes, encode? (.string "ſchéma😀") = some bytes ∧
      decode (.domain "wrapped" (.domain "sql_identifier" (.base .name))) bytes =
        .ok (.string "ſchéma😀")) ∧
      (¬ ∃ v, decode (.domain "wrapped" (.domain "sql_identifier" (.base .int4))) [0, 1] = .ok v) ∧
      (∃ (bytes : List UInt8) (m : Int16), encode? (.int8 (-128)) = some bytes ∧
        decode (.domain "wrapped" (.domain "sql_identifier" (.base .int2))) bytes = .ok (.int16 m) ∧
          m.toInt = -128) ∧
      ∃ k : Int64, decode (.domain "wrapped" (.domain "sql_identifier" (.base .oid)))
        [255, 255, 255, 255] = .ok (.int64 k) ∧ k.toInt = 4294967295 := by
  obtain ⟨-, hwidth, hsent, hsmall, hobject⟩ := decode_seen_through ["wrapped", "sql_identifier"]
  refine ⟨hsent _ .name (.text _ (by decide)), fun hread => ?_, hsmall (-128), hobject 4294967295⟩
  exact absurd ((hwidth .int4 4 rfl [0, 1]).1 hread) (by decide)

end SchemaCatalog.Postgres
