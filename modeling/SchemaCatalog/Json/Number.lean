import SchemaCatalog.Decimal.Shortest
/-!
# Numbers in JSON

The text of a number is read first by its grammar and then given a value. A whole number of
sixty-four bits is exact; any other number is a double. Its digits are gathered into sixty-four
bits, those that no longer fit only move the exponent, and the result is scaled as
`Decimal.toDouble?` says: by one rounding of the digits and one multiplication or division by a
power of ten, in double arithmetic. Beyond `10^308` in either direction the scaling goes in steps; a
result without bound is refused.
-/

namespace SchemaCatalog.Decimal

/-- The double nearest to `10^n`. -/
def tenTo (n : Nat) : Float :=
  Float.ofScientific 1 false n

/-- The double scaled by a power of ten, or nothing where the result is infinite. -/
def scale? (x : Float) (exponent : Int) : Option Float :=
  if h : exponent.natAbs ≤ 308 then
    if 0 ≤ exponent then
      let y := x * tenTo exponent.natAbs
      if y.isInf then none else some y
    else some (x / tenTo exponent.natAbs)
  else if x == 0 then some x
  else if h' : 0 ≤ exponent then none
  else scale? (x / tenTo 308) (exponent + 308)
termination_by exponent.natAbs
decreasing_by omega

/-- The double for a decimal with the given sign. -/
def toDouble? (negative : Bool) (significand : UInt64) (exponent : Int) : Option Float :=
  (scale? significand.toFloat exponent).map fun x => if negative then -x else x

/-- A single as the double that its shortest decimal names. -/
def widened (x : Float32) : Float :=
  let b := ofSingle x
  if x.isNaN || x.isInf || b.mantissa == 0 then x.toFloat
  else
    let d := shortest .even b
    (toDouble? (isNegativeSingle x) (UInt64.ofNat d.digits) d.exponent).getD x.toFloat

end SchemaCatalog.Decimal

namespace SchemaCatalog.Json

/-- The parts of a number as written. -/
structure NumberText where
  negative : Bool
  whole : List Char
  fraction? : Option (List Char)
  exponent? : Option Int

/-- The value of a number. -/
inductive Number where
  /-- A whole number from `-2^63` to `2^64 - 1`. -/
  | int (n : Int)
  | real (x : Float)

/-- The number that a decimal digit stands for. -/
def digitValue (c : Char) : Nat :=
  c.toNat - '0'.toNat

/-- The natural number that digits stand for. -/
def digitsValue (ds : List Char) : Nat :=
  ds.foldl (fun n c => 10 * n + digitValue c) 0

/-- The leading digits, and the rest. -/
def spanDigits (cs : List Char) : List Char × List Char :=
  (cs.takeWhile Char.isDigit, cs.dropWhile Char.isDigit)

/-- The exponent after its letter: an optional sign and at least one digit. -/
def exponentText? (cs : List Char) : Option (Int × List Char) :=
  let (negative, cs) := match cs with
    | '+' :: rest => (false, rest)
    | '-' :: rest => (true, rest)
    | _ => (false, cs)
  match spanDigits cs with
  | ([], _) => none
  | (ds, rest) => some (if negative then -(digitsValue ds : Int) else digitsValue ds, rest)

/-- The number at the beginning of the text. A zero is not followed by a digit, and a point and an
exponent letter are followed by one. -/
def numberText? (cs : List Char) : Option (NumberText × List Char) := do
  let (negative, cs) := match cs with
    | '-' :: rest => (true, rest)
    | _ => (false, cs)
  let (whole, cs) := spanDigits cs
  guard (!whole.isEmpty && (whole.length == 1 || whole.head? != some '0'))
  let (fraction?, cs) ← match cs with
    | '.' :: rest =>
      match spanDigits rest with
      | ([], _) => none
      | (ds, rest) => some (some ds, rest)
    | _ => some (none, cs)
  let (exponent?, cs) ← match cs with
    | 'e' :: rest | 'E' :: rest => (exponentText? rest).map fun (e, rest) => (some e, rest)
    | _ => some (none, cs)
  pure (⟨negative, whole, fraction?, exponent?⟩, cs)

/-- Digits gathered into sixty-four bits. -/
structure Gathered where
  significand : Nat
  exponent : Int
  /-- A digit no longer fitted. -/
  full : Bool

/-- One more digit before the point: it is taken if it fits, otherwise it and all that follow only
raise the exponent. -/
def Gathered.takeWhole (g : Gathered) (c : Char) : Gathered :=
  let n := 10 * g.significand + digitValue c
  if g.full || n ≥ UInt64.size then { g with exponent := g.exponent + 1, full := true }
  else { g with significand := n }

/-- The digits after the point: they are taken as long as they fit, and lower the exponent. -/
def Gathered.takeFraction (g : Gathered) : List Char → Gathered
  | [] => g
  | c :: rest =>
    let n := 10 * g.significand + digitValue c
    if n ≥ UInt64.size then g
    else Gathered.takeFraction { g with significand := n, exponent := g.exponent - 1 } rest

/-- The value of a number as written, or nothing where a double cannot hold it. -/
def NumberText.value? (t : NumberText) : Option Number :=
  let g := t.whole.foldl Gathered.takeWhole ⟨0, 0, false⟩
  if t.fraction?.isNone && t.exponent?.isNone && !g.full &&
      (!t.negative || (0 < g.significand && Int64.minValue.toInt ≤ -(g.significand : Int))) then
    some (.int (if t.negative then -(g.significand : Int) else g.significand))
  else
    let g := g.takeFraction (t.fraction?.getD [])
    (Decimal.toDouble? t.negative (UInt64.ofNat g.significand) (g.exponent + t.exponent?.getD 0)).map
      .real

/-- The number as a double. -/
def Number.toDouble : Number → Float
  | .int n => if n < 0 then -(UInt64.ofNat n.natAbs).toFloat else (UInt64.ofNat n.natAbs).toFloat
  | .real x => x

/-- The number as a single, rounded once. -/
def Number.toSingle : Number → Float32
  | .int n =>
    if n < 0 then -(UInt64.ofNat n.natAbs).toFloat32 else (UInt64.ofNat n.natAbs).toFloat32
  | .real x => x.toFloat32

end SchemaCatalog.Json
