/-!
# The shortest decimal of a binary fraction

A finite floating-point number `m · 2^q` is written with the fewest digits that read back as the
same number, and among those with the digits nearest to it. The search is exact: both the number
and the ends of the interval that rounds to it are ratios of natural numbers.
-/

namespace SchemaCatalog

/-- The decimal `digits · 10^exponent`. -/
structure Decimal where
  digits : Nat
  exponent : Int
deriving Repr, DecidableEq

namespace Decimal

/-- A decimal without the zeros at the end of its digits; `fuel` bounds their number. -/
def stripZeros : Nat → Decimal → Decimal
  | 0, d => d
  | fuel + 1, d =>
    if d.digits != 0 && d.digits % 10 == 0 then stripZeros fuel ⟨d.digits / 10, d.exponent + 1⟩ else d

/-- What decides between two decimals that are equally near. -/
inductive Tie where
  | up
  | even
deriving Repr, DecidableEq

/-- The binary fraction `mantissa · 2^exponent`. `tight` says that the next smaller number is only
half as far away as the next larger one. -/
structure Binary where
  mantissa : Nat
  exponent : Int
  tight : Bool
deriving Repr, DecidableEq

/-- `10^k` as a ratio. -/
def powerOfTen (k : Int) : Nat × Nat :=
  (Nat.pow 10 k.toNat, Nat.pow 10 (-k).toNat)

/-- The exponent of a power of ten above the ratio; the ratio exceeds a hundredth of that power. -/
def magnitude (num den : Nat) : Int :=
  if num ≥ den then ((Nat.toDigits 10 (num / den)).length : Int)
  else 2 - ((Nat.toDigits 10 (den / num)).length : Int)

/-- The multiple of `10^k` that rounds to the number and is nearest to it, if one does. -/
def onGrid? (tie : Tie) (b : Binary) (k : Int) : Option Decimal :=
  let two := b.exponent - 2
  let unit := Nat.pow 2 two.toNat
  let (tenNum, tenDen) := powerOfTen k
  -- The number, the ends of its interval and the grid step over one denominator.
  let scale := unit * tenDen
  let step := tenNum * Nat.pow 2 (-two).toNat
  let value := 4 * b.mantissa * scale
  let low := (4 * b.mantissa - if b.tight then 1 else 2) * scale
  let high := (4 * b.mantissa + 2) * scale
  let closed := b.mantissa % 2 == 0
  let inside (c : Nat) : Bool :=
    let p := c * step
    (low < p && p < high) || (closed && (p == low || p == high))
  let below := value / step
  let above := below + 1
  let pick (c : Nat) : Option Decimal := some ⟨c, k⟩
  match inside below, inside above with
  | false, false => none
  | true, false => pick below
  | false, true => pick above
  | true, true =>
    let down := value - below * step
    let up := above * step - value
    if down < up then pick below
    else if up < down then pick above
    else match tie with
      | .up => pick above
      | .even => if below % 2 == 0 then pick below else pick above

/-- The shortest decimal that rounds to the number, which must not be zero. -/
def shortest (tie : Tie) (b : Binary) : Decimal :=
  let num := b.mantissa * Nat.pow 2 b.exponent.toNat
  let den := Nat.pow 2 (-b.exponent).toNat
  let top := magnitude num den
  match (List.range 20).findSome? fun (n : Nat) => onGrid? tie b (top - n) with
  | some d => stripZeros 20 d
  | none => ⟨num / den, 0⟩

/-- The mantissa and exponent of a finite number from the fields of its encoding: `fraction` has
`bits` bits, and `bias` makes an exponent field of one stand for the smallest normal numbers. -/
def ofFields (bits : Nat) (bias : Int) (exponent fraction : Nat) : Binary :=
  if exponent == 0 then ⟨fraction, 1 - bias, false⟩
  else ⟨Nat.pow 2 bits + fraction, exponent - bias, fraction == 0 && exponent > 1⟩

/-- The magnitude of a finite double. -/
def ofDouble (x : Float) : Binary :=
  let n := x.toBits.toNat
  ofFields 52 1075 (n / Nat.pow 2 52 % Nat.pow 2 11) (n % Nat.pow 2 52)

/-- The magnitude of a finite single. -/
def ofSingle (x : Float32) : Binary :=
  let n := x.toBits.toNat
  ofFields 23 150 (n / Nat.pow 2 23 % Nat.pow 2 8) (n % Nat.pow 2 23)

/-- The sign bit of a double. -/
def isNegative (x : Float) : Bool :=
  x.toBits ≥ 0x8000000000000000

/-- The sign bit of a single. -/
def isNegativeSingle (x : Float32) : Bool :=
  x.toBits ≥ 0x80000000

/-- The decimal digits of a natural number. -/
def natDigits (n : Nat) : List Char :=
  Nat.toDigits 10 n

/-- The decimal written out without an exponent: no point in a whole number, and a zero before the
point of a number below one. -/
def positional (d : Decimal) : List Char :=
  let ds := natDigits d.digits
  if d.digits == 0 then ['0']
  else if 0 ≤ d.exponent then ds ++ List.replicate d.exponent.toNat '0'
  else
    let places := (-d.exponent).toNat
    if places < ds.length then ds.take (ds.length - places) ++ '.' :: ds.drop (ds.length - places)
    else '0' :: '.' :: List.replicate (places - ds.length) '0' ++ ds

/-- The text of a number of which the sign and the binary magnitude are given. -/
def signedText (negative : Bool) (b : Binary) : String :=
  let digits := if b.mantissa == 0 then ['0'] else positional (shortest .up b)
  String.ofList (if negative then '-' :: digits else digits)

/-- A double in full: never an exponent, and `NaN`, `inf`, `-inf` for what is no number. -/
def doubleText (x : Float) : String :=
  if x.isNaN then "NaN"
  else if x.isInf then (if isNegative x then "-inf" else "inf")
  else signedText (isNegative x) (ofDouble x)

/-- A single in full, with the digits that a single needs. -/
def singleText (x : Float32) : String :=
  if x.isNaN then "NaN"
  else if x.isInf then (if isNegativeSingle x then "-inf" else "inf")
  else signedText (isNegativeSingle x) (ofSingle x)

end Decimal

end SchemaCatalog
