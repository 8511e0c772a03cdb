import SchemaCatalog.Decimal.Shortest
import SchemaCatalog.Toml.Text
/-!
# Numbers, dates and times of TOML

Digits may be grouped by single underscores. Whole numbers must fit sixty-four bits with a sign. A
date or a time is checked against the calendar and the clock, and kept as the text that is usual
for it.
-/

namespace SchemaCatalog.Toml

open SchemaCatalog.Toml.Parser

/-- The number that digits of the given base stand for. -/
def digitsIn (base : Nat) (ds : List Char) : Nat :=
  ds.foldl (fun n d => base * n + (Text.Hex.value? d).getD 0) 0

/-- Digits, with single underscores between them. -/
def grouped (isDigit : Char → Bool) : Parser (List Char) := do
  let first ← satisfy isDigit
  let rest ← many (satisfy isDigit <|> (do char '_'; satisfy isDigit))
  pure (first :: rest)

/-- A sign, and whether it is a minus. -/
def sign : Parser Bool := do
  match ← optional (oneOf ['+', '-']) with
  | some c => pure (c = '-')
  | none => pure false

/-- Decimal digits, which do not begin with a zero unless it is the only one. -/
def decimalDigits : Parser (List Char) := do
  match ← peek with
  | some '0' => char '0'; pure ['0']
  | _ => grouped Char.isDigit

/-- A number that fits sixty-four bits with a sign. -/
def fitting (n : Int) : Parser Int :=
  if Int64.minValue.toInt ≤ n && n ≤ Int64.maxValue.toInt then pure n else failure

/-- A whole number after the mark of a base. -/
def based (mark : String) (base : Nat) : Parser Int := do
  word mark
  let ds ← grouped fun c => (Text.Hex.value? c).any (· < base)
  fitting (digitsIn base ds)

/-- A whole number. -/
def integer : Parser Int :=
  based "0x" 16 <|> based "0o" 8 <|> based "0b" 2 <|> do
    let negative ← sign
    let n : Int := digitsIn 10 (← decimalDigits)
    fitting (if negative then -n else n)

/-- The double nearest to the digits times a power of ten. -/
def nearestDouble (digits : Nat) (exponent : Int) : Float :=
  let top := exponent + (Decimal.natDigits digits).length
  if digits == 0 || top < -400 then 0
  else if top > 400 then Float.ofScientific 1 false 400
  else Float.ofScientific digits (exponent < 0) exponent.natAbs

/-- The exponent after its letter. -/
def exponent : Parser Int := do
  let _ ← oneOf ['e', 'E']
  let negative ← sign
  let n : Int := digitsIn 10 (← grouped Char.isDigit)
  pure (if negative then -n else n)

/-- The digits after a point. -/
def fraction : Parser (List Char) := do
  char '.'
  grouped Char.isDigit

/-- A number with a point or an exponent. Too large a number is refused if it has no minus. -/
def decimalFloat : Parser Float := do
  let negative ← sign
  let whole ← decimalDigits
  let (places, power) ← (do let e ← exponent; pure ([], e)) <|> (do
    let ds ← fraction
    let e ← optional exponent
    pure (ds, e.getD 0))
  let x := nearestDouble (digitsIn 10 (whole ++ places)) (power - places.length)
  if negative then pure (-x) else if x.isInf then failure else pure x

/-- Infinity, or what is no number. -/
def specialFloat : Parser Float := do
  let negative ← sign
  let infinity := Float.ofScientific 1 false 400
  (do word "inf"; pure (if negative then -infinity else infinity)) <|>
    (do word "nan"; pure (infinity - infinity))

/-- A number that is not whole. -/
def float : Parser Float :=
  decimalFloat <|> specialFloat

/-- The number of exactly so many digits, between two bounds. -/
def fixedDigits (count low high : Nat) : Parser Nat := do
  let ds ← (List.replicate count ()).mapM fun _ => satisfy Char.isDigit
  let n := digitsIn 10 ds
  if low ≤ n && n ≤ high then pure n else failure

/-- The number with at least so many digits. -/
def padded (width n : Nat) : String :=
  let ds := Decimal.natDigits n
  String.ofList (List.replicate (width - ds.length) '0' ++ ds)

/-- The number of days of a month. -/
def daysIn (year month : Nat) : Nat :=
  if month = 2 then
    if year % 4 = 0 && (year % 100 != 0 || year % 400 = 0) then 29 else 28
  else if [4, 6, 9, 11].contains month then 30
  else 31

/-- A date. -/
def date : Parser String := do
  let year ← fixedDigits 4 0 9999
  char '-'
  let month ← fixedDigits 2 1 12
  char '-'
  let day ← fixedDigits 2 1 (daysIn year month)
  pure s!"{padded 4 year}-{padded 2 month}-{padded 2 day}"

/-- Parts of a second: nine digits count, and zeros at the end are left out. -/
def secondFraction : Parser String := do
  char '.'
  let ds := (← takeWhile1 Char.isDigit).take 9
  let ds := (ds.reverse.dropWhile (· = '0')).reverse
  pure (if ds.isEmpty then "" else "." ++ String.ofList ds)

/-- A time of day. -/
def time : Parser String := do
  let hour ← fixedDigits 2 0 23
  char ':'
  let minute ← fixedDigits 2 0 59
  char ':'
  let second ← fixedDigits 2 0 60
  let part ← optional secondFraction
  pure (s!"{padded 2 hour}:{padded 2 minute}:{padded 2 second}" ++ part.getD "")

/-- How far a time is from the time of Greenwich. -/
def zone : Parser String :=
  (do let _ ← oneOf ['Z', 'z']; pure "Z") <|> do
    let sign ← oneOf ['+', '-']
    let hour ← fixedDigits 2 0 23
    char ':'
    let minute ← fixedDigits 2 0 59
    let sign := if hour = 0 && minute = 0 then '+' else sign
    pure s!"{sign}{padded 2 hour}:{padded 2 minute}"

/-- A date, a time, or both with or without a zone. -/
def datetime : Parser String :=
  (do
    let day ← date
    let rest ← optional do
      let _ ← oneOf ['T', 't', ' ']
      let clock ← time
      let offset ← optional zone
      pure ("T" ++ clock ++ offset.getD "")
    pure (day ++ rest.getD "")) <|> time

end SchemaCatalog.Toml
