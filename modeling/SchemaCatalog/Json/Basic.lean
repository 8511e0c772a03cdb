import SchemaCatalog.Decimal.Shortest
import SchemaCatalog.Text.Hex
/-!
# JSON values and their text

A JSON value as a tree, and the two texts of it: on one line, or over several lines with two
spaces for each level. In strings only the quote, the backslash and the characters below U+0020
are escaped.
-/

namespace SchemaCatalog

/-- A JSON value. The members of an object keep their order. -/
inductive Json where
  | null
  | bool (b : Bool)
  | int (n : Int)
  | real (x : Float)
  | string (text : String)
  | array (items : List Json)
  | object (members : List (String × Json))

namespace Json

/-- A character as it stands between quotes. -/
def escapeChar (c : Char) : List Char :=
  if c = '"' then ['\\', '"']
  else if c = '\\' then ['\\', '\\']
  else if c.toNat < 0x20 then
    if c = '\n' then ['\\', 'n']
    else if c = '\r' then ['\\', 'r']
    else if c = '\t' then ['\\', 't']
    else if c.toNat = 0x08 then ['\\', 'b']
    else if c.toNat = 0x0C then ['\\', 'f']
    else ['\\', 'u', '0', '0', Text.Hex.digit (c.toNat / 16), Text.Hex.digit (c.toNat % 16)]
  else [c]

/-- The text in quotes. -/
def quote (s : String) : List Char :=
  '"' :: s.toList.flatMap escapeChar ++ ['"']

/-- The digits of an integer. -/
def intText (n : Int) : List Char :=
  match n with
  | .ofNat m => Decimal.natDigits m
  | .negSucc m => '-' :: Decimal.natDigits (m + 1)

/-- A finite double as its shortest digits and an exponent; what is no number is null. -/
def realText (x : Float) : List Char :=
  if x.isNaN || x.isInf then "null".toList
  else
    let b := Decimal.ofDouble x
    let d := if b.mantissa == 0 then ⟨0, 0⟩ else Decimal.shortest .even b
    let digits := Decimal.natDigits d.digits ++ 'e' :: intText d.exponent
    if Decimal.isNegative x then '-' :: digits else digits

/-- What stands before an item: nothing in a text of one line, otherwise a new line at the given
depth. -/
def lineBreak : Option Nat → List Char
  | none => []
  | some depth => '\n' :: List.replicate (2 * depth) ' '

/-- What stands between the name and the value of a member. -/
def colon : Option Nat → List Char
  | none => [':']
  | some _ => [':', ' ']

mutual

/-- The text of a value at the given depth of a text of several lines, or of a text of one line. -/
def write (depth : Option Nat) : Json → List Char
  | .null => "null".toList
  | .bool b => if b then "true".toList else "false".toList
  | .int n => intText n
  | .real x => realText x
  | .string s => quote s
  | .array [] => ['[', ']']
  | .array (x :: xs) =>
    '[' :: lineBreak (depth.map (· + 1)) ++ write (depth.map (· + 1)) x ++
      writeItems (depth.map (· + 1)) xs ++ lineBreak depth ++ [']']
  | .object [] => ['{', '}']
  | .object ((k, x) :: ms) =>
    '{' :: lineBreak (depth.map (· + 1)) ++ quote k ++ colon depth ++
      write (depth.map (· + 1)) x ++ writeMembers (depth.map (· + 1)) ms ++ lineBreak depth ++ ['}']

/-- The items after the first, each after a comma. -/
def writeItems (depth : Option Nat) : List Json → List Char
  | [] => []
  | x :: xs => ',' :: lineBreak depth ++ write depth x ++ writeItems depth xs

/-- The members after the first, each after a comma. -/
def writeMembers (depth : Option Nat) : List (String × Json) → List Char
  | [] => []
  | (k, x) :: ms =>
    ',' :: lineBreak depth ++ quote k ++ colon depth ++ write depth x ++ writeMembers depth ms

end

/-- The text on one line, without blanks. -/
def compact (j : Json) : String :=
  String.ofList (write none j)

/-- The text over several lines. -/
def pretty (j : Json) : String :=
  String.ofList (write (some 0) j)

/-- A value that may be absent, absence being null. -/
def ofOption {α : Type} (f : α → Json) : Option α → Json
  | none => .null
  | some a => f a

/-- The member of that name, the last one if there are several. -/
def member? (j : Json) (name : String) : Option Json :=
  match j with
  | .object members => (members.reverse.find? (·.1 == name)).map (·.2)
  | _ => none

end Json

end SchemaCatalog
