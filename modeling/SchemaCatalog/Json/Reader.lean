import SchemaCatalog.Error
import SchemaCatalog.Json.Basic
import SchemaCatalog.Json.Number
/-!
# Reading JSON

A reader takes one thing from the front of a text and leaves the rest. What is read is decided by
the reader, not by the text: readers for values of the library's own types are put together from
those given here, and the first fault in the order of the text is the one reported. Lists and
objects are read with a bound on the number of steps: one for each character of the text.
-/

namespace SchemaCatalog.Json

/-- Why a text was not read. -/
inductive ReadFault where
  /-- The text is no JSON, or holds a value of another form than the one wanted. -/
  | malformed
  | missingMember (name : String)
  | repeatedMember (name : String)
  /-- The value was read and then turned down; `inside` says that it is a part of another one. -/
  | refused (error : Error) (inside : Bool)
deriving DecidableEq, Repr

/-- What stands before the last mention of a line, and what follows the mention. -/
def lastLine? : List Char → Option (List Char × List Char)
  | [] => none
  | c :: rest =>
    match lastLine? rest with
    | some (before, after) => some (c :: before, after)
    | none => (after? " at line ".toList (c :: rest)).map ([], ·)
where
  after? : List Char → List Char → Option (List Char)
    | [], cs => some cs
    | p :: pattern, c :: cs => if p = c then after? pattern cs else none
    | _ :: _, [] => none

/-- The text and the line of a message that ends in a position. -/
def positionAtEnd? (message : List Char) : Option (List Char × Nat) := do
  let (text, after) ← lastLine? message
  let (line, rest) := spanDigits after
  let (column, rest) := spanDigits (← lastLine?.after? " column ".toList rest)
  let fits (ds : List Char) : Bool := !ds.isEmpty && digitsValue ds < UInt64.size
  guard (rest.isEmpty && fits line && fits column)
  pure (text, digitsValue line)

/-- What stands before the last mention of a line, or all if there is none. -/
def beforeLine (message : List Char) : List Char :=
  ((lastLine? message).map (·.1)).getD message

/-- A message without the position at its end. A part of a value has a position of its own, which
comes after the message; that of a whole value may once more mention a line. -/
def withoutPosition (message : List Char) (inside : Bool) : List Char :=
  match positionAtEnd? message with
  | some (text, line) => if line = 0 && !inside then beforeLine text else text
  | none => if inside then message else beforeLine message

/-- What the fault says of the data; a text that is malformed has no message of its own. -/
def ReadFault.message? : ReadFault → Option String
  | .malformed => none
  | .missingMember name => some s!"missing field `{name}`"
  | .repeatedMember name => some s!"duplicate field `{name}`"
  | .refused error inside =>
    some (String.ofList (withoutPosition error.message.toList inside))

/-- The fault as one of a part of a value. -/
def ReadFault.within : ReadFault → ReadFault
  | .refused error _ => .refused error true
  | fault => fault

/-- Takes a value from the front of a text. -/
def Reader (α : Type) : Type :=
  List Char → Except ReadFault (α × List Char)

namespace Reader

variable {α β : Type}

instance : Monad Reader where
  pure a := fun cs => .ok (a, cs)
  bind r f := fun cs => match r cs with
    | .ok (a, rest) => f a rest
    | .error e => .error e

/-- Reads nothing. -/
def fail (fault : ReadFault) : Reader α :=
  fun _ => .error fault

/-- The characters that may stand between the parts of a value. -/
def isSpace (c : Char) : Bool :=
  c = ' ' || c = '\n' || c = '\t' || c = '\r'

/-- Passes over blanks. -/
def blanks : Reader Unit :=
  fun cs => .ok ((), cs.dropWhile isSpace)

/-- The next character after blanks, which is not taken. -/
def peek : Reader (Option Char) :=
  fun cs =>
    let rest := cs.dropWhile isSpace
    .ok (rest.head?, rest)

/-- The character, after blanks. -/
def char (c : Char) : Reader Unit :=
  fun cs => match cs.dropWhile isSpace with
    | x :: rest => if x = c then .ok ((), rest) else .error .malformed
    | [] => .error .malformed

/-- Exactly these characters. -/
def exactly : List Char → Reader Unit
  | [] => fun cs => .ok ((), cs)
  | w :: word => fun cs => match cs with
    | c :: rest => if c = w then exactly word rest else .error .malformed
    | [] => .error .malformed

/-- The word, after blanks. -/
def word (w : String) : Reader Unit :=
  fun cs => exactly w.toList (cs.dropWhile isSpace)

/-- The number of four hexadecimal digits. -/
def hex4? (a b c d : Char) : Option Nat := do
  let a ← Text.Hex.value? a
  let b ← Text.Hex.value? b
  let c ← Text.Hex.value? c
  let d ← Text.Hex.value? d
  pure (((a * 16 + b) * 16 + c) * 16 + d)

/-- The character that a backslash and this one stand for. -/
def escape? (c : Char) : Option Char :=
  if c = '"' || c = '\\' || c = '/' then some c
  else if c = 'b' then some (Char.ofNat 0x08)
  else if c = 'f' then some (Char.ofNat 0x0C)
  else if c = 'n' then some '\n'
  else if c = 'r' then some '\r'
  else if c = 't' then some '\t'
  else none

/-- The number is the first half of a pair of surrogates. -/
def isHighSurrogate (n : Nat) : Bool :=
  0xD800 ≤ n && n ≤ 0xDBFF

/-- The number is the second half of a pair of surrogates. -/
def isLowSurrogate (n : Nat) : Bool :=
  0xDC00 ≤ n && n ≤ 0xDFFF

/-- The characters up to the closing quote. A surrogate stands only in a pair. -/
def stringBody : Reader (List Char)
  | [] => .error .malformed
  | '"' :: rest => .ok ([], rest)
  | '\\' :: 'u' :: a :: b :: c :: d :: rest =>
    match hex4? a b c d with
    | none => .error .malformed
    | some n =>
      if isHighSurrogate n then
        match rest with
        | '\\' :: 'u' :: e :: f :: g :: h :: rest =>
          match hex4? e f g h with
          | none => .error .malformed
          | some m =>
            if isLowSurrogate m then
              (stringBody rest).map fun (cs, rest) =>
                (Char.ofNat (0x10000 + (n - 0xD800) * 0x400 + (m - 0xDC00)) :: cs, rest)
            else .error .malformed
        | _ => .error .malformed
      else if isLowSurrogate n then .error .malformed
      else (stringBody rest).map fun (cs, rest) => (Char.ofNat n :: cs, rest)
  | '\\' :: c :: rest =>
    match escape? c with
    | none => .error .malformed
    | some x => (stringBody rest).map fun (cs, rest) => (x :: cs, rest)
  | c :: rest =>
    if c = '\\' || c.toNat < 0x20 then .error .malformed
    else (stringBody rest).map fun (cs, rest) => (c :: cs, rest)

/-- A string in quotes. -/
def string : Reader String := do
  char '"'
  let cs ← stringBody
  pure (String.ofList cs)

/-- Passes over the rest of a string up to the closing quote; surrogates may stand alone. -/
def skipStringBody : Reader Unit
  | [] => .error .malformed
  | '"' :: rest => .ok ((), rest)
  | '\\' :: 'u' :: a :: b :: c :: d :: rest =>
    if (hex4? a b c d).isSome then skipStringBody rest else .error .malformed
  | '\\' :: c :: rest =>
    if (escape? c).isSome then skipStringBody rest else .error .malformed
  | c :: rest =>
    if c = '\\' || c.toNat < 0x20 then .error .malformed else skipStringBody rest

/-- `true` or `false`. -/
def bool : Reader Bool := do
  match ← peek with
  | some 't' => word "true"; pure true
  | some 'f' => word "false"; pure false
  | _ => fail .malformed

/-- A number as written, after blanks. -/
def numberText : Reader NumberText :=
  fun cs => match numberText? (cs.dropWhile isSpace) with
    | some r => .ok r
    | none => .error .malformed

/-- A number. -/
def number : Reader Number := do
  match (← numberText).value? with
  | some n => pure n
  | none => fail .malformed

/-- A whole number between the bounds, written without a point or an exponent. -/
def int (low high : Int) : Reader Int := do
  match ← number with
  | .int n => if low ≤ n && n ≤ high then pure n else fail .malformed
  | .real _ => fail .malformed

/-- Null, or what the reader reads. -/
def optional (r : Reader α) : Reader (Option α) := do
  match ← peek with
  | some 'n' => word "null"; pure none
  | _ => some <$> r

/-- The items of an array after its first bracket, at most as many as the bound has characters. -/
def itemsFrom (item : Reader α) (first : Bool) : List Char → Reader (List α)
  | [] => fail .malformed
  | _ :: bound => do
    match ← peek with
    | some ']' => char ']'; pure []
    | _ =>
      if !first then char ','
      let x ← item
      let xs ← itemsFrom item false bound
      pure (x :: xs)

/-- The text that is left, as a bound for what can still be read: each step takes a character. -/
def remaining : Reader (List Char) :=
  fun cs => .ok (cs, cs)

/-- The reader of a part of a value. -/
def within (r : Reader α) : Reader α :=
  fun cs => (r cs).mapError ReadFault.within

/-- An array of what the reader reads. -/
def array (item : Reader α) : Reader (List α) := do
  char '['
  itemsFrom item.within true (← remaining)

/-- The members of an object after its first brace, at most as many as the bound has characters.
Each is handed by its name to `member`, which reads the colon and the value. -/
def membersFrom (member : α → String → Reader α) (first : Bool) (acc : α) : List Char → Reader α
  | [] => fail .malformed
  | _ :: bound => do
    match ← peek with
    | some '}' => char '}'; pure acc
    | _ =>
      if !first then char ','
      let name ← string
      let acc ← member acc name
      membersFrom member false acc bound

/-- An object, read member by member. -/
def object (member : α → String → Reader α) (start : α) : Reader α := do
  char '{'
  membersFrom member true start (← remaining)

/-- Passes over one value of any form, nested at most as deep as the bound has characters. -/
def skipValue : List Char → Reader Unit
  | [] => fail .malformed
  | _ :: bound => do
    match ← peek with
    | some 'n' => word "null"
    | some 't' => word "true"
    | some 'f' => word "false"
    | some '"' => char '"'; skipStringBody
    | some '[' => char '['; skipItems (skipValue bound) true (← remaining)
    | some '{' => char '{'; skipMembers (skipValue bound) true (← remaining)
    | _ => let _ ← numberText
where
  skipItems (item : Reader Unit) (first : Bool) : List Char → Reader Unit
    | [] => fail .malformed
    | _ :: bound => do
      match ← peek with
      | some ']' => char ']'
      | _ =>
        if !first then char ','
        item
        skipItems item false bound
  skipMembers (item : Reader Unit) (first : Bool) : List Char → Reader Unit
    | [] => fail .malformed
    | _ :: bound => do
      match ← peek with
      | some '}' => char '}'
      | _ =>
        if !first then char ','
        char '"'
        skipStringBody
        char ':'
        item
        skipMembers item false bound

/-- Passes over one value of any form. -/
def skip : Reader Unit := do
  skipValue (← remaining)

/-- A value of any form as a tree, nested at most as deep as the bound has characters. -/
def treeWithin : List Char → Reader Json
  | [] => fail .malformed
  | _ :: bound => do
    match ← peek with
    | some 'n' => word "null"; pure .null
    | some 't' => word "true"; pure (.bool true)
    | some 'f' => word "false"; pure (.bool false)
    | some '"' => .string <$> string
    | some '[' => .array <$> array (treeWithin bound)
    | some '{' =>
      let members ← object (fun acc name => do
        char ':'
        let x ← treeWithin bound
        pure ((name, x) :: acc)) []
      pure (.object members.reverse)
    | _ =>
      match ← number with
      | .int n => pure (.int n)
      | .real x => pure (.real x)

/-- A value of any form as a tree. -/
def tree : Reader Json := do
  treeWithin (← remaining)

/-- Reads a whole text: only blanks may be left. -/
def run (r : Reader α) (s : String) : Except ReadFault α :=
  match r s.toList with
  | .error e => .error e
  | .ok (a, rest) => if rest.all isSpace then .ok a else .error .malformed

end Reader

end SchemaCatalog.Json
