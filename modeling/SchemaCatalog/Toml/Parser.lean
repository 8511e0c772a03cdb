/-!
# Parsers over characters

A parser takes something from the front of a text, or refuses. An alternative begins where the
refused parser began. Repetition has a bound: one turn for each character of the text.
-/

namespace SchemaCatalog.Toml

/-- Takes a value from the front of a text, if it can. -/
def Parser (α : Type) : Type :=
  List Char → Option (α × List Char)

namespace Parser

variable {α β : Type}

instance : Monad Parser where
  pure a := fun cs => some (a, cs)
  bind p f := fun cs => match p cs with
    | some (a, rest) => f a rest
    | none => none

instance : Alternative Parser where
  failure := fun _ => none
  orElse p q := fun cs => match p cs with
    | some r => some r
    | none => q () cs

/-- The next character, which is not taken. -/
def peek : Parser (Option Char) :=
  fun cs => some (cs.head?, cs)

/-- The next character, if it is one of those wanted. -/
def satisfy (p : Char → Bool) : Parser Char :=
  fun cs => match cs with
    | c :: rest => if p c then some (c, rest) else none
    | [] => none

/-- The character. -/
def char (c : Char) : Parser Unit := do
  let _ ← satisfy (· = c)

/-- One of the characters. -/
def oneOf (wanted : List Char) : Parser Char :=
  satisfy wanted.contains

/-- The word. -/
def word (w : String) : Parser Unit :=
  w.toList.forM char

/-- All characters up to the first that is not wanted. -/
def takeWhile (p : Char → Bool) : Parser (List Char) :=
  fun cs => some (cs.takeWhile p, cs.dropWhile p)

/-- At least one character, and all up to the first that is not wanted. -/
def takeWhile1 (p : Char → Bool) : Parser (List Char) := do
  let cs ← takeWhile p
  if cs.isEmpty then failure else pure cs

/-- The text that is left, as a bound on what can still be taken: each turn takes a character. -/
def remaining : Parser (List Char) :=
  fun cs => some (cs, cs)

/-- What the parser takes again and again, at most as often as the bound has characters. -/
def manyAtMost (p : Parser α) : List Char → Parser (List α)
  | [] => pure []
  | _ :: bound => (do
      let a ← p
      let rest ← manyAtMost p bound
      pure (a :: rest)) <|> pure []

/-- What the parser takes again and again. -/
def many (p : Parser α) : Parser (List α) := do
  manyAtMost p (← remaining)

/-- One or more, with something between them. -/
def separated (p : Parser α) (separator : Parser β) : Parser (List α) := do
  let first ← p
  let rest ← many do
    let _ ← separator
    p
  pure (first :: rest)

/-- The end of the text. -/
def atEnd : Parser Unit :=
  fun cs => if cs.isEmpty then some ((), cs) else none

/-- Reads a whole text. -/
def run? (p : Parser α) (cs : List Char) : Option α :=
  match p cs with
  | some (a, []) => some a
  | _ => none

end Parser

end SchemaCatalog.Toml
