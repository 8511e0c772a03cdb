import SchemaCatalog.Text.Hex
import SchemaCatalog.Toml.Parser
/-!
# Blanks, keys and strings of TOML

The parts of a line: blanks and comments, keys, and the four kinds of strings. A string stands in
double quotes, with escapes, or in single quotes, without; with three quotes on each side it may go
over several lines. A line break in a string counts as a line feed however it is written.
-/

namespace SchemaCatalog.Toml

open SchemaCatalog.Toml.Parser

/-- The characters that may stand between the parts of a line. -/
def isSpace (c : Char) : Bool :=
  c = ' ' || c = '\t'

/-- Passes over blanks. -/
def spaces : Parser Unit := do
  let _ ← takeWhile isSpace

/-- The end of a line that is not the last. -/
def newline : Parser Unit := do
  let _ ← optional (char '\r')
  char '\n'

/-- A line or the text ends. -/
def lineEnd : Parser Unit :=
  newline <|> atEnd

/-- A character that may stand in comments and strings: no control character but the tab. -/
def isPrintable (c : Char) : Bool :=
  c = '\t' || (0x20 ≤ c.toNat && c.toNat ≤ 0x7E) || 0x80 ≤ c.toNat

/-- A comment up to the end of the line. -/
def comment : Parser Unit := do
  char '#'
  let _ ← takeWhile isPrintable

/-- The rest of a line, in which nothing more is said. -/
def restOfLine : Parser Unit := do
  spaces
  let _ ← optional comment
  lineEnd

/-- Blanks, line ends and comments between the items of an array. -/
def gap : Parser Unit := do
  let _ ← many ((do let _ ← takeWhile1 isSpace) <|> newline <|> (do comment; newline))

/-- The character of a code point written in so many hexadecimal digits. -/
def codePoint (digits : Nat) : Parser Char := do
  let ds ← (List.replicate digits ()).mapM fun _ => satisfy fun c => (Text.Hex.value? c).isSome
  let n := ds.foldl (fun n d => 16 * n + (Text.Hex.value? d).getD 0) 0
  if n.isValidChar then pure (Char.ofNat n) else failure

/-- The character that a backslash and what follows it stand for. -/
def escape : Parser Char := do
  char '\\'
  match ← satisfy fun _ => true with
  | 'b' => pure (Char.ofNat 0x08)
  | 't' => pure '\t'
  | 'n' => pure '\n'
  | 'f' => pure (Char.ofNat 0x0C)
  | 'r' => pure '\r'
  | '"' => pure '"'
  | '\\' => pure '\\'
  | 'u' => codePoint 4
  | 'U' => codePoint 8
  | _ => failure

/-- A character that stands for itself between double quotes. -/
def plainBasic : Parser Char :=
  satisfy fun c => isPrintable c && c != '"' && c != '\\'

/-- A character that stands for itself between single quotes. -/
def plainLiteral : Parser Char :=
  satisfy fun c => isPrintable c && c != '\''

/-- A string of one line between two quotes. -/
def oneLine (quote : Char) (item : Parser Char) : Parser String := do
  char quote
  let cs ← many item
  char quote
  pure (String.ofList cs)

/-- A backslash at the end of a line, which takes away all blanks and line ends behind it. -/
def continuation : Parser Unit := do
  char '\\'
  spaces
  newline
  let _ ← many ((do let _ ← takeWhile1 isSpace) <|> newline)

/-- The characters of a string of several lines up to the closing quotes, in at most as many pieces
as the bound has characters. One or two quotes may stand anywhere, also right before the closing
three. -/
def severalLines (quote : Char) (piece : Parser (List Char)) : List Char → Parser (List Char)
  | [] => failure
  | _ :: bound => do
    let quotes ← takeWhile (· = quote)
    if quotes.length ≥ 6 then failure
    else if quotes.length ≥ 3 then pure (quotes.drop 3)
    else
      let cs ← piece
      let rest ← severalLines quote piece bound
      pure (quotes ++ cs ++ rest)

/-- A string of several lines. A line end right after the opening quotes is left out. -/
def multiline (quote : Char) (item : Parser (List Char)) : Parser String := do
  word (String.ofList [quote, quote, quote])
  let _ ← optional newline
  let cs ← severalLines quote
    (item <|> (do newline; pure ['\n'])) (← remaining)
  pure (String.ofList cs)

/-- A piece of a string of several lines between double quotes. -/
def basicPiece : Parser (List Char) :=
  (do pure [← plainBasic]) <|> (do continuation; pure []) <|> (do pure [← escape])

/-- A piece of a string of several lines between single quotes. -/
def literalPiece : Parser (List Char) := do
  pure [← plainLiteral]

/-- A string of one line in double quotes. -/
def basicString : Parser String :=
  oneLine '"' (plainBasic <|> escape)

/-- A string of one line in single quotes. -/
def literalString : Parser String :=
  oneLine '\'' plainLiteral

/-- A string of any kind. -/
def string : Parser String := do
  match ← peek with
  | some '"' => multiline '"' basicPiece <|> basicString
  | _ => multiline '\'' literalPiece <|> literalString

/-- A character of a key without quotes. -/
def isKeyChar (c : Char) : Bool :=
  c.isAlphanum || c = '-' || c = '_'

/-- One part of a key. -/
def keyPart : Parser String := do
  match ← peek with
  | some '"' => basicString
  | some '\'' => literalString
  | _ => String.ofList <$> takeWhile1 isKeyChar

/-- How deep keys and values may go, less one. -/
def depthLimit : Nat := 80

/-- A key of one or more parts with points between them. -/
def key : Parser (List String) := do
  let parts ← separated (do spaces; let k ← keyPart; spaces; pure k) (char '.')
  if parts.length < depthLimit then pure parts else failure

end SchemaCatalog.Toml
