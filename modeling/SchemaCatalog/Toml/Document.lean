import SchemaCatalog.Toml.Scalar
/-!
# TOML documents

A document is a table of named values. Its lines give values to keys and open tables under headers.
A table may be opened once; a table that is only there because something in it was opened or given
may still be opened, if no key of several parts made it. What is refused here is refused as a
whole: the reader says no more than that the text is no document.
-/

namespace SchemaCatalog.Toml

/-- How a table came to be. -/
inductive Origin where
  /-- Under a header of its own; also the document itself. -/
  | headed
  /-- As the beginning of a header. -/
  | implied
  /-- As the beginning of a key of several parts. -/
  | dotted
  /-- In braces. -/
  | inline
deriving DecidableEq, Repr

/-- A value of a document. -/
inductive Node where
  | string (text : String)
  | integer (n : Int)
  | float (x : Float)
  | boolean (b : Bool)
  /-- A date or time, as text. -/
  | datetime (text : String)
  | array (items : List Node)
  | table (origin : Origin) (members : List (String × Node))
  /-- Tables under repeated headers in double brackets. -/
  | tables (elements : List (List (String × Node)))

/-- The members of a table. -/
abbrev Members := List (String × Node)

namespace Members

/-- The value of a key. -/
def find? (ms : Members) (k : String) : Option Node :=
  ms.lookup k

/-- The members with the value of a key replaced. -/
def replace (ms : Members) (k : String) (v : Node) : Members :=
  ms.map fun (name, old) => if name = k then (name, v) else (name, old)

/-- The members with one more, if the key is free. -/
def add? (ms : Members) (k : String) (v : Node) : Option Members :=
  if (ms.find? k).isSome then none else some (ms ++ [(k, v)])

/-- Changes the table that a path leads to, which is made on the way where it is missing. A path of
keys (`dotted`) does not lead into a table that was opened under a header; a path of a header leads
into the last of repeated tables, too. -/
def within (dotted : Bool) (change : Origin → Members → Option Members) :
    List String → Origin → Members → Option Members
  | [], origin, ms => change origin ms
  | k :: path, _, ms =>
    let made := if dotted then Origin.dotted else Origin.implied
    match ms.find? k with
    | none => (within dotted change path made []).map fun sub => ms ++ [(k, .table made sub)]
    | some (.table origin sub) =>
      if origin = .inline || (dotted && origin = .headed) then none
      else (within dotted change path origin sub).map fun sub => ms.replace k (.table origin sub)
    | some (.tables elements) =>
      match elements.getLast? with
      | none => none
      | some last =>
        (within dotted change path .headed last).map fun sub =>
          ms.replace k (.tables (elements.dropLast ++ [sub]))
    | some _ => none

/-- Gives a value to the last part of a key. The parts before it must lead to a table that such
keys made. -/
def give (path : List String) (v : Node) (origin : Origin) (ms : Members) : Option Members :=
  match path.getLast? with
  | none => none
  | some k =>
    within true (fun made inner =>
      if path.length > 1 && made != .dotted then none else inner.add? k v) path.dropLast origin ms

/-- Opens a table. -/
def openTable (k : String) (ms : Members) : Option Members :=
  match ms.find? k with
  | none => some (ms ++ [(k, .table .headed [])])
  | some (.table .implied sub) => some (ms.replace k (.table .headed sub))
  | some _ => none

/-- Opens one more of the repeated tables of a key. -/
def openElement (k : String) (ms : Members) : Option Members :=
  match ms.find? k with
  | none => some (ms ++ [(k, .tables [[]])])
  | some (.tables elements) => some (ms.replace k (.tables (elements ++ [[]])))
  | some _ => none

/-- The members of a table in braces, given one after the other. Keys of several parts make tables
that only such keys extend. -/
def ofPairs : List (List String × Node) → Members → Option Members
  | [], ms => some ms
  | (path, v) :: rest, ms => (give path v .headed ms).bind (ofPairs rest)

end Members

open SchemaCatalog.Toml.Parser

/-- The items of an array after its bracket. -/
def arrayItems (item : Parser Node) : Parser (List Node) := do
  let items ← optional (separated (do gap; let v ← item; gap; pure v) (char ','))
  if items.isSome then
    let _ ← optional (char ',')
  gap
  char ']'
  pure (items.getD [])

/-- The members of a table in braces after the first brace. -/
def inlineMembers (item : Parser Node) : Parser Members := do
  let pair : Parser (List String × Node) := do
    let path ← key
    char '='
    spaces
    let v ← item
    spaces
    pure (path, v)
  let pairs ← optional (separated pair (char ','))
  spaces
  char '\x7d'
  match Members.ofPairs (pairs.getD []) [] with
  | some ms => pure ms
  | none => failure

/-- A value, nested less deep than the bound. -/
def value : Nat → Parser Node
  | 0 => failure
  | depth + 1 => do
    match ← peek with
    | some '"' | some '\'' => .string <$> string
    | some '[' =>
      if depth = 0 then failure
      else
        char '['
        .array <$> arrayItems (value depth)
    | some '\x7b' =>
      if depth = 0 then failure
      else
        char '\x7b'
        .table .inline <$> inlineMembers (value depth)
    | some 't' => word "true"; pure (.boolean true)
    | some 'f' => word "false"; pure (.boolean false)
    | _ => .datetime <$> datetime <|> .float <$> float <|> .integer <$> integer

/-- A line of a document, or a part of one. -/
inductive Line where
  | blank
  | opens (path : List String)
  | opensElement (path : List String)
  | gives (path : List String) (v : Node)

/-- A line. -/
def line : Parser Line := do
  match ← peek with
  | some '#' => comment; lineEnd; pure .blank
  | some '\n' | some '\r' => newline; pure .blank
  | some '[' =>
    char '['
    match ← peek with
    | some '[' =>
      char '['
      let path ← key
      word "]]"
      restOfLine
      pure (.opensElement path)
    | _ =>
      let path ← key
      char ']'
      restOfLine
      pure (.opens path)
  | _ =>
    let path ← key
    char '='
    spaces
    let v ← value depthLimit
    restOfLine
    pure (.gives path v)

/-- A document that is being read: its members, and the path of the table that is open. -/
structure Draft where
  members : Members
  path : List String

/-- The document with one more line. -/
def Draft.add (d : Draft) : Line → Option Draft
  | .blank => some d
  | .opens path => do
    let ms ← Members.within false (fun _ => Members.openTable (path.getLast?.getD ""))
      path.dropLast .headed d.members
    pure ⟨ms, path⟩
  | .opensElement path => do
    let ms ← Members.within false (fun _ => Members.openElement (path.getLast?.getD ""))
      path.dropLast .headed d.members
    pure ⟨ms, path⟩
  | .gives path v => do
    let ms ← Members.within false (Members.give path v) d.path .headed d.members
    pure ⟨ms, d.path⟩

/-- The lines of a document. A mark of the byte order may come first. -/
def lines : Parser (List Line) := do
  let _ ← optional (char (Char.ofNat 0xFEFF))
  spaces
  many do
    let here ← line
    spaces
    pure here

/-- The members of a document. -/
def document? (text : String) : Option Members := do
  let ls ← lines.run? text.toList
  let d ← ls.foldlM Draft.add ⟨[], []⟩
  pure d.members

end SchemaCatalog.Toml
