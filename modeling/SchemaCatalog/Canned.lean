import SchemaCatalog.Cancellation
/-!
# Canned answers

A source that holds its answers ready. A statement gets the first answer that is meant for it, and
every statement is written down before it is answered. While one chosen statement is answered the
source may cancel the token that it is run under.
-/

namespace SchemaCatalog.Canned

/-- What a statement is answered with. -/
inductive Reply where
  | rows (columns : List String) (rows : List (List Value))
  | failure (message : String)

/-- A reply and the statements that it is meant for. -/
structure Response where
  /-- The text of the statement contains this. -/
  fragment : String
  /-- If given, the values of the statement's parameters. -/
  params? : Option (List Value)
  reply : Reply

/-- The first text is part of the second. -/
def isPart (part : List Char) : List Char → Bool
  | [] => part.isEmpty
  | c :: text => part.isPrefixOf (c :: text) || isPart part text

/-- The response is meant for the statement. -/
def Response.answers (r : Response) (s : Statement) : Bool :=
  isPart r.fragment.toList s.sql.toList && r.params?.all (· == s.params)

/-- The answer to a statement. -/
def answer (responses : List Response) (s : Statement) :
    Except Error (List (Except Error Row)) :=
  match responses.find? (·.answers s) with
  | some ⟨_, _, .rows columns rows⟩ => .ok (rows.map fun values => .ok ⟨columns, values⟩)
  | some ⟨_, _, .failure message⟩ => .error (.query message)
  | none => .error (.query s!"no canned result for: {s.sql}")

/-- The statements that were asked, in order. -/
abbrev Log := List Statement

/-- The source with the given responses. If `cancelOn?` is `n`, the `n`-th statement, counted from
one, cancels the token. -/
def source (responses : List Response) (cancelOn? : Option Nat) :
    RowSource (Token × Log) (List (Except Error Row)) where
  driverName := "mock"
  start statement s :=
    let log := s.2 ++ [statement]
    let token := if cancelOn? = some log.length then Token.cancelled else s.1
    (answer responses statement, (token, log))
  answers := .ofList

end SchemaCatalog.Canned
