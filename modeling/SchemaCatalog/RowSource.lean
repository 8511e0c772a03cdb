import SchemaCatalog.ItemStream
import SchemaCatalog.Query
/-!
# Sources of rows

A source is asked statements and answers each with a stream of rows. A query is run by asking its
statements in turn and reading each answer to its end.
-/

namespace SchemaCatalog

/-- A source of rows over a state `σ`; a `κ` is a place in an answer. -/
structure RowSource (σ κ : Type) where
  /-- What kind of source it is. -/
  driverName : String
  /-- Asks a statement: the beginning of the answer, or an error. -/
  start : Statement → σ → Except Error κ × σ
  /-- The rows of the answers. -/
  answers : ItemStream σ κ Row

namespace RowSource

variable {σ κ : Type}

/-- All rows of the answer to a statement. -/
def fetchAll (source : RowSource σ κ) (statement : Statement) (s : σ) :
    Except Error (List Row) × σ :=
  match source.start statement s with
  | (.error e, s) => (.error e, s)
  | (.ok c, s) => source.answers.collect c s

end RowSource

namespace Query

variable {σ κ α : Type}

/-- What the query comes to with the given source. -/
def run (source : RowSource σ κ) : Query α → σ → Except Error α × σ
  | .done a, s => (.ok a, s)
  | .fail e, s => (.error e, s)
  | .ask statement next, s =>
    match source.fetchAll statement s with
    | (.error e, s) => (.error e, s)
    | (.ok rows, s) => (next rows).run source s

end Query

end SchemaCatalog
