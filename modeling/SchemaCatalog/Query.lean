import SchemaCatalog.Row
/-!
# Queries

A query is a finite plan: it asks statements of a source of rows, one after the other, may let later
statements depend on earlier answers, and ends with a result or an error. What it asks does not
depend on how the source answers, only on what. A statement that fails ends the query.
-/

namespace SchemaCatalog

/-- The text of a statement and the values of its parameters. -/
structure Statement where
  sql : String
  params : List Value
deriving DecidableEq

/-- A plan that asks statements and comes to an `α`. -/
inductive Query (α : Type) where
  | done (a : α)
  | fail (e : Error)
  /-- Asks a statement and goes on with all rows of the answer. -/
  | ask (s : Statement) (next : List Row → Query α)

namespace Query

variable {α β γ : Type}

/-- The rows of the answer to a statement. -/
def rows (s : Statement) : Query (List Row) :=
  .ask s .done

/-- A result that is known, or an error. -/
def ofExcept : Except Error α → Query α
  | .ok a => .done a
  | .error e => .fail e

/-- One query, and then another that depends on its result. -/
def andThen : Query α → (α → Query β) → Query β
  | .done a, f => f a
  | .fail e, _ => .fail e
  | .ask s next, f => .ask s fun rows => (next rows).andThen f

instance : Monad Query where
  pure := .done
  bind := andThen

theorem andThen_done (q : Query α) : q.andThen .done = q := by
  induction q with
  | done a => rfl
  | fail e => rfl
  | ask s next ih => simp [andThen, ih]

theorem andThen_assoc (q : Query α) (f : α → Query β) (g : β → Query γ) :
    (q.andThen f).andThen g = q.andThen fun a => (f a).andThen g := by
  induction q with
  | done a => rfl
  | fail e => rfl
  | ask s next ih => simp [andThen, ih]

instance : LawfulMonad Query :=
  LawfulMonad.mk' Query andThen_done (fun _ _ => rfl) andThen_assoc

end Query

end SchemaCatalog
