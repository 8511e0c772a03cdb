import SchemaCatalog.Canned
import SchemaCatalog.Proofs.Runs
/-!
# What canned sources answer

A canned source answers every statement at once and with prepared rows, so what is fetched from it
can be read off its responses.
-/

namespace SchemaCatalog.Canned

/-- The state of a canned source behind a statement: the statement is written down, and the token is
cancelled if this statement was chosen for that. -/
def after (cancelOn? : Option Nat) (statement : Statement) (s : Token × Log) : Token × Log :=
  (if cancelOn? = some (s.2 ++ [statement]).length then .cancelled else s.1, s.2 ++ [statement])

theorem start_eq (responses : List Response) (cancelOn? : Option Nat) (statement : Statement)
    (s : Token × Log) :
    (source responses cancelOn?).start statement s =
      (answer responses statement, after cancelOn? statement s) := rfl

theorem fetchAll_eq (responses : List Response) (cancelOn? : Option Nat) (statement : Statement)
    (s : Token × Log) :
    (source responses cancelOn?).fetchAll statement s =
      ((answer responses statement).bind (·.mapM id), after cancelOn? statement s) := by
  rw [RowSource.fetchAll, start_eq]
  cases answer responses statement with
  | error e => rfl
  | ok items => exact ItemStream.collect_ofList items _

theorem isPart_nil (text : List Char) : isPart [] text := by
  cases text <;> rfl

/-- A response without a fragment is meant for all statements with its parameters. -/
theorem answers_of_params (params? : Option (List Value)) (reply : Reply) (statement : Statement) :
    Response.answers ⟨"", params?, reply⟩ statement = params?.all (· == statement.params) := by
  simp [Response.answers, isPart_nil]

/-! ## Two tables -/

/-- Two tables are listed in answer to any statement without parameters. -/
def listing : Response :=
  ⟨"", some [], .rows ["name", "sql"] [[.string "a", .null], [.string "b", .null]]⟩

theorem answer_listing (others : List Response) (sql : String) :
    answer (listing :: others) ⟨sql, []⟩ =
      .ok [.ok ⟨["name", "sql"], [.string "a", .null]⟩,
        .ok ⟨["name", "sql"], [.string "b", .null]⟩] := by
  simp [answer, listing, answers_of_params]

/-- What the tables are described by is left to the other responses. -/
theorem answer_behind_listing (others : List Response) (sql : String) (v : Value) :
    answer (listing :: others) ⟨sql, [v]⟩ = answer others ⟨sql, [v]⟩ := by
  simp [answer, listing, answers_of_params]

end SchemaCatalog.Canned
