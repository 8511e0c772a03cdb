import SchemaCatalog.Proofs.RowOrder
import SchemaCatalog.Proofs.StatementsAsked
/-!
# Loading in stages

An engine with an information schema asks its four statements one after the other, and reads all rows
of an answer before it asks the next statement. The first stage that fails is the last that is begun:
its error is the only item. If no stage fails, all four statements are asked before the first table
comes out, and nothing is asked for the tables themselves (`Engine.drain_staged`).
-/

namespace SchemaCatalog

variable {σ κ α β : Type}

/-! ## Stages -/

/-- A statement, and the reading of all rows of its answer. -/
structure Stage where
  statement : Statement
  read : List Row → Except Error Unit

namespace Stage

/-- The stage that reads every row by one rule. -/
def ofEntry (statement : Statement) (entry : Row → Except Error α) : Stage where
  statement := statement
  read rows := (rows.mapM entry).map fun _ => ()

/-- Asks the statement and reads the rows of the answer. -/
def load (source : RowSource σ κ) (stage : Stage) (s : σ) : Except Error Unit × σ :=
  match source.fetchAll stage.statement s with
  | (.error e, s') => (.error e, s')
  | (.ok rows, s') => (stage.read rows, s')

/-- The first of the stages that fails: the number of those before it, and its error. -/
def firstFailure? (source : RowSource σ κ) : List Stage → σ → Option (Nat × Error)
  | [], _ => none
  | stage :: rest, s =>
    match stage.load source s with
    | (.error e, _) => some (0, e)
    | (.ok _, s') => (firstFailure? source rest s').map fun (n, e) => (n + 1, e)

variable {source : RowSource σ κ} {stage : Stage} {rest : List Stage} {s s' : σ} {e : Error}

theorem firstFailure?_cons_error (h : stage.load source s = (.error e, s')) :
    firstFailure? source (stage :: rest) s = some (0, e) := by
  rw [firstFailure?, h]

theorem firstFailure?_cons_ok (h : stage.load source s = (.ok (), s')) :
    firstFailure? source (stage :: rest) s =
      (firstFailure? source rest s').map fun (n, e) => (n + 1, e) := by
  rw [firstFailure?, h]

theorem firstFailure?_lt {stages : List Stage} {n : Nat}
    (h : firstFailure? source stages s = some (n, e)) : n < stages.length := by
  induction stages generalizing s n with
  | nil => cases h
  | cons stage rest ih =>
    rcases hload : stage.load source s with ⟨e' | _, s'⟩
    · rw [firstFailure?_cons_error hload] at h
      cases h
      exact Nat.succ_pos _
    · rw [firstFailure?_cons_ok hload] at h
      obtain ⟨⟨m, _⟩, hrest, hm⟩ := Option.map_eq_some_iff.1 h
      cases hm
      exact Nat.succ_lt_succ (ih hrest)

end Stage

/-! ## Queries in stages -/

namespace Query

/-- The query loads the stages one after the other, and then it is done. What is gathered from an
answer fails exactly as the reading of its rows does. -/
inductive Staged : List Stage → Query α → Prop
  | done (a : α) : Staged [] (.done a)
  | next {γ : Type} {stage : Stage} {rest : List Stage} {gather : List Row → Except Error γ}
      {f : γ → Query α} :
      (∀ rows, (gather rows).map (fun _ => ()) = stage.read rows) → (∀ c, Staged rest (f c)) →
      Staged (stage :: rest) (.ask stage.statement fun rows => (ofExcept (gather rows)).andThen f)

namespace Staged

section Step
variable {γ : Type} {source : RowSource σ κ} {stage : Stage} {gather : List Row → Except Error γ}
  {s s' : σ} (hread : ∀ rows, (gather rows).map (fun _ => ()) = stage.read rows)
  (f : γ → Query α)

include hread

/-- A stage that fails ends the query with its statement. -/
theorem step_error {e : Error} (h : stage.load source s = (.error e, s')) :
    let q : Query α := .ask stage.statement fun rows => (ofExcept (gather rows)).andThen f
    (q.run source s).1 = .error e ∧ q.statements source s = [stage.statement] := by
  intro q
  rw [Stage.load] at h
  rcases hfetch : source.fetchAll stage.statement s with ⟨e' | rows, u⟩ <;>
    simp only [hfetch, ← hread] at h
  · cases h
    simp only [q, run, statements, hfetch]
    exact ⟨trivial, trivial⟩
  · cases hgather : gather rows with
    | error e' =>
      rw [hgather] at h
      cases h
      simp only [q, run, statements, hfetch, hgather]
      exact ⟨rfl, rfl⟩
    | ok c =>
      rw [hgather] at h
      cases h

/-- Behind a stage that is loaded the query goes on with what was gathered. -/
theorem step_ok (h : stage.load source s = (.ok (), s')) :
    let q : Query α := .ask stage.statement fun rows => (ofExcept (gather rows)).andThen f
    ∃ c, q.run source s = (f c).run source s' ∧
      q.statements source s = stage.statement :: (f c).statements source s' := by
  intro q
  rw [Stage.load] at h
  rcases hfetch : source.fetchAll stage.statement s with ⟨e' | rows, u⟩ <;>
    simp only [hfetch, ← hread] at h
  · cases h
  · cases hgather : gather rows with
    | error e' =>
      rw [hgather] at h
      cases h
    | ok c =>
      rw [hgather] at h
      cases h
      refine ⟨c, ?_⟩
      simp only [q, run, statements, hfetch, hgather]
      exact ⟨rfl, rfl⟩

end Step

variable {source : RowSource σ κ} {stages : List Stage} {q : Query α} {s : σ}

/-- What is made of the result does not matter. -/
theorem map (h : Staged stages q) (f : α → β) : Staged stages (q.andThen fun a => .done (f a)) := by
  induction h with
  | done a => exact .done (f a)
  | next hread _ ih =>
    simp only [andThen, andThen_assoc]
    exact .next hread ih

/-- A query fails with the first of its stages that fails, and behind that stage it asks nothing. -/
theorem run_of_failure (h : Staged stages q) {n : Nat} {e : Error}
    (hfails : Stage.firstFailure? source stages s = some (n, e)) :
    (q.run source s).1 = .error e ∧
      q.statements source s = (stages.map (·.statement)).take (n + 1) := by
  induction h generalizing s n with
  | done a => cases hfails
  | @next _ stage rest gather f hread _ ih =>
    rcases hload : stage.load source s with ⟨e' | _, s'⟩
    · rw [Stage.firstFailure?_cons_error hload] at hfails
      cases hfails
      exact step_error hread f hload
    · rw [Stage.firstFailure?_cons_ok hload] at hfails
      obtain ⟨⟨m, _⟩, hrest, hm⟩ := Option.map_eq_some_iff.1 hfails
      cases hm
      obtain ⟨c, hrun, hstatements⟩ := step_ok hread f hload
      obtain ⟨herror, hasked⟩ := ih c hrest
      rw [hrun, hstatements, hasked]
      exact ⟨herror, rfl⟩

/-- A query none of whose stages fails comes to a result and asks all statements. -/
theorem run_of_loaded (h : Staged stages q) (hloads : Stage.firstFailure? source stages s = none) :
    (∃ a, (q.run source s).1 = .ok a) ∧
      q.statements source s = stages.map (·.statement) := by
  induction h generalizing s with
  | done a => exact ⟨⟨a, rfl⟩, rfl⟩
  | @next _ stage rest gather f hread _ ih =>
    rcases hload : stage.load source s with ⟨e' | _, s'⟩
    · rw [Stage.firstFailure?_cons_error hload] at hloads
      cases hloads
    · rw [Stage.firstFailure?_cons_ok hload] at hloads
      obtain ⟨c, hrun, hstatements⟩ := step_ok hread f hload
      obtain ⟨hok, hasked⟩ := ih c (Option.map_eq_none_iff.1 hloads)
      rw [hrun, hstatements, hasked]
      exact ⟨hok, rfl⟩

end Staged

end Query

/-! ## The stages of an information schema -/

namespace InformationSchema.Dialect

variable (d : Dialect) (naming : Naming) (schemas : List String)

/-- The table listing, the primary keys, the foreign keys and the columns. -/
def stages : List Stage := [
  .ofEntry ⟨d.tablesSql naming schemas, schemas.map .string⟩ (tableEntry d.listing),
  .ofEntry ⟨primaryKeysSql, []⟩ primaryKeyEntry,
  .ofEntry ⟨foreignKeysSql, []⟩ foreignKeyEntry,
  .ofEntry ⟨d.columnsSql, []⟩ d.columnEntry]

theorem stages_statement :
    (d.stages naming schemas).map (·.statement) = d.statements naming schemas := rfl

/-- Gathering what was read does not fail. -/
theorem map_gather {x : Except Error α} {f : α → β} :
    (do let a ← x; pure (f a)).map (fun _ => ()) = x.map fun _ => () := by
  cases x <;> rfl

theorem staged_snapshot : (d.snapshot naming schemas).Staged (d.stages naming schemas) :=
  .next (fun _ => rfl) fun _ => .next (fun _ => map_gather) fun _ =>
    .next (fun _ => map_gather) fun _ => .next (fun _ => map_gather) fun _ => .done _

end InformationSchema.Dialect

namespace Engine

variable {e : Engine} {d : InformationSchema.Dialect} {options : ExtractOptions} {naming : Naming}
  {source : RowSource σ κ}

theorem staged_tables (hd : e.dialect? = some d) :
    (e.tables options naming).Staged (d.stages naming options.schemas) := by
  cases e with
  | postgres =>
    cases hd
    exact (InformationSchema.Dialect.staged_snapshot _ _ _).map _
  | sqlServer =>
    cases hd
    exact (InformationSchema.Dialect.staged_snapshot _ _ _).map _
  | sqlite => cases hd

/-- The items are known before the first of them is pulled. -/
theorem ensures_known (hd : e.dialect? = some d) : (e.tables options naming).Ensures
    fun queries => ∃ items : List (Except Error Table), queries = items.map Query.ofExcept := by
  cases e with
  | postgres => exact Query.ensures_then fun _ => ⟨_, rfl⟩
  | sqlServer => exact Query.ensures_then fun _ => ⟨_, rfl⟩
  | sqlite => cases hd

/-- If a stage fails, the error of the first one that does is all that comes out, and the statements up
to the one of that stage are all that is asked. If none fails, all four are asked before the first item
is pulled, and nothing is asked behind them, whatever becomes of the tables. Only the first statement
has parameters: the schemas, in their order. -/
theorem drain_staged (hd : e.dialect? = some d) (s : σ) (log : List Statement) :
    (d.statements naming options.schemas).map (·.params) =
        [options.schemas.map .string, [], [], []] ∧
      (∀ n err,
        Stage.firstFailure? source (d.stages naming options.schemas) s = some (n, err) →
        n < 4 ∧ ((e.tables options naming).drain source.logged (s, log)).1 = [.error err] ∧
          ((e.tables options naming).drain source.logged (s, log)).2.2 =
            log ++ (d.statements naming options.schemas).take (n + 1)) ∧
      (Stage.firstFailure? source (d.stages naming options.schemas) s = none →
        ∃ (items : List (Except Error Table)) (s' : σ),
          (e.tables options naming).run source.logged (s, log) =
            (.ok (items.map Query.ofExcept),
              (s', log ++ d.statements naming options.schemas)) ∧
          (e.tables options naming).drain source.logged (s, log) =
            (upToError items, (s', log ++ d.statements naming options.schemas))) := by
  have hstaged : (e.tables options naming).Staged (d.stages naming options.schemas) :=
    staged_tables hd
  refine ⟨rfl, fun n err hfails => ?_, fun hloads => ?_⟩
  · obtain ⟨herror, hasked⟩ := hstaged.run_of_failure hfails
    rw [InformationSchema.Dialect.stages_statement] at hasked
    have hrun := Query.run_logged_of_run (Prod.ext herror rfl) log
    rw [TableStream.drain_of_error _ hrun, hasked]
    exact ⟨Stage.firstFailure?_lt hfails, rfl, rfl⟩
  · obtain ⟨⟨queries, hok⟩, hasked⟩ := hstaged.run_of_loaded hloads
    rw [InformationSchema.Dialect.stages_statement] at hasked
    obtain ⟨items, rfl⟩ := Query.run_ensures source (ensures_known hd) hok
    have hrun := Query.run_logged_of_run (Prod.ext hok rfl) log
    rw [hasked] at hrun
    refine ⟨items, _, hrun, ?_⟩
    rw [TableStream.drain_of_ok _ hrun, drain_tables_ofExcept]

/-! ## A stage that fails over another table -/

/-- One table is listed. The row about a foreign key is about another table, and it does not count from
one. -/
def misnumbered : List (List Row) := [
  [⟨["table_schema", "table_name"], [.string "m", .string "t"]⟩],
  [],
  [⟨["constraint_name", "ordinal_position"], [.string "f", .int64 0]⟩]]

theorem load_inTurn {stage : Stage} {rows : List Row} {result : Except Error Unit}
    (h : stage.read rows = result) (rest : List (List Row)) :
    stage.load .inTurn (rows :: rest) = (result, rest) := by
  simp only [Stage.load, RowSource.fetchAll_inTurn, h]

theorem firstFailure?_misnumbered :
    Stage.firstFailure? .inTurn (Postgres.dialect.stages .postgres []) misnumbered =
      some (2, .inconsistent (.ordinalNotOneBased "foreign_keys" "ordinal_position" 0)) := by
  rw [InformationSchema.Dialect.stages, misnumbered,
    Stage.firstFailure?_cons_ok (load_inTurn rfl _), Stage.firstFailure?_cons_ok (load_inTurn rfl _),
    Stage.firstFailure?_cons_error (load_inTurn rfl _)]
  rfl

theorem firstFailure?_interleaved :
    Stage.firstFailure? .inTurn (Postgres.dialect.stages .postgres []) interleaved = none := by
  rw [InformationSchema.Dialect.stages, interleaved,
    Stage.firstFailure?_cons_ok (load_inTurn rfl _), Stage.firstFailure?_cons_ok (load_inTurn rfl _),
    Stage.firstFailure?_cons_ok (load_inTurn rfl _), Stage.firstFailure?_cons_ok (load_inTurn rfl _)]
  rfl

/-- The columns are not asked for behind the foreign keys that cannot be read. Where all can be read,
four statements are asked, although the third table fails. -/
theorem drain_staged_inTurn :
    ((postgres.tables {} .postgres).drain RowSource.inTurn.logged (misnumbered, [])).1 =
        [.error (.inconsistent (.ordinalNotOneBased "foreign_keys" "ordinal_position" 0))] ∧
      ((postgres.tables {} .postgres).drain RowSource.inTurn.logged (misnumbered, [])).2.2 =
        [⟨Postgres.tablesSql .postgres [], []⟩, ⟨InformationSchema.primaryKeysSql, []⟩,
          ⟨InformationSchema.foreignKeysSql, []⟩] ∧
      ((postgres.tables {} .postgres).drain RowSource.inTurn.logged (interleaved, [])).2.2 =
        [⟨Postgres.tablesSql .postgres [], []⟩, ⟨InformationSchema.primaryKeysSql, []⟩,
          ⟨InformationSchema.foreignKeysSql, []⟩, ⟨Postgres.columnsSql, []⟩] := by
  have staged := @drain_staged _ _ postgres Postgres.dialect {} .postgres .inTurn rfl
  obtain ⟨-, hfails, -⟩ := staged misnumbered []
  obtain ⟨-, hitems, hlog⟩ := hfails _ _ firstFailure?_misnumbered
  obtain ⟨-, -, hloads⟩ := staged interleaved []
  obtain ⟨items, s', -, hdrain⟩ := hloads firstFailure?_interleaved
  refine ⟨hitems, hlog, ?_⟩
  rw [hdrain]
  rfl

end Engine

end SchemaCatalog
