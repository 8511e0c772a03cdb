import SchemaCatalog.Engine
import SchemaCatalog.Proofs.CannedAnswers
/-!
# The statements that are asked

A source can be made to write down every statement that reaches it, which changes nothing else
(`Query.run_logged`). SQLite is asked about one table after the other, and the record shows which
statements are asked behind an error: none if the tables are collected
(`Sqlite.FailingRun.collect_tables`), but those of one more table if the items are pulled until
there are none (`Sqlite.FailingRun.drain_tables`).
-/

namespace SchemaCatalog

variable {σ κ α β : Type}

/-! ## The record of a source -/

namespace ItemStream

/-- The stream with something else beside its state. -/
def beside (τ : Type) (t : ItemStream σ κ α) : ItemStream (σ × τ) κ α where
  next c s := ((t.next c s.1).1, (t.next c s.1).2.1, ((t.next c s.1).2.2, s.2))
  left := t.left
  left_next := by
    intro c c' s s' item h
    simp only [Prod.mk.injEq] at h
    obtain ⟨hitem, hplace, -⟩ := h
    rw [← hplace]
    exact t.left_next (Prod.ext hitem rfl)

theorem collect_beside {τ : Type} (t : ItemStream σ κ α) (c : κ) (s : σ) (x : τ) :
    (t.beside τ).collect c (s, x) = ((t.collect c s).1, ((t.collect c s).2, x)) := by
  induction c, s using t.pull_induction with
  | h c s ih =>
    have hbeside : (t.beside τ).next c (s, x) =
        ((t.next c s).1, (t.next c s).2.1, ((t.next c s).2.2, x)) := rfl
    rcases hnext : t.next c s with ⟨_ | ⟨e | a⟩, c', s'⟩ <;> rw [hnext] at hbeside
    · rw [collect_of_end _ hbeside, collect_of_end _ hnext]
    · rw [collect_of_error _ hbeside, collect_of_error _ hnext]
    · rw [collect_of_ok _ hbeside, collect_of_ok _ hnext, ih _ c' s' hnext]

end ItemStream

/-- The source with a record of the statements that it is asked. -/
def RowSource.logged (source : RowSource σ κ) : RowSource (σ × List Statement) κ where
  driverName := source.driverName
  start statement s :=
    ((source.start statement s.1).1, ((source.start statement s.1).2, s.2 ++ [statement]))
  answers := source.answers.beside (List Statement)

theorem RowSource.fetchAll_logged (source : RowSource σ κ) (statement : Statement) (s : σ)
    (log : List Statement) :
    source.logged.fetchAll statement (s, log) =
      ((source.fetchAll statement s).1, ((source.fetchAll statement s).2, log ++ [statement])) := by
  have hstart : source.logged.start statement (s, log) =
      ((source.start statement s).1, ((source.start statement s).2, log ++ [statement])) := rfl
  rcases h : source.start statement s with ⟨e | c, s'⟩ <;> rw [h] at hstart <;>
    simp only [fetchAll, hstart, h]
  exact ItemStream.collect_beside source.answers c s' _

namespace Query

/-- The statements that the query asks, to the end or to the one that fails. -/
def statements (source : RowSource σ κ) : Query α → σ → List Statement
  | .done _, _ => []
  | .fail _, _ => []
  | .ask statement next, s =>
    statement :: match source.fetchAll statement s with
      | (.error _, _) => []
      | (.ok rows, s') => (next rows).statements source s'

/-- A query that begins with a statement asks it first. -/
theorem statements_rows_bind (source : RowSource σ κ) (statement : Statement)
    (f : List Row → Query α) (s : σ) :
    ∃ others, (rows statement >>= f).statements source s = statement :: others := by
  show ∃ others, ((rows statement).andThen f).statements source s = _
  simp only [rows, andThen, statements, List.cons.injEq, true_and, exists_eq']

/-- A query whose first statement fails asks no other. -/
theorem statements_rows_bind_error {source : RowSource σ κ} {statement : Statement}
    {f : List Row → Query α} {s s' : σ} {e : Error}
    (h : source.fetchAll statement s = (.error e, s')) :
    (rows statement >>= f).statements source s = [statement] := by
  show ((rows statement).andThen f).statements source s = _
  simp only [rows, andThen, statements, h]

/-- A query runs as ever over a source that keeps a record, and its statements are recorded. -/
theorem run_logged (source : RowSource σ κ) (q : Query α) (s : σ) (log : List Statement) :
    q.run source.logged (s, log) =
      ((q.run source s).1, ((q.run source s).2, log ++ q.statements source s)) := by
  induction q generalizing s log with
  | done a => simp [run, statements]
  | fail e => simp [run, statements]
  | ask statement next ih =>
    simp only [run, statements, source.fetchAll_logged]
    rcases h : source.fetchAll statement s with ⟨e | rows, s'⟩
    · rfl
    · simp only [ih, List.append_assoc, List.singleton_append]

theorem run_logged_of_run {source : RowSource σ κ} {q : Query α} {s s' : σ}
    {result : Except Error α} (h : q.run source s = (result, s')) (log : List Statement) :
    q.run source.logged (s, log) = (result, (s', log ++ q.statements source s)) := by
  rw [run_logged, h]

end Query

/-! ## Streams that come to an error -/

namespace TableStream

variable {source : RowSource σ κ} {f : β → Query Table}

/-- The tables in front come out first, and then what is left is drained. -/
theorem drain_stopped_of_mapM {before : List β} {ts : List Table} {s s' : σ}
    (h : (before.mapM f).run source s = (.ok ts, s')) (rest : List (Query Table)) :
    (tables source).stopAfterError.drain (before.map f ++ rest, false) s =
      (ts.map .ok ++ ((tables source).stopAfterError.drain (rest, false) s').1,
        ((tables source).stopAfterError.drain (rest, false) s').2) := by
  induction before generalizing ts s with
  | nil =>
    cases h
    rfl
  | cons b before ih =>
    obtain ⟨t, ts', u, hb, hbefore, rfl⟩ := Query.run_mapM_cons_ok source h
    rw [List.map_cons, List.cons_append, drain_stopped_ok source hb, ih hbefore]
    rfl

/-- An error among the items is that of the first query that fails. -/
theorem exists_failing_of_mem_drain {l : List β} {e : Error} {s : σ}
    (h : .error e ∈ ((tables source).stopAfterError.drain (l.map f, false) s).1) :
    ∃ before failing after ts s₁ s₂, l = before ++ failing :: after ∧
      (before.mapM f).run source s = (.ok ts, s₁) ∧ (f failing).run source s₁ = (.error e, s₂) := by
  induction l generalizing s with
  | nil =>
    rw [List.map_nil, drain_stopped_nil] at h
    cases h
  | cons b rest ih =>
    rw [List.map_cons] at h
    rcases hb : (f b).run source s with ⟨e' | t, s'⟩
    · rw [drain_stopped_error source hb, List.mem_singleton] at h
      cases h
      exact ⟨[], b, rest, [], s, s', rfl, rfl, hb⟩
    · rw [drain_stopped_ok source hb] at h
      obtain ⟨before, failing, after, ts, s₁, s₂, rfl, hbefore, hfails⟩ :=
        ih ((List.mem_cons.1 h).resolve_left nofun)
      refine ⟨b :: before, failing, after, t :: ts, s₁, s₂, rfl, ?_, hfails⟩
      rw [List.mapM_cons, Query.run_bind_ok source hb, Query.run_bind_ok source hbefore,
        Query.run_pure]

/-- Collecting goes on behind the tables in front. -/
theorem collect_stopped_of_mapM {before : List β} {ts : List Table} {s s' : σ}
    (h : (before.mapM f).run source s = (.ok ts, s')) (rest : List (Query Table)) :
    (tables source).stopAfterError.collect (before.map f ++ rest, false) s =
      (((tables source).stopAfterError.collect (rest, false) s').1.map (ts ++ ·),
        ((tables source).stopAfterError.collect (rest, false) s').2) := by
  induction before generalizing ts s with
  | nil =>
    cases h
    show (tables source).stopAfterError.collect (rest, false) s' = _
    rcases (tables source).stopAfterError.collect (rest, false) s' with ⟨e | found, t⟩ <;> rfl
  | cons b before ih =>
    obtain ⟨t, ts', u, hb, hbefore, rfl⟩ := Query.run_mapM_cons_ok source h
    rw [List.map_cons, List.cons_append,
      ItemStream.collect_of_ok _ (ItemStream.stopAfterError_next_ok _ (by rw [tables_next, hb])),
      ih hbefore]
    cases ((tables source).stopAfterError.collect (rest, false) s').1 <;> rfl

end TableStream

/-! ## SQLite -/

namespace Sqlite

/-- A run in which the tables are listed, some of them come out, and then one fails. -/
structure FailingRun (options : ExtractOptions) (naming : Naming) (source : RowSource σ κ) where
  start : σ
  rows : List Row
  /-- The state behind the listing. -/
  listed : σ
  before : List Listed
  found : List Table
  /-- The state in which the failing table is asked for. -/
  reached : σ
  failing : Listed
  error : Error
  /-- The state behind the failing table. -/
  stopped : σ
  after : List Listed
  wanted : includesMain options
  fetch_rows : source.fetchAll ⟨tablesSql, []⟩ start = (.ok rows, listed)
  read_rows : rows.mapM tableEntry = .ok (before ++ failing :: after)
  run_before : (before.mapM (table naming)).run source listed = (.ok found, reached)
  run_failing : (table naming failing).run source reached = (.error error, stopped)

variable {options : ExtractOptions} {naming : Naming} {source : RowSource σ κ}

namespace FailingRun

variable (r : FailingRun options naming source)

/-- The listing, and the statements of the tables up to the one that fails. -/
def statements : List Statement :=
  ⟨tablesSql, []⟩ :: ((r.before.mapM (table naming)).statements source r.listed ++
    (table naming r.failing).statements source r.reached)

/-- The statements of the table behind the one that fails, if there is one. -/
def statementsBehind : List Statement :=
  match r.after with
  | [] => []
  | next :: _ => (table naming next).statements source r.stopped

end FailingRun

/-- An error in a run is that of the listing or that of the first table that fails. -/
theorem exists_failingRun_of_mem_drain {e : Error} {s : σ}
    (h : .error e ∈ ((tables options naming).drain source s).1) :
    ((tables options naming).run source s).1 = .error e ∨
      ∃ r : FailingRun options naming source, r.start = s ∧ r.error = e := by
  rcases hrun : (tables options naming).run source s with ⟨e' | queries, s'⟩
  · rw [TableStream.drain_of_error source hrun, List.mem_singleton] at h
    cases h
    exact .inl rfl
  · refine .inr ?_
    rw [TableStream.drain_of_ok source hrun] at h
    unfold tables at hrun
    split at hrun
    · rename_i wanted
      rw [Query.run_bind, Query.run_rows] at hrun
      rcases fetch_rows : source.fetchAll ⟨tablesSql, []⟩ s with ⟨e' | rows, listed⟩ <;>
        rw [fetch_rows] at hrun
      · cases hrun
      · simp only [Query.run_bind, Query.run_ofExcept] at hrun
        cases read_rows : rows.mapM tableEntry with
        | error e' =>
          rw [read_rows] at hrun
          cases hrun
        | ok entries =>
          rw [read_rows] at hrun
          cases hrun
          obtain ⟨before, failing, after, found, reached, stopped, rfl, run_before, run_failing⟩ :=
            TableStream.exists_failing_of_mem_drain h
          exact ⟨⟨s, rows, _, before, found, reached, failing, e, stopped, after, wanted,
            fetch_rows, read_rows, run_before, run_failing⟩, rfl, rfl⟩
    · cases hrun
      rw [TableStream.drain_stopped_nil] at h
      cases h

/-- A table begins with the statement for its columns. -/
theorem statements_table (naming : Naming) (source : RowSource σ κ) (l : Listed) (s : σ) :
    ∃ others, (table naming l).statements source s =
      ⟨columnsSql naming, [.string l.name]⟩ :: others :=
  Query.statements_rows_bind source _ _ s

namespace FailingRun

variable (r : FailingRun options naming source) (log : List Statement)

theorem statementsBehind_eq_nil_iff : r.statementsBehind = [] ↔ r.after = [] := by
  unfold statementsBehind
  cases r.after with
  | nil => simp
  | cons next rest =>
    obtain ⟨others, hnext⟩ := statements_table naming source next r.stopped
    simp [hnext]

theorem run_tables :
    (tables options naming).run source.logged (r.start, log) =
      (.ok (r.before.map (table naming) ++ table naming r.failing :: r.after.map (table naming)),
        (r.listed, log ++ [⟨tablesSql, []⟩])) := by
  rw [tables, if_pos r.wanted,
    Query.run_bind_ok _ (by rw [Query.run_rows, RowSource.fetchAll_logged, r.fetch_rows]),
    Query.run_bind_ok _ (by rw [Query.run_ofExcept, r.read_rows]), Query.run_pure,
    List.map_append, List.map_cons]

/-- The tables in front come out and their statements are recorded. -/
theorem run_before_logged :
    (r.before.mapM (table naming)).run source.logged (r.listed, log ++ [⟨tablesSql, []⟩]) =
      (.ok r.found, (r.reached, log ++ [⟨tablesSql, []⟩] ++
        (r.before.mapM (table naming)).statements source r.listed)) :=
  Query.run_logged_of_run r.run_before _

/-- Up to the error the statements are those of the run. -/
theorem run_failing_logged :
    (table naming r.failing).run source.logged (r.reached, log ++ [⟨tablesSql, []⟩] ++
        (r.before.mapM (table naming)).statements source r.listed) =
      (.error r.error, (r.stopped, log ++ r.statements)) := by
  rw [Query.run_logged_of_run r.run_failing]
  simp [statements]

theorem drain_tables :
    ((tables options naming).drain source.logged (r.start, log)).1 =
        r.found.map .ok ++ [.error r.error] ∧
      ((tables options naming).drain source.logged (r.start, log)).2.2 =
        log ++ r.statements ++ r.statementsBehind := by
  rw [TableStream.drain_of_ok _ (r.run_tables log),
    TableStream.drain_stopped_of_mapM (r.run_before_logged log),
    TableStream.drain_stopped_error _ (r.run_failing_logged log)]
  refine ⟨rfl, ?_⟩
  -- The pull behind the error asks for the next table, if there is one, and drops it.
  unfold statementsBehind
  cases r.after with
  | nil => simp
  | cons next rest => simp [Query.run_logged]

theorem collect_tables :
    (tables options naming).collect source.logged (r.start, log) =
      (.error r.error, (r.stopped, log ++ r.statements)) := by
  have hfails := ItemStream.stopAfterError_next_error (TableStream.tables source.logged)
    (c := table naming r.failing :: r.after.map (table naming)) (by
      rw [TableStream.tables_next, r.run_failing_logged log])
  rw [TableStream.collect, r.run_tables log]
  simp only [TableStream.collect_stopped_of_mapM (r.run_before_logged log),
    ItemStream.collect_of_error _ hfails]
  rfl

/-- When the items of a run that fails are pulled to the end, the statements of the table behind the
failing one are asked as well. So nothing is asked behind the error exactly if the failing table is
the last one; a run that collects the tables asks nothing behind the error in any case. -/
theorem statements_asked :
    ((tables options naming).drain source.logged (r.start, log)).1 =
        r.found.map .ok ++ [.error r.error] ∧
      ((tables options naming).drain source.logged (r.start, log)).2.2 =
        log ++ r.statements ++ r.statementsBehind ∧
      (((tables options naming).drain source.logged (r.start, log)).2.2 = log ++ r.statements ↔
        r.after = []) ∧
      ((tables options naming).collect source.logged (r.start, log)).2.2 =
        log ++ r.statements := by
  obtain ⟨hitems, hlog⟩ := r.drain_tables log
  refine ⟨hitems, hlog, ?_, by rw [r.collect_tables log]⟩
  rw [hlog, List.append_right_eq_self, r.statementsBehind_eq_nil_iff]

/-- Two tables are listed, and every other statement fails. -/
def unreadable : List Canned.Response := [Canned.listing, ⟨"", none, .failure "boom"⟩]

theorem fetchAll_listing (sql : String) (s : Token × Canned.Log) :
    (Canned.source unreadable none).fetchAll ⟨sql, []⟩ s =
      (.ok [⟨["name", "sql"], [.string "a", .null]⟩, ⟨["name", "sql"], [.string "b", .null]⟩],
        (s.1, s.2 ++ [⟨sql, []⟩])) := by
  rw [Canned.fetchAll_eq, unreadable, Canned.answer_listing]
  rfl

theorem fetchAll_unreadable (sql : String) (v : Value) (s : Token × Canned.Log) :
    (Canned.source unreadable none).fetchAll ⟨sql, [v]⟩ s =
      (.error (.query "boom"), (s.1, s.2 ++ [⟨sql, [v]⟩])) := by
  have hfails : Canned.answer [⟨"", none, .failure "boom"⟩] ⟨sql, [v]⟩ =
      .error (.query "boom") := by
    simp [Canned.answer, Canned.answers_of_params]
  rw [Canned.fetchAll_eq, unreadable, Canned.answer_behind_listing, hfails]
  rfl

/-- A table that cannot be read is asked for its columns only. -/
theorem statements_unreadable (naming : Naming) (l : Listed) (s : Token × Canned.Log) :
    (table naming l).statements (Canned.source unreadable none) s =
      [⟨columnsSql naming, [.string l.name]⟩] :=
  Query.statements_rows_bind_error (fetchAll_unreadable _ _ s)

/-- The first of two tables fails. -/
def ofUnreadable : FailingRun {} .sqlite (Canned.source unreadable none) where
  start := (.idle, [])
  rows := _
  listed := _
  before := []
  found := []
  reached := _
  failing := ⟨"a", none⟩
  error := .query "boom"
  stopped := _
  after := [⟨"b", none⟩]
  wanted := rfl
  fetch_rows := fetchAll_listing _ _
  read_rows := rfl
  run_before := rfl
  run_failing := Query.run_bind_error _ (by rw [Query.run_rows]; exact fetchAll_unreadable _ _ _)

/-- The second table is still asked about. -/
theorem statements_asked_ofUnreadable :
    ((tables {} .sqlite).drain (Canned.source unreadable none).logged ((.idle, []), [])).1 =
        [.error (.query "boom")] ∧
      ((tables {} .sqlite).drain (Canned.source unreadable none).logged ((.idle, []), [])).2.2 =
        [⟨tablesSql, []⟩, ⟨columnsSql .sqlite, [.string "a"]⟩,
          ⟨columnsSql .sqlite, [.string "b"]⟩] := by
  have hstart : ofUnreadable.start = (.idle, []) := rfl
  obtain ⟨hitems, hlog, -⟩ := ofUnreadable.statements_asked []
  rw [hstart] at hitems hlog
  refine ⟨hitems, ?_⟩
  rw [hlog]
  simp only [statements, statementsBehind, ofUnreadable, statements_unreadable]
  rfl

/-- That nothing is asked behind an error does not hold of all runs. -/
theorem not_silent_behind_error :
    ¬ ∀ (σ κ : Type) (options : ExtractOptions) (naming : Naming) (source : RowSource σ κ)
        (r : FailingRun options naming source),
        ((tables options naming).drain source.logged (r.start, [])).2.2 = r.statements := by
  intro h
  have hlog := h _ _ _ _ _ ofUnreadable
  rw [(ofUnreadable.drain_tables []).2, List.nil_append, List.append_right_eq_self,
    statementsBehind_eq_nil_iff] at hlog
  cases hlog

end FailingRun

end Sqlite

end SchemaCatalog
