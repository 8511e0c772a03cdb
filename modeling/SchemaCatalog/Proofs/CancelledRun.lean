import Mathlib
import SchemaCatalog.Engine
import SchemaCatalog.Proofs.CannedAnswers
/-!
# Runs that are cancelled

A token may be cancelled at any moment of a run: before it, while a statement is answered, or
between two rows. Over a source whose answers depend on the statements alone, every answer under
the token is either the whole answer or `Error.cancelled`, and this carries over to queries and to
streams of tables. A run that is cancelled is cut short, and nothing else about it is altered
(`TableStream.drain_cancellable`).
-/

namespace SchemaCatalog

variable {σ κ α : Type}

/-! ## Answers that depend on the statement alone -/

namespace ItemStream

/-- From this place on the stream gives these items and ends, whatever its state is. -/
def Delivers (t : ItemStream σ κ α) : List (Except Error α) → κ → Prop
  | [], c => ∀ s, (t.next c s).1 = none
  | item :: rest, c => ∀ s, (t.next c s).1 = some item ∧ t.Delivers rest (t.next c s).2.1

theorem delivers_ofList (items : List (Except Error α)) :
    (ofList (σ := σ)).Delivers items items := by
  induction items with
  | nil => exact fun _ => rfl
  | cons item rest ih => exact fun _ => ⟨rfl, ih⟩

theorem collect_of_delivers {t : ItemStream σ κ α} {items : List (Except Error α)} {c : κ}
    (h : t.Delivers items c) (s : σ) : (t.collect c s).1 = items.mapM id := by
  induction items generalizing c s with
  | nil =>
    have hitem := h s
    rcases hnext : t.next c s with ⟨item, c', s'⟩
    rw [hnext] at hitem
    cases hitem
    rw [t.collect_of_end hnext]
    rfl
  | cons item rest ih =>
    obtain ⟨hitem, hrest⟩ := h s
    rcases hnext : t.next c s with ⟨item', c', s'⟩
    rw [hnext] at hitem hrest
    cases hitem
    rw [List.mapM_cons]
    cases item with
    | error e =>
      rw [t.collect_of_error hnext]
      rfl
    | ok a =>
      rw [t.collect_of_ok hnext, ih hrest s']
      cases rest.mapM id <;> rfl

/-- If the look at the token shows nothing, a pull gives what the stream itself gives. -/
theorem cancellable_next_of_quiet (t : ItemStream (Token × σ) κ α) (c : κ) {s : Token × σ}
    {token : Token} (h : s.1.look = (false, token)) :
    t.cancellable.next (some c) s =
      ((t.next c (token, s.2)).1,
        (t.next c (token, s.2)).1.map fun _ => (t.next c (token, s.2)).2.1,
        (t.next c (token, s.2)).2.2) := by
  rcases hnext : t.next c (token, s.2) with ⟨_ | item, c', s'⟩ <;>
    simp only [cancellable, h, hnext, Option.map]

/-- A pull under a token gives the cancellation, or what the stream itself gives. -/
theorem cancellable_next (t : ItemStream (Token × σ) κ α) (c : κ) (s : Token × σ) :
    (∃ s', t.cancellable.next (some c) s = (some (.error .cancelled), none, s')) ∨
      ∃ u, t.cancellable.next (some c) s =
        ((t.next c u).1, (t.next c u).1.map fun _ => (t.next c u).2.1, (t.next c u).2.2) := by
  rcases hlook : s.1.look with ⟨seen, token⟩
  cases seen with
  | true => exact .inl ⟨(token, s.2), by simp only [cancellable, hlook]⟩
  | false => exact .inr ⟨(token, s.2), t.cancellable_next_of_quiet c hlook⟩

/-- Under a token the items are collected to the end or not at all. -/
theorem collect_cancellable {t : ItemStream (Token × σ) κ α} {items : List (Except Error α)} {c : κ}
    (h : t.Delivers items c) (s : Token × σ) :
    (t.cancellable.collect (some c) s).1 = items.mapM id ∨
      (t.cancellable.collect (some c) s).1 = .error .cancelled := by
  -- A pull that shows the cancellation is an error and ends the collecting, so no part of the items
  -- is ever taken for all of them.
  induction items generalizing c s with
  | nil =>
    obtain ⟨s', hnext⟩ | ⟨u, hnext⟩ := t.cancellable_next c s
    · exact .inr (by rw [collect_of_error _ hnext])
    · rw [h u] at hnext
      exact .inl (by rw [collect_of_end _ hnext]; rfl)
  | cons item rest ih =>
    obtain ⟨s', hnext⟩ | ⟨u, hnext⟩ := t.cancellable_next c s
    · exact .inr (by rw [collect_of_error _ hnext])
    · obtain ⟨hitem, hrest⟩ := h u
      rw [hitem] at hnext
      rw [List.mapM_cons]
      cases item with
      | error e => exact .inl (by rw [collect_of_error _ hnext]; rfl)
      | ok a =>
        rw [collect_of_ok _ hnext]
        rcases ih hrest (t.next c u).2.2 with hcollect | hcollect
        · refine .inl ?_
          rw [Option.map_some, hcollect]
          cases rest.mapM id <;> rfl
        · refine .inr ?_
          rw [Option.map_some, hcollect]
          rfl

end ItemStream

/-- The answer to every statement: an error, or items of which each is a row or an error. -/
abbrev Answering := Statement → Except Error (List (Except Error Row))

namespace RowSource

/-- The source answers every statement as told, in every state. -/
structure AnswersBy (source : RowSource σ κ) (answer : Answering) : Prop where
  fails : ∀ {statement e} s, answer statement = .error e →
    (source.start statement s).1 = .error e
  delivers : ∀ {statement items} s, answer statement = .ok items →
    ∃ c, (source.start statement s).1 = .ok c ∧ source.answers.Delivers items c

theorem fetchAll_of_answersBy {source : RowSource σ κ} {answer : Answering}
    (h : source.AnswersBy answer) (statement : Statement) (s : σ) :
    (source.fetchAll statement s).1 = (answer statement).bind (·.mapM id) := by
  rcases hstart : source.start statement s with ⟨started, s'⟩
  cases hanswer : answer statement with
  | error e =>
    have hfails := h.fails s hanswer
    rw [hstart] at hfails
    cases hfails
    simp only [fetchAll, hstart]
    rfl
  | ok items =>
    obtain ⟨c, hc, hitems⟩ := h.delivers s hanswer
    rw [hstart] at hc
    cases hc
    simp only [fetchAll, hstart]
    exact ItemStream.collect_of_delivers hitems s'

/-- Asking under a token gives the cancellation, or what the source itself gives. -/
theorem cancellable_start (source : RowSource (Token × σ) κ) (statement : Statement)
    (s : Token × σ) :
    (∃ s', source.cancellable.start statement s = (.error .cancelled, s')) ∨
      ∃ u, source.cancellable.start statement s =
        ((source.start statement u).1.map some, (source.start statement u).2) := by
  rcases hlook : s.1.look with ⟨seen, token⟩
  cases seen with
  | true => exact .inl ⟨(token, s.2), by simp only [cancellable, hlook]⟩
  | false =>
    refine .inr ⟨(token, s.2), ?_⟩
    rcases hstart : source.start statement (token, s.2) with ⟨e | c, s'⟩ <;>
      simp only [cancellable, hlook, hstart, Except.map]

/-- Under a token a statement is answered as without, or cancelled. -/
theorem fetchAll_cancellable {source : RowSource (Token × σ) κ} {answer : Answering}
    (h : source.AnswersBy answer) (statement : Statement) (s : Token × σ) :
    (source.cancellable.fetchAll statement s).1 = (answer statement).bind (·.mapM id) ∨
      (source.cancellable.fetchAll statement s).1 = .error .cancelled := by
  obtain ⟨s', hstart⟩ | ⟨u, hstart⟩ := source.cancellable_start statement s
  · exact .inr (by simp only [fetchAll, hstart])
  · cases hanswer : answer statement with
    | error e =>
      rw [h.fails u hanswer] at hstart
      refine .inl ?_
      simp only [fetchAll, hstart, Except.map]
      rfl
    | ok items =>
      obtain ⟨c, hc, hitems⟩ := h.delivers u hanswer
      rw [hc] at hstart
      simp only [fetchAll, hstart, Except.map]
      exact ItemStream.collect_cancellable hitems _

end RowSource

/-! ## Queries -/

namespace Query

/-- What the query comes to if its statements are answered so. -/
def value (answer : Answering) : Query α → Except Error α
  | .done a => .ok a
  | .fail e => .error e
  | .ask statement next =>
    match (answer statement).bind (·.mapM id) with
    | .error e => .error e
    | .ok rows => (next rows).value answer

theorem run_of_answersBy {source : RowSource σ κ} {answer : Answering}
    (h : source.AnswersBy answer) (q : Query α) (s : σ) :
    (q.run source s).1 = q.value answer := by
  induction q generalizing s with
  | done a => rfl
  | fail e => rfl
  | ask statement next ih =>
    have hfetch := RowSource.fetchAll_of_answersBy h statement s
    rcases hrows : source.fetchAll statement s with ⟨e | rows, s'⟩ <;> rw [hrows] at hfetch
    · simp only [run, value, hrows, ← hfetch]
    · simp only [run, value, hrows, ← hfetch, ih]

/-- Under a token a query comes to what it comes to without, or is cancelled. -/
theorem run_cancellable {source : RowSource (Token × σ) κ} {answer : Answering}
    (h : source.AnswersBy answer) (q : Query α) (s : Token × σ) :
    (q.run source.cancellable s).1 = q.value answer ∨
      (q.run source.cancellable s).1 = .error .cancelled := by
  induction q generalizing s with
  | done a => exact .inl rfl
  | fail e => exact .inl rfl
  | ask statement next ih =>
    have hfetch := RowSource.fetchAll_cancellable h statement s
    rcases hrows : source.cancellable.fetchAll statement s with ⟨e | rows, s'⟩ <;>
      rw [hrows] at hfetch <;> simp only [run, value, hrows]
    · rcases hfetch with hfetch | hfetch
      · exact .inl (by rw [← hfetch])
      · cases hfetch
        exact .inr rfl
    · rcases hfetch with hfetch | hfetch
      · rw [← hfetch]
        exact ih rows s'
      · cases hfetch

end Query

/-! ## Streams of tables -/

/-- The items are all of them, or the first ones, none of which is an error, and then the
cancellation. -/
def CutShort (whole items : List (Except Error α)) : Prop :=
  items = whole ∨ ∃ found : List α,
    found.map .ok <+: whole ∧ items = found.map .ok ++ [.error .cancelled]

theorem CutShort.cons_ok {whole items : List (Except Error α)} (h : CutShort whole items) (a : α) :
    CutShort (.ok a :: whole) (.ok a :: items) := by
  rcases h with rfl | ⟨found, hinit, rfl⟩
  · exact .inl rfl
  · exact .inr ⟨a :: found, (List.prefix_cons_inj _).2 hinit, rfl⟩

theorem cutShort_cancelled (whole : List (Except Error α)) :
    CutShort whole [.error .cancelled] :=
  .inr ⟨[], List.nil_prefix, rfl⟩

/-- If only values were found, nothing was cut off. -/
theorem CutShort.eq_of_mapM {whole items : List (Except Error α)} (h : CutShort whole items)
    {as : List α} (has : items.mapM id = .ok as) : items = whole := by
  rcases h with h | ⟨found, -, rfl⟩
  · exact h
  · have hmem : Except.error Error.cancelled ∈ as.map .ok := by
      rw [← mapM_ok_iff.1 has]
      simp
    simp at hmem

namespace TableStream

/-- The items of the extraction if the statements are answered so. -/
def items (answer : Answering) (t : TableStream) : List (Except Error Table) :=
  match t.value answer with
  | .error e => [.error e]
  | .ok queries => upToError (queries.map (·.value answer))

theorem drain_of_answersBy {source : RowSource σ κ} {answer : Answering}
    (h : source.AnswersBy answer) (t : TableStream) (s : σ) :
    (t.drain source s).1 = t.items answer := by
  have hvalue := Query.run_of_answersBy h t s
  rcases hrun : t.run source s with ⟨e | queries, s'⟩ <;> rw [hrun] at hvalue <;>
    simp only [items, ← hvalue]
  · rw [drain_of_error source hrun]
  · rw [drain_of_ok source hrun, ItemStream.drain_stopAfterError]
    clear hrun hvalue
    congr 1
    induction queries generalizing s' with
    | nil => rw [drain_tables_nil]; rfl
    | cons q rest ih => rw [drain_tables_cons, ih, Query.run_of_answersBy h]; rfl

/-- The tables asked for under a token are cut short at most. -/
theorem cutShort_queries {source : RowSource (Token × σ) κ} {answer : Answering}
    (h : source.AnswersBy answer) (queries : List (Query Table)) (s : Token × σ) :
    CutShort (upToError (queries.map (·.value answer)))
      (upToError ((tables source.cancellable).drain queries s).1) := by
  induction queries generalizing s with
  | nil =>
    rw [drain_tables_nil]
    exact .inl rfl
  | cons q rest ih =>
    rw [drain_tables_cons, List.map_cons]
    rcases Query.run_cancellable h q s with hq | hq <;> rw [hq]
    · -- The tables behind may still be cancelled, which only matters if this one came out.
      cases q.value answer with
      | ok t => exact (ih _).cons_ok t
      | error e => exact .inl rfl
    · exact cutShort_cancelled _

theorem drain_cancellable {source : RowSource (Token × σ) κ} {answer : Answering}
    (h : source.AnswersBy answer) (t : TableStream) (s : Token × σ) :
    CutShort (t.items answer) (t.drain source.cancellable s).1 := by
  have hvalue := Query.run_cancellable h t s
  rcases hrun : t.run source.cancellable s with ⟨e | queries, s'⟩ <;> rw [hrun] at hvalue
  · rw [drain_of_error _ hrun]
    rcases hvalue with hvalue | hvalue
    · simp only [items, ← hvalue]
      exact .inl rfl
    · cases hvalue
      exact cutShort_cancelled _
  · rw [drain_of_ok _ hrun, ItemStream.drain_stopAfterError]
    rcases hvalue with hvalue | hvalue
    · simp only [items, ← hvalue]
      exact cutShort_queries h queries s'
    · cases hvalue

end TableStream

/-! ## Tokens that nobody cancels -/

theorem Token.look_idle : Token.idle.look = (false, .idle) := rfl

/-- No pull touches the token. -/
def ItemStream.KeepsToken (t : ItemStream (Token × σ) κ α) : Prop :=
  ∀ c s, (t.next c s).2.2.1 = s.1

/-- Under an idle token the items are collected as without. -/
theorem ItemStream.KeepsToken.collect_idle {t : ItemStream (Token × σ) κ α} (h : t.KeepsToken)
    (c : κ) (s : Token × σ) (hs : s.1 = .idle) :
    t.cancellable.collect (some c) s = t.collect c s ∧ (t.collect c s).2.1 = .idle := by
  induction c, s using t.pull_induction with
  | h c s ih =>
    obtain ⟨token, state⟩ := s
    obtain rfl : token = .idle := hs
    have hkeeps := h c (.idle, state)
    have hidle := t.cancellable_next_of_quiet c (s := (.idle, state)) Token.look_idle
    rcases hnext : t.next c (.idle, state) with ⟨_ | ⟨e | a⟩, c', s'⟩ <;>
      rw [hnext] at hkeeps hidle
    · rw [collect_of_end _ hnext, collect_of_end _ hidle]
      exact ⟨rfl, hkeeps⟩
    · rw [collect_of_error _ hnext, collect_of_error _ hidle]
      exact ⟨rfl, hkeeps⟩
    · obtain ⟨hcollect, hrest⟩ := ih _ c' s' hnext hkeeps
      rw [collect_of_ok _ hnext, collect_of_ok _ hidle]
      exact ⟨by rw [Option.map_some, hcollect], hrest⟩

/-- Neither an answer nor a row of it touches the token. -/
structure RowSource.KeepsToken (source : RowSource (Token × σ) κ) : Prop where
  start : ∀ statement s, (source.start statement s).2.1 = s.1
  answers : source.answers.KeepsToken

namespace RowSource.KeepsToken

variable {source : RowSource (Token × σ) κ} (h : source.KeepsToken)

include h

theorem fetchAll_idle (statement : Statement) (s : σ) :
    source.cancellable.fetchAll statement (.idle, s) = source.fetchAll statement (.idle, s) ∧
      (source.fetchAll statement (.idle, s)).2.1 = .idle := by
  have hkeeps := h.start statement (.idle, s)
  rcases hstart : source.start statement (.idle, s) with ⟨e | c, s'⟩ <;> rw [hstart] at hkeeps <;>
    simp only [fetchAll, cancellable, Token.look_idle, hstart]
  · exact ⟨trivial, hkeeps⟩
  · exact h.answers.collect_idle c s' hkeeps

/-- Under an idle token a query is run as without. -/
theorem run_idle (q : Query α) (s : σ) :
    q.run source.cancellable (.idle, s) = q.run source (.idle, s) ∧
      (q.run source (.idle, s)).2.1 = .idle := by
  induction q generalizing s with
  | done a => exact ⟨rfl, rfl⟩
  | fail e => exact ⟨rfl, rfl⟩
  | ask statement next ih =>
    obtain ⟨hfetch, hidle⟩ := h.fetchAll_idle statement s
    simp only [Query.run, hfetch]
    rcases hrows : source.fetchAll statement (.idle, s) with ⟨e | rows, token, s'⟩ <;>
      rw [hrows] at hidle <;> obtain rfl : token = .idle := hidle
    · exact ⟨rfl, rfl⟩
    · exact ih rows s'

/-- Under an idle token the tables come out as without. -/
theorem drain_idle (t : TableStream) (s : σ) :
    (t.drain source.cancellable (.idle, s)).1 = (t.drain source (.idle, s)).1 := by
  obtain ⟨hrun, hidle⟩ := h.run_idle t s
  rcases hqueries : t.run source (.idle, s) with ⟨e | queries, token, s'⟩ <;>
    rw [hqueries] at hrun hidle <;> obtain rfl : token = .idle := hidle
  · rw [TableStream.drain_of_error _ hrun, TableStream.drain_of_error _ hqueries]
  · rw [TableStream.drain_of_ok _ hrun, TableStream.drain_of_ok _ hqueries,
      ItemStream.drain_stopAfterError, ItemStream.drain_stopAfterError]
    clear hrun hqueries
    congr 1
    induction queries generalizing s' with
    | nil => rw [TableStream.drain_tables_nil, TableStream.drain_tables_nil]
    | cons q rest ih =>
      obtain ⟨hq, hidle⟩ := h.run_idle q s'
      rw [TableStream.drain_tables_cons, TableStream.drain_tables_cons, hq]
      rcases hresult : q.run source (.idle, s') with ⟨result, token, s''⟩
      rw [hresult] at hidle
      obtain rfl : token = .idle := hidle
      rw [ih s'']

end RowSource.KeepsToken

/-! ## Engines -/

namespace Engine

/-- Whenever the token of a run is cancelled, what comes out is what comes out of any run over the
source itself, or the tables at the beginning of that and then the cancellation; tables that are
collected under the token are all there are. Under a token that nobody cancels everything comes
out. -/
theorem drain_cancelled {source : RowSource (Token × σ) κ} {answer : Answering}
    (h : source.AnswersBy answer) (e : Engine) (options : ExtractOptions) (naming : Naming)
    (start s : Token × σ) :
    CutShort ((e.tables options naming).drain source s).1
        ((e.tables options naming).drain source.cancellable start).1 ∧
      (∀ ts, ((e.tables options naming).collect source.cancellable start).1 = .ok ts →
        ((e.tables options naming).collect source s).1 = .ok ts) ∧
      (source.KeepsToken → start.1 = .idle →
        ((e.tables options naming).drain source.cancellable start).1 =
          ((e.tables options naming).drain source s).1) := by
  have hwhole := TableStream.drain_of_answersBy h (e.tables options naming)
  have hcut := TableStream.drain_cancellable h (e.tables options naming) start
  rw [← hwhole s] at hcut
  refine ⟨hcut, ?_, ?_⟩
  · intro ts hts
    rw [TableStream.collect_eq_mapM] at hts
    obtain ⟨found, hfound, -⟩ := map_ok_iff.1 hts
    rw [TableStream.collect_eq_mapM, ← hcut.eq_of_mapM hfound, hts]
  · intro hkeeps hidle
    obtain ⟨token, state⟩ := start
    obtain rfl : token = .idle := hidle
    rw [hkeeps.drain_idle, hwhole, hwhole]

end Engine

/-! ## A run that is cancelled midway -/

theorem ItemStream.keepsToken_ofList :
    (ItemStream.ofList : ItemStream (Token × σ) (List (Except Error α)) α).KeepsToken := by
  intro c s
  cases c <;> rfl

namespace Canned

variable (responses : List Response)

theorem source_answersBy (cancelOn? : Option Nat) :
    (source responses cancelOn?).AnswersBy (answer responses) where
  fails _ h := by rw [start_eq, h]
  delivers _ h := ⟨_, by rw [start_eq, h], ItemStream.delivers_ofList _⟩

theorem source_keepsToken : (source responses none).KeepsToken where
  start _ _ := rfl
  answers := ItemStream.keepsToken_ofList

variable (n : Nat) (statement : Statement) (log : Log)

/-- A statement that was not chosen is answered. -/
theorem fetchAll_cancellable_idle (h : n ≠ log.length + 1) :
    (source responses (some n)).cancellable.fetchAll statement (.idle, log) =
      ((answer responses statement).bind (·.mapM id), (.idle, log ++ [statement])) := by
  have hafter : after (some n) statement (.idle, log) = (.idle, log ++ [statement]) := by
    simp [after, h]
  simp only [RowSource.fetchAll, RowSource.cancellable, Token.look_idle, start_eq, hafter]
  cases answer responses statement with
  | error e => rfl
  | ok items =>
    exact (ItemStream.keepsToken_ofList.collect_idle items _ rfl).1.trans
      (ItemStream.collect_ofList items _)

/-- The chosen statement reaches the source, but none of its rows gets through. -/
theorem fetchAll_cancellable_chosen (h : n = log.length + 1) {items : List (Except Error Row)}
    (hitems : answer responses statement = .ok items) :
    (source responses (some n)).cancellable.fetchAll statement (.idle, log) =
      (.error .cancelled, (.cancelled, log ++ [statement])) := by
  have hafter : after (some n) statement (.idle, log) = (.cancelled, log ++ [statement]) := by
    simp [after, h]
  simp only [RowSource.fetchAll, RowSource.cancellable, Token.look_idle, start_eq, hafter, hitems]
  exact ItemStream.collect_of_error _ rfl

end Canned

namespace Sqlite

/-- A row that can be read as a column and as a foreign key. -/
def columnAndKey : Row :=
  ⟨["name", "type", "not_null", "dflt_value", "pk", "hidden", "id", "seq", "parent_table",
      "from_column", "to_column"],
    [.string "x", .string "INT", .int64 0, .null, .int64 1, .int64 0, .int64 0, .int64 0,
      .string "b", .string "x", .string "x"]⟩

/-- Two tables are listed, and every other statement is answered with the same row. -/
def readable : List Canned.Response :=
  [Canned.listing, ⟨"", none, .rows columnAndKey.columns [columnAndKey.values]⟩]

/-- The token is cancelled while the source answers what the columns of the second table are. -/
def midway : RowSource (Token × Canned.Log) (Option (List (Except Error Row))) :=
  (Canned.source readable (some 4)).cancellable

theorem answer_readable (sql : String) (v : Value) :
    Canned.answer readable ⟨sql, [v]⟩ = .ok [.ok columnAndKey] := by
  rw [readable, Canned.answer_behind_listing]
  simp [Canned.answer, Canned.answers_of_params]

theorem rows_midway (sql : String) (v : Value) (log : Canned.Log) (h : log.length ≠ 3) :
    (Query.rows ⟨sql, [v]⟩).run midway (.idle, log) =
      (.ok [columnAndKey], (.idle, log ++ [⟨sql, [v]⟩])) := by
  rw [Query.run_rows, midway,
    Canned.fetchAll_cancellable_idle readable 4 ⟨sql, [v]⟩ log (by omega), answer_readable]
  rfl

theorem run_tables_midway :
    (tables {} .sqlite).run midway (.idle, []) =
      (.ok [table .sqlite ⟨"a", none⟩, table .sqlite ⟨"b", none⟩],
        (.idle, [⟨tablesSql, []⟩])) := by
  have hrows := Canned.fetchAll_cancellable_idle readable 4 ⟨tablesSql, []⟩ [] (by decide)
  rw [readable, Canned.answer_listing] at hrows
  show (Query.rows _ >>= _).run midway _ = _
  rw [Query.run_bind_ok midway (by rw [Query.run_rows]; exact hrows)]
  rfl

/-- A table whose rows can all be read is the one that is assembled from them. -/
theorem run_table_of_rows {source : RowSource σ κ} {naming : Naming} {l : Listed}
    {s s₁ s₂ s₃ : σ} {columnRows referenceRows : List Row}
    {found : List (Option (Column × Option UInt64))} {references : List ReferenceRow}
    (hcolumns : (Query.rows ⟨columnsSql naming, [.string l.name]⟩).run source s =
      (.ok columnRows, s₁))
    (hfound : columnRows.mapM (columnOf? ⟨mainSchema, l.name⟩ (declaresAutoincrement l.ddl?)) =
      .ok found)
    (hkeys : (Query.rows ⟨foreignKeysSql naming, [.string l.name]⟩).run source s₁ =
      (.ok referenceRows, s₂))
    (hreferences : (referenceRows.mapM (referenceRow naming ⟨mainSchema, l.name⟩)).run source s₂ =
      (.ok references, s₃)) :
    (table naming l).run source s =
      (Table.assemble ⟨mainSchema, l.name⟩ ((found.filterMap id).map (·.1))
        ((found.filterMap id).foldl addKeyColumn Lookup.empty) references, s₃) := by
  simp only [table]
  rw [Query.run_bind_ok source hcolumns,
    Query.run_bind_ok source (by rw [Query.run_ofExcept, hfound]),
    Query.run_bind_ok source hkeys, Query.run_bind_ok source hreferences, Query.run_ofExcept]

/-- The first table comes out before the token is cancelled. -/
theorem run_first_midway :
    ∃ t log, (table .sqlite ⟨"a", none⟩).run midway (.idle, [⟨tablesSql, []⟩]) =
        (.ok t, (.idle, log)) ∧ log.length = 3 ∧ t.name.name = "a" := by
  have htable : ((Table.assemble ⟨mainSchema, "a"⟩
      [{ name := "x", dataType := typeName "INT" none }] (Lookup.empty.insert "x" 0)
      [⟨toString (0 : Int), 0, "x", ⟨mainSchema, "b"⟩, "x"⟩]).toOption.map (·.name.name)) =
        some "a" := by cbv
  obtain ⟨t, ht, hname⟩ := Option.map_eq_some_iff.1 htable
  have hrun := run_table_of_rows (l := ⟨"a", none⟩)
    (rows_midway (columnsSql .sqlite) (.string "a") [⟨tablesSql, []⟩] (by decide)) rfl
    (rows_midway (foreignKeysSql .sqlite) (.string "a") _ (by decide)) rfl
  exact ⟨t, _, hrun.trans (congrArg (·, _) (ok_of_toOption ht)), rfl, hname⟩

theorem run_second_midway {log : Canned.Log} (h : log.length = 3) :
    (table .sqlite ⟨"b", none⟩).run midway (.idle, log) =
      (.error .cancelled, (.cancelled, log ++ [⟨columnsSql .sqlite, [.string "b"]⟩])) := by
  have hrows := Canned.fetchAll_cancellable_chosen readable 4
    ⟨columnsSql .sqlite, [.string "b"]⟩ log (by omega : 4 = log.length + 1) (answer_readable _ _)
  show (Query.rows _ >>= _).run midway _ = _
  rw [Query.run_bind_error midway (by rw [Query.run_rows]; exact hrows)]

/-- Of two tables the first one comes out, and then the cancellation. Without it everything comes
out. -/
theorem cutShort_midway :
    CutShort
        ((Engine.sqlite.tables {} .sqlite).drain (Canned.source readable (some 4)) (.idle, [])).1
        ((Engine.sqlite.tables {} .sqlite).drain midway (.idle, [])).1 ∧
      ((Engine.sqlite.tables {} .sqlite).drain (Canned.source readable none).cancellable
          (.idle, [])).1 =
        ((Engine.sqlite.tables {} .sqlite).drain (Canned.source readable none) (.idle, [])).1 ∧
      ∃ t, ((Engine.sqlite.tables {} .sqlite).drain midway (.idle, [])).1 =
        [.ok t, .error .cancelled] ∧ t.name.name = "a" := by
  refine ⟨(Engine.drain_cancelled (Canned.source_answersBy readable (some 4)) .sqlite {} .sqlite
    (.idle, []) (.idle, [])).1, ?_, ?_⟩
  · exact (Engine.drain_cancelled (Canned.source_answersBy readable none) .sqlite {} .sqlite
      (.idle, []) (.idle, [])).2.2 (Canned.source_keepsToken readable) rfl
  obtain ⟨t, log, hfirst, hlog, hname⟩ := run_first_midway
  refine ⟨t, ?_, hname⟩
  rw [show Engine.sqlite.tables {} .sqlite = tables {} .sqlite from rfl,
    TableStream.drain_of_ok midway run_tables_midway, TableStream.drain_stopped_ok midway hfirst,
    TableStream.drain_stopped_error midway (run_second_midway hlog)]

end Sqlite

end SchemaCatalog
