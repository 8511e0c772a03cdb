import SchemaCatalog.Proofs.DescribedTables
import SchemaCatalog.Proofs.StatementsAsked
/-!
# Runs that come to their end

If no table of SQLite fails, all that is asked can be read off the answers: the table listing, and
then for each listed table its columns, its foreign keys and, for each row of these that leaves
out the parent's column, the columns of the parent (`Sqlite.statements_of_complete_run`). What one
table asks is settled in `Sqlite.exists_pulled`, and the tables are pulled one after the other, so
the record of the run is that of the tables in a row.
-/

namespace SchemaCatalog

variable {σ κ α β : Type}

/-! ## Statements of a query made of steps -/

namespace Query

variable {source : RowSource σ κ} {s s' : σ}

/-- Behind a step that comes to a result the query asks what depends on that result. -/
theorem statements_bind_of_ok {q : Query α} {f : α → Query β} {a : α}
    (h : q.run source s = (.ok a, s')) :
    (q >>= f).statements source s = q.statements source s ++ (f a).statements source s' := by
  show (q.andThen f).statements source s = _
  induction q generalizing s with
  | done b =>
    cases h
    rfl
  | fail e => cases h
  | ask statement next ih =>
    rw [run] at h
    rcases hfetch : source.fetchAll statement s with ⟨e | rows, t⟩ <;> rw [hfetch] at h
    · cases h
    · simp only [andThen, statements, hfetch, ih rows h, List.cons_append]

@[simp]
theorem statements_pure (a : α) : (pure a : Query α).statements source s = [] := rfl

@[simp]
theorem statements_ofExcept (x : Except Error α) : (ofExcept x).statements source s = [] := by
  cases x <;> rfl

@[simp]
theorem statements_rows (statement : Statement) :
    (rows statement).statements source s = [statement] := by
  simp only [rows, statements]
  split <;> rfl

/-- If it is known what each query of a list asks, it is known what they ask one after the other. -/
theorem statements_mapM {f : β → Query α} {asked : β → List Statement}
    (hf : ∀ b s a s', (f b).run source s = (.ok a, s') → (f b).statements source s = asked b)
    {bs : List β} {as : List α} (h : (bs.mapM f).run source s = (.ok as, s')) :
    (bs.mapM f).statements source s = bs.flatMap asked := by
  induction bs generalizing s as with
  | nil => rfl
  | cons b rest ih =>
    obtain ⟨a, as', t, hb, hrest, rfl⟩ := run_mapM_cons_ok source h
    rw [List.mapM_cons, statements_bind_of_ok hb, statements_bind_of_ok hrest, statements_pure,
      List.append_nil, hf b s a t hb, ih hrest, List.flatMap_cons]

end Query

/-! ## Values that were read -/

namespace Row

variable {row : Row} {query column : String}

theorem find?_of_value {v : Value} (h : row.value query column = .ok v) :
    row.find? column = some v := by
  unfold value at h
  split at h
  · rename_i hfind
    rw [hfind, Except.ok.inj h]
  · cases h

theorem find?_of_string {text : String} (h : row.string query column = .ok text) :
    row.find? column = some (.string text) := by
  obtain ⟨v, hv, h⟩ := bind_ok_iff.1 h
  rw [find?_of_value hv]
  split at h
  · rw [Except.ok.inj h]
  · cases h

theorem find?_of_string? {text? : Option String} (h : row.string? query column = .ok text?) :
    row.find? column = some (.ofOption .string text?) := by
  obtain ⟨v, hv, h⟩ := bind_ok_iff.1 h
  rw [find?_of_value hv]
  split at h
  · cases h
    rfl
  · cases h
    rfl
  · cases h

end Row

namespace Sqlite

/-! ## References -/

/-- The parent of a reference that leaves out the parent's column. -/
def implicitParent? (row : Row) : Option String :=
  match row.find? "to_column", row.find? "parent_table" with
  | some .null, some (.string parent) => some parent
  | _, _ => none

/-- The statement for the columns of a table. -/
def columnsOf (naming : Naming) (name : String) : Statement :=
  ⟨columnsSql naming, [.string name]⟩

section References
variable {naming : Naming} {table : TableName} {source : RowSource σ κ} {s s' : σ} {row : Row}

theorem implicitParent?_of_facts {f : ReferenceFacts} (h : referenceFacts row = .ok f) :
    implicitParent? row = match f.primary? with
      | some _ => none
      | none => some f.parent := by
  simp only [referenceFacts, bind_ok_iff] at h
  obtain ⟨id, -, position, -, parent, hparent, foreign, -, primary?, hprimary, h⟩ := h
  cases h
  rw [implicitParent?, Row.find?_of_string hparent, Row.find?_of_string? hprimary]
  cases primary? <;> rfl

theorem statements_implicitParentColumn {parent column : String} {position : Int64}
    (h : (implicitParentColumn naming table parent position).run source s = (.ok column, s')) :
    (implicitParentColumn naming table parent position).statements source s =
      [columnsOf naming parent] := by
  obtain ⟨rows, t, hrows, h⟩ := (Query.run_bind_eq_ok_iff source).1 h
  obtain ⟨columns, u, hcolumns, h⟩ := (Query.run_bind_eq_ok_iff source).1 h
  rw [implicitParentColumn, Query.statements_bind_of_ok hrows, Query.statements_bind_of_ok hcolumns,
    Query.statements_rows, Query.statements_ofExcept]
  -- what is picked from the columns is not asked for
  split <;> rfl

/-- A row of a reference asks for the parent if it leaves out the parent's column. -/
theorem statements_referenceRow {r : ReferenceRow}
    (h : (referenceRow naming table row).run source s = (.ok r, s')) :
    (referenceRow naming table row).statements source s =
      (implicitParent? row).toList.map (columnsOf naming) := by
  obtain ⟨f, hf⟩ := exists_facts_of_referenceRow h
  rw [referenceRow_of_facts hf] at h ⊢
  obtain ⟨reference, t, hresolved, -⟩ := (Query.run_bind_eq_ok_iff source).1 h
  rw [Query.statements_bind_of_ok hresolved, Query.statements_pure, List.append_nil,
    implicitParent?_of_facts hf]
  rw [ReferenceFacts.resolve] at hresolved ⊢
  cases hprimary : f.primary? with
  | some column => rfl
  | none =>
    rw [hprimary] at hresolved
    obtain ⟨column, u, hcolumn, -⟩ := (Query.run_bind_eq_ok_iff source).1 hresolved
    rw [Query.statements_bind_of_ok hcolumn, statements_implicitParentColumn hcolumn]
    rfl

end References

/-! ## Tables -/

/-- A table that came out of a run: what the source answered about it, and the states in which it
was asked. -/
structure Pulled (naming : Naming) (source : RowSource σ κ) where
  listed : Listed
  start : σ
  columnRows : List Row
  /-- The state behind the columns. -/
  described : σ
  keyRows : List Row
  /-- The state behind the foreign keys. -/
  related : σ
  table : Table
  stop : σ
  fetch_columns : source.fetchAll (columnsOf naming listed.name) start = (.ok columnRows, described)
  fetch_keys : source.fetchAll ⟨foreignKeysSql naming, [.string listed.name]⟩ described =
    (.ok keyRows, related)
  run_table : (Sqlite.table naming listed).run source start = (.ok table, stop)

namespace Pulled

variable {naming : Naming} {source : RowSource σ κ}

/-- The statements for the columns, for the foreign keys and for the columns of the parents whose
columns are left out. -/
def statements (p : Pulled naming source) : List Statement :=
  columnsOf naming p.listed.name :: ⟨foreignKeysSql naming, [.string p.listed.name]⟩ ::
    (p.keyRows.filterMap implicitParent?).map (columnsOf naming)

/-- The tables are pulled one after the other, from the first state to the last. -/
def Consecutive : σ → List (Pulled naming source) → σ → Prop
  | s, [], s' => s = s'
  | s, p :: rest, s' => p.start = s ∧ Consecutive p.stop rest s'

end Pulled

section Run
variable {naming : Naming} {source : RowSource σ κ} {s s' : σ}

theorem name_of_run_table {l : Listed} {t : Table}
    (h : (table naming l).run source s = (.ok t, s')) : t.name = ⟨mainSchema, l.name⟩ := by
  obtain ⟨facts, references, -, hdescribes⟩ := describes_of_run_table h
  exact hdescribes.name

/-- A table that comes out was pulled, and these are its statements. -/
theorem exists_pulled {l : Listed} {t : Table} (h : (table naming l).run source s = (.ok t, s')) :
    ∃ p : Pulled naming source, p.listed = l ∧ p.start = s ∧ p.table = t ∧ p.stop = s' ∧
      (table naming l).statements source s = p.statements := by
  have hrun := h
  rw [table] at h
  obtain ⟨columnRows, described, hcolumns, h⟩ := (Query.run_bind_eq_ok_iff source).1 h
  obtain ⟨found, t₁, hfound, h⟩ := (Query.run_bind_eq_ok_iff source).1 h
  obtain ⟨keyRows, related, hkeys, h⟩ := (Query.run_bind_eq_ok_iff source).1 h
  obtain ⟨references, t₂, hreferences, -⟩ := (Query.run_bind_eq_ok_iff source).1 h
  have hstatements : (table naming l).statements source s =
      columnsOf naming l.name :: ⟨foreignKeysSql naming, [.string l.name]⟩ ::
        (keyRows.filterMap implicitParent?).map (columnsOf naming) := by
    rw [table, Query.statements_bind_of_ok hcolumns, Query.statements_bind_of_ok hfound,
      Query.statements_bind_of_ok hkeys, Query.statements_bind_of_ok hreferences,
      Query.statements_mapM (fun _ _ _ _ => statements_referenceRow) hreferences]
    simp only [Query.statements_rows, Query.statements_ofExcept, List.append_nil, List.nil_append,
      List.singleton_append, List.filterMap_eq_flatMap_toList, List.map_flatMap, columnsOf]
  rw [Query.run_rows] at hcolumns hkeys
  rw [Query.run_ofExcept] at hfound
  obtain rfl : described = t₁ := (Prod.mk.inj hfound).2
  exact ⟨⟨l, s, columnRows, described, keyRows, related, t, s', hcolumns, hkeys, hrun⟩,
    rfl, rfl, rfl, rfl, hstatements⟩

/-- If no table fails, the listed tables are pulled one after the other, and the record goes on with
their statements. -/
theorem drain_of_pulled {listed : List Listed} {log : List Statement}
    (h : ∀ e, .error e ∉ ((TableStream.tables source.logged).stopAfterError.drain
      (listed.map (table naming), false) (s, log)).1) :
    ∃ (pulled : List (Pulled naming source)) (s' : σ),
      pulled.map (·.listed) = listed ∧ Pulled.Consecutive s pulled s' ∧
        (TableStream.tables source.logged).stopAfterError.drain
            (listed.map (table naming), false) (s, log) =
          (pulled.map (.ok ·.table), (s', log ++ pulled.flatMap (·.statements))) := by
  induction listed generalizing s log with
  | nil =>
    refine ⟨[], s, rfl, rfl, ?_⟩
    rw [List.map_nil, TableStream.drain_stopped_nil, List.flatMap_nil, List.append_nil]
    rfl
  | cons l rest ih =>
    rw [List.map_cons] at h ⊢
    rcases hrun : (table naming l).run source s with ⟨e | t, u⟩
    · rw [TableStream.drain_stopped_error _ (Query.run_logged_of_run hrun log)] at h
      exact absurd List.mem_cons_self (h e)
    · have hlogged := Query.run_logged_of_run hrun log
      rw [TableStream.drain_stopped_ok _ hlogged] at h ⊢
      obtain ⟨pulled, s', rfl, hconsecutive, hdrain⟩ :=
        ih fun e he => h e (List.mem_cons_of_mem _ he)
      obtain ⟨p, rfl, rfl, rfl, rfl, hstatements⟩ := exists_pulled hrun
      refine ⟨p :: pulled, s', rfl, ⟨rfl, hconsecutive⟩, ?_⟩
      rw [hdrain, hstatements, List.map_cons, List.flatMap_cons, List.append_assoc]

/-- If the listing succeeds, the tables to be asked for are those that were listed. -/
theorem listed_of_run_tables {options : ExtractOptions} (hwanted : includesMain options)
    {log : List Statement} {queries : List (Query Table)} {u : σ × List Statement}
    (h : (tables options naming).run source.logged (s, log) = (.ok queries, u)) :
    ∃ rows listed first, source.fetchAll ⟨tablesSql, []⟩ s = (.ok rows, first) ∧
      rows.mapM tableEntry = .ok listed ∧ queries = listed.map (table naming) ∧
      u = (first, log ++ [⟨tablesSql, []⟩]) := by
  rw [tables, if_pos hwanted] at h
  obtain ⟨rows, t, hrows, h⟩ := (Query.run_bind_eq_ok_iff _).1 h
  obtain ⟨listed, t', hlisted, h⟩ := (Query.run_bind_eq_ok_iff _).1 h
  rw [Query.run_rows, RowSource.fetchAll_logged] at hrows
  rw [Query.run_ofExcept] at hlisted
  obtain ⟨hok, rfl⟩ := Prod.mk.inj hrows
  obtain ⟨hread, rfl⟩ := Prod.mk.inj hlisted
  cases h
  exact ⟨rows, listed, _, Prod.ext hok rfl, hread, rfl, rfl⟩

/-- The statements of a run in which nothing fails. If the options leave out the main schema,
nothing is asked and there are no tables. Otherwise the tables are listed, and then each of them
is asked for in the order of the listing and comes out; the columns of a parent are asked for once
for each row about a foreign key that leaves them out. -/
theorem statements_of_complete_run (options : ExtractOptions) (s : σ) (log : List Statement)
    (h : ∀ e, .error e ∉ ((tables options naming).drain source.logged (s, log)).1) :
    if options.schemas ≠ [] ∧ mainSchema ∉ options.schemas then
      (tables options naming).drain source.logged (s, log) = ([], (s, log))
    else
      ∃ (rows : List Row) (first last : σ) (pulled : List (Pulled naming source)),
        source.fetchAll ⟨tablesSql, []⟩ s = (.ok rows, first) ∧
        rows.mapM tableEntry = .ok (pulled.map (·.listed)) ∧
        Pulled.Consecutive first pulled last ∧
        (∀ p ∈ pulled, p.table.name = ⟨mainSchema, p.listed.name⟩) ∧
        (tables options naming).drain source.logged (s, log) =
          (pulled.map (.ok ·.table),
            (last, log ++ ⟨tablesSql, []⟩ :: pulled.flatMap (·.statements))) := by
  split
  · rename_i hexcluded
    have hwanted : ¬ includesMain options := by simpa [includesMain] using hexcluded
    have hrun : (tables options naming).run source.logged (s, log) = (.ok [], (s, log)) := by
      rw [tables, if_neg hwanted, Query.run_pure]
    rw [TableStream.drain_of_ok _ hrun, TableStream.drain_stopped_nil]
  · rename_i hincluded
    have hwanted : includesMain options := by
      simp only [includesMain, Bool.or_eq_true, List.isEmpty_iff, List.contains_iff_mem]
      tauto
    rcases hrun : (tables options naming).run source.logged (s, log) with ⟨e | queries, u⟩
    · rw [TableStream.drain_of_error _ hrun] at h
      exact absurd List.mem_cons_self (h e)
    · rw [TableStream.drain_of_ok _ hrun] at h ⊢
      obtain ⟨rows, listed, first, hrows, hlisted, rfl, rfl⟩ := listed_of_run_tables hwanted hrun
      obtain ⟨pulled, last, rfl, hconsecutive, hdrain⟩ := drain_of_pulled h
      refine ⟨rows, first, last, pulled, hrows, hlisted, hconsecutive,
        fun p _ => name_of_run_table p.run_table, ?_⟩
      rw [hdrain, List.append_assoc, List.singleton_append]

end Run

/-! ## A parent and a child -/

/-- The parent as it is listed. -/
def parent : Listed := ⟨"p", none⟩

/-- A row about a listed table. -/
def listedRow (l : Listed) : Row :=
  ⟨["name", "sql"], [.string l.name, .ofOption .string l.ddl?]⟩

/-- What is answered about the child, whose reference to the parent leaves out the column. -/
def childAnswered : List (List Row) := [childRows, childPairs, parentRows]

/-- What is answered about both. -/
def familyAnswered : List (List Row) := parentRows :: [] :: childAnswered

theorem exists_run_parent :
    ∃ t, (table .sqlite parent).run .inTurn familyAnswered = (.ok t, childAnswered) := by
  have hcolumns : (Query.rows ⟨columnsSql .sqlite, [.string parent.name]⟩).run .inTurn
      familyAnswered = (.ok parentRows, [] :: childAnswered) := by
    rw [Query.run_rows, familyAnswered, RowSource.fetchAll_inTurn]
  have hkeys : (Query.rows ⟨foreignKeysSql .sqlite, [.string parent.name]⟩).run .inTurn
      ([] :: childAnswered) = (.ok [], childAnswered) := by
    rw [Query.run_rows, RowSource.fetchAll_inTurn]
  have hrun := run_table_of_rows hcolumns rfl hkeys rfl
  have hview : ((table .sqlite parent).run .inTurn familyAnswered).1.toOption.isSome := by
    rw [hrun]
    cbv
  obtain ⟨t, ht⟩ := Option.isSome_iff_exists.1 hview
  exact ⟨t, Prod.ext (ok_of_toOption ht) (by rw [hrun])⟩

theorem exists_drain_family :
    ∃ t u, ((tables {} .sqlite).drain RowSource.inTurn.logged
      ([parent, child].map listedRow :: familyAnswered, [])).1 = [.ok t, .ok u] := by
  obtain ⟨t, ht⟩ := exists_run_parent
  obtain ⟨u, hu, -⟩ := exists_run_child
  rw [← childAnswered] at hu
  have hlisting : (tables {} .sqlite).run RowSource.inTurn.logged
      ([parent, child].map listedRow :: familyAnswered, []) =
        (.ok [table .sqlite parent, table .sqlite child], (familyAnswered, [⟨tablesSql, []⟩])) := by
    show (Query.rows _ >>= _).run _ _ = _
    rw [Query.run_bind_ok _ (by rw [Query.run_rows, RowSource.fetchAll_logged,
      RowSource.fetchAll_inTurn])]
    rfl
  refine ⟨t, u, ?_⟩
  rw [TableStream.drain_of_ok _ hlisting,
    TableStream.drain_stopped_ok _ (Query.run_logged_of_run ht _),
    TableStream.drain_stopped_ok _ (Query.run_logged_of_run hu _), TableStream.drain_stopped_nil]

theorem Pulled.keyRows_inTurn {naming : Naming} (p : Pulled naming RowSource.inTurn)
    {columnRows keyRows : List Row} {rest : List (List Row)}
    (h : p.start = columnRows :: keyRows :: rest) : p.keyRows = keyRows := by
  have hcolumns := p.fetch_columns
  rw [h, RowSource.fetchAll_inTurn] at hcolumns
  have hkeys := p.fetch_keys
  rw [← (Prod.mk.inj hcolumns).2, RowSource.fetchAll_inTurn] at hkeys
  exact (Except.ok.inj (Prod.mk.inj hkeys).1).symm

/-- For the child the columns of the parent are asked for once more. -/
theorem statements_of_complete_run_family :
    (∀ e, .error e ∉ ((tables {} .sqlite).drain RowSource.inTurn.logged
      ([parent, child].map listedRow :: familyAnswered, [])).1) ∧
    ∃ p c : Pulled .sqlite RowSource.inTurn,
      ((tables {} .sqlite).drain RowSource.inTurn.logged
        ([parent, child].map listedRow :: familyAnswered, [])).1 = [.ok p.table, .ok c.table] ∧
      p.table.name = ⟨"main", "p"⟩ ∧ c.table.name = ⟨"main", "c"⟩ ∧
      ((tables {} .sqlite).drain RowSource.inTurn.logged
          ([parent, child].map listedRow :: familyAnswered, [])).2.2 =
        [⟨tablesSql, []⟩,
          columnsOf .sqlite "p", ⟨foreignKeysSql .sqlite, [.string "p"]⟩,
          columnsOf .sqlite "c", ⟨foreignKeysSql .sqlite, [.string "c"]⟩,
          columnsOf .sqlite "p"] := by
  obtain ⟨t, u, hitems⟩ := exists_drain_family
  have hok : ∀ e, .error e ∉ ((tables {} .sqlite).drain RowSource.inTurn.logged
      ([parent, child].map listedRow :: familyAnswered, [])).1 := by
    intro e
    rw [hitems]
    simp
  have hrun := statements_of_complete_run {} _ _ hok
  rw [if_neg (by simp)] at hrun
  obtain ⟨rows, first, last, pulled, hrows, hlisted, hconsecutive, hnames, hdrain⟩ := hrun
  rw [RowSource.fetchAll_inTurn] at hrows
  cases hrows
  have hpulled : pulled.map (·.listed) = [parent, child] := Except.ok.inj hlisted.symm
  obtain ⟨p, behind, rfl, hp, hbehind⟩ := List.map_eq_cons_iff.1 hpulled
  obtain ⟨c, rest, rfl, hc, hrest⟩ := List.map_eq_cons_iff.1 hbehind
  obtain rfl : rest = [] := List.map_eq_nil_iff.1 hrest
  obtain ⟨hstart, hnext, -⟩ := hconsecutive
  -- what is answered about each table is told by the state in which it is asked for
  have hstop : p.stop = childAnswered := by
    obtain ⟨t, ht⟩ := exists_run_parent
    have hrun := p.run_table
    rw [hstart, hp, ht] at hrun
    exact (Prod.mk.inj hrun).2.symm
  refine ⟨hok, p, c, ?_, ?_, ?_, ?_⟩
  · rw [hdrain]
    rfl
  · rw [hnames p (by simp), hp]
    rfl
  · rw [hnames c (by simp), hc]
    rfl
  · rw [hdrain]
    simp only [List.nil_append, List.flatMap_cons, List.flatMap_nil, List.append_nil,
      Pulled.statements, p.keyRows_inTurn hstart, c.keyRows_inTurn (hnext.trans hstop), hp, hc]
    rfl

end Sqlite

end SchemaCatalog
