import Mathlib
import SchemaCatalog.Proofs.CancelledRun
import SchemaCatalog.Proofs.DeclaredTypes
import SchemaCatalog.Proofs.ShownRows
/-!
# A shared catalog in SQLite

How SQLite tells a shared catalog: one table after the other, with the length of a type declared
together with it, a generated column by its kind, and the constraints of foreign keys by numbers. What
is collected is the catalog's model (`Sqlite.collect_of_presents`).
-/

namespace SchemaCatalog

/-! ## Rows -/

/-- The place of the column in the key counted from one, zero for other columns. -/
def SharedTable.position (t : SharedTable) (column : String) : Int :=
  match t.key.idxOf? column with
  | none => 0
  | some i => i + 1

namespace Sqlite

/-- A row about a table, without the statement that made it. -/
def listingCells (t : SharedTable) : List (String × Cell) := [
  ("name", .text t.name), ("sql", .null)]

/-- A row about a column of a table. -/
def columnCells (t : SharedTable) (c : SharedColumn) : List (String × Cell) := [
  ("name", .text c.name), ("type", .text c.declared),
  ("not_null", .number [if c.nullable then 0 else 1]), ("dflt_value", .ofText? c.default?),
  ("pk", .number [t.position c.name]), ("hidden", .number (if c.generated then [2, 3] else [0]))]

/-- A row about a pair of a foreign key, whose constraint has a number. -/
def referenceCells (number : String → Int) :
    SharedReference × ColumnPair × Nat → List (String × Cell)
  | (r, pair, i) => [
    ("id", .number [number r.constraint]), ("seq", .number [i]), ("parent_table", .text r.parent),
    ("from_column", .text pair.foreign), ("to_column", .text pair.primary)]

/-- The source answers the statements about the tables with the catalog. -/
structure Presents {σ κ : Type} (naming : Naming) (source : RowSource σ κ)
    (catalog : SharedCatalog) : Prop where
  tables : source.Lists ⟨tablesSql, []⟩ listingCells catalog.tables
  columns : ∀ t ∈ catalog.tables,
    source.Tells ⟨columnsSql naming, [.string t.name]⟩ (columnCells t) t.columns
  foreignKeys : ∀ t ∈ catalog.tables, ∃ number : String → Int,
    Set.InjOn number {c | c ∈ t.references.map (·.constraint)} ∧
      source.Tells ⟨foreignKeysSql naming, [.string t.name]⟩ (referenceCells number) t.pairs

section Rows
variable {row : Row}

theorem tableEntry_of_shows {t : SharedTable} (h : row.Shows (listingCells t)) :
    tableEntry row = .ok ⟨t.name, none⟩ := by
  have hname : row.string "sqlite_master" "name" = .ok t.name :=
    h.string _ (by simp [listingCells])
  have hddl : row.string? "sqlite_master" "sql" = .ok none :=
    h.string? _ (by simp [listingCells, Cell.ofText?])
  rw [tableEntry, hname, hddl]
  rfl

/-- What is reported of a column that is shown tells whether it is generated. -/
theorem isGenerated_of_shown {hidden : Int64} {generated : Bool}
    (h : hidden.toInt ∈ if generated then [2, 3] else [0]) :
    hidden ≠ 1 ∧ isGenerated hidden = generated := by
  have hnumber {n : Int64} : hidden = n ↔ hidden.toInt = n.toInt := Int64.toInt_inj.symm
  cases generated with
  | false =>
    obtain rfl : hidden = 0 := hnumber.2 (by simpa using h)
    decide
  | true =>
    have hkinds : hidden = 2 ∨ hidden = 3 := by simpa [hnumber] using h
    rcases hkinds with rfl | rfl <;> decide

/-- A position counted from one, or zero, tells the place in the key. -/
theorem ordinal?_of_position {t : SharedTable} {column : String} {position : Int64}
    (h : position.toInt = t.position column) :
    (if position > 0 then some (position - 1).toUInt64 else none) = t.ordinal? column := by
  rw [SharedTable.position] at h
  cases hplace : t.key.idxOf? column with
  | none =>
    simp only [hplace] at h
    have hzero : ¬ position > 0 := by
      rw [gt_iff_lt, Int64.lt_iff_toInt_lt, h]
      decide
    rw [if_neg hzero, SharedTable.ordinal?, hplace, Option.map_none]
  | some i =>
    simp only [hplace] at h
    have hpositive : position > 0 := by
      rw [gt_iff_lt, Int64.lt_iff_toInt_lt, h, Int64.toInt_zero]
      omega
    rw [if_pos hpositive, SharedTable.ordinal?, hplace, Option.map_some, toUInt64_pred_of_toInt h]

theorem columnOf?_of_shows {t : SharedTable} {c : SharedColumn} (h : row.Shows (columnCells t c)) :
    columnOf? t.fullName false row = .ok (some (c.column, t.ordinal? c.name)) := by
  obtain ⟨hidden, hhidden, hkind⟩ : ∃ n, row.int "pragma_table_xinfo" "hidden" = .ok n ∧
      n.toInt ∈ if c.generated then [2, 3] else [0] := h.int _ (by simp [columnCells])
  obtain ⟨position, hposition, hplace⟩ : ∃ n, row.int "pragma_table_xinfo" "pk" = .ok n ∧
      n.toInt ∈ [t.position c.name] := h.int _ (by simp [columnCells])
  obtain ⟨notNull, hnotNull, hzero⟩ : ∃ n, row.int "pragma_table_xinfo" "not_null" = .ok n ∧
      n.toInt ∈ [if c.nullable then 0 else 1] := h.int _ (by simp [columnCells])
  have hname : row.string "pragma_table_xinfo" "name" = .ok c.name :=
    h.string _ (by simp [columnCells])
  have hdeclared : row.string "pragma_table_xinfo" "type" = .ok c.declared :=
    h.string _ (by simp [columnCells])
  have hdefault : row.string? "pragma_table_xinfo" "dflt_value" = .ok c.default? :=
    h.string? _ (by simp [columnCells])
  obtain ⟨hshown, hgenerated⟩ := isGenerated_of_shown hkind
  have hnullable : decide (notNull = 0) = c.nullable := by
    have hnumber : notNull = 0 ↔ notNull.toInt = 0 := Int64.toInt_inj.symm
    cases hc : c.nullable <;> simp_all
  rw [columnOf?, hhidden, hname, hdeclared, hposition, hnotNull, hdefault]
  simp only [bind, Except.bind, if_neg hshown, pure, Except.pure,
    classifyColumn_declared c _ _ hgenerated, Bool.and_false, hnullable,
    ordinal?_of_position (List.mem_singleton.1 hplace)]
  rfl

theorem referenceRow_of_shows {naming : Naming} {table : TableName} {number : String → Int}
    {r : SharedReference} {pair : ColumnPair} {i : Nat}
    (h : row.Shows (referenceCells number (r, pair, i))) :
    referenceRow naming table row = pure (r.row (fun c => (number c).repr) (pair, i)) := by
  obtain ⟨position, hposition, hplace⟩ : ∃ n, row.int "pragma_foreign_key_list" "seq" = .ok n ∧
      n.toInt ∈ [(i : Int)] := h.int _ (by simp [referenceCells])
  obtain ⟨id, hid, hnumber⟩ : ∃ n, row.int "pragma_foreign_key_list" "id" = .ok n ∧
      n.toInt ∈ [number r.constraint] := h.int _ (by simp [referenceCells])
  have hparent : row.string "pragma_foreign_key_list" "parent_table" = .ok r.parent :=
    h.string _ (by simp [referenceCells])
  have hprimary : row.string? "pragma_foreign_key_list" "to_column" = .ok (some pair.primary) :=
    h.string? _ (by simp [referenceCells, Cell.ofText?])
  have hforeign : row.string "pragma_foreign_key_list" "from_column" = .ok pair.foreign :=
    h.string _ (by simp [referenceCells])
  have hordinal : position.toUInt64 = UInt64.ofNat i :=
    toUInt64_of_toInt (List.mem_singleton.1 hplace)
  rw [referenceRow, hposition, hparent, hprimary, hid, hforeign]
  show (pure _ : Query ReferenceRow) = pure _
  rw [hordinal, List.mem_singleton.1 hnumber]
  rfl

end Rows

section Tables
variable {σ κ : Type} {source : RowSource σ κ} {naming : Naming} {catalog : SharedCatalog}

/-- The key that the columns enter, in any order, has the places of the table's own. -/
theorem find?_foldl_addKeyColumn (ordinal? : String → Option UInt64) (columns : List Column)
    (key : KeyOrdinals) (column : String) :
    ((columns.map fun c => (c, ordinal? c.name)).foldl addKeyColumn key).find? column =
      if column ∈ columns.map (·.name) then (ordinal? column).or (key.find? column)
      else key.find? column := by
  induction columns generalizing key with
  | nil => rfl
  | cons c rest ih =>
    have hfirst : (addKeyColumn key (c, ordinal? c.name)).find? column =
        if c.name = column then (ordinal? column).or (key.find? column) else key.find? column := by
      cases hc : ordinal? c.name with
      | none =>
        by_cases hcolumn : c.name = column
        · rw [addKeyColumn, if_pos hcolumn, ← hcolumn, hc, Option.none_or]
        · rw [addKeyColumn, if_neg hcolumn]
      | some ordinal =>
        rw [addKeyColumn, Lookup.insert, Lookup.find?_alter]
        by_cases hcolumn : c.name = column
        · rw [if_pos hcolumn, if_pos hcolumn, ← hcolumn, hc, Option.some_or]
        · rw [if_neg hcolumn, if_neg hcolumn]
    rw [List.map_cons, List.foldl_cons, ih, hfirst]
    by_cases hcolumn : c.name = column
    · simp [hcolumn, ← Option.or_assoc]
    · simp [hcolumn, Ne.symm hcolumn]

/-- Every place of the key belongs to a column, so all are entered. -/
theorem find?_key {t : SharedTable} {columns : List SharedColumn} (h : columns.Perm t.columns)
    (column : String) :
    ((columns.map fun c => (c.column, t.ordinal? c.name)).foldl addKeyColumn Lookup.empty).find?
      column = t.ordinal? column := by
  have hentered := find?_foldl_addKeyColumn t.ordinal? (columns.map (·.column)) Lookup.empty column
  rw [List.map_map, List.map_map, Lookup.find?_empty, Option.or_none] at hentered
  refine hentered.trans ?_
  by_cases hmem : column ∈ columns.map (·.name)
  · exact if_pos hmem
  · cases hplace : t.ordinal? column with
    | none => exact ite_self none
    | some ordinal =>
      have hcolumn := SharedTable.mem_columns_of_ordinal? hplace
      exact absurd ((h.map _).mem_iff.2 hcolumn) hmem

/-- The rows about the foreign keys of a table are read without asking anything more. -/
theorem run_references {t : SharedTable} {number : String → Int}
    (h : source.Tells ⟨foreignKeysSql naming, [.string t.name]⟩ (referenceCells number) t.pairs)
    (s : σ) :
    ∃ rows references s',
      (Query.rows ⟨foreignKeysSql naming, [.string t.name]⟩).run source s = (.ok rows, s') ∧
      (rows.mapM (referenceRow naming t.fullName)).run source s' = (.ok references, s') ∧
      references.Perm (t.referenceRows fun c => (number c).repr) := by
  obtain ⟨rows, pairs, hrows, hperm, hshown⟩ := h s
  have hread : rows.mapM (referenceRow naming t.fullName) =
      pure (pairs.map fun (r, pair) => r.row (fun c => (number c).repr) pair) :=
    mapM_of_forall₂ hshown fun _ _ row hrow => referenceRow_of_shows hrow
  refine ⟨rows, pairs.map fun (r, pair) => r.row (fun c => (number c).repr) pair, _,
    (Query.run_rows source _ s).trans (Prod.ext hrows rfl), ?_, ?_⟩
  · rw [hread, Query.run_pure]
  · refine (hperm.map _).trans (.of_eq ?_)
    simp [SharedTable.pairs, SharedTable.referenceRows, SharedReference.rows, List.map_flatMap,
      Function.comp_def]

/-- A table that is shown comes out as in the model. -/
theorem run_table_of_presents (h : Presents naming source catalog) {t : SharedTable}
    (ht : t ∈ catalog.tables) (s : σ) :
    ((table naming ⟨t.name, none⟩).run source s).1 = t.build := by
  obtain ⟨rows, columns, hrows, hperm, hshown⟩ := h.columns t ht s
  obtain ⟨number, hnumber, htold⟩ := h.foreignKeys t ht
  have hfound : rows.mapM (columnOf? t.fullName (declaresAutoincrement none)) =
      .ok (columns.map fun c => some (c.column, t.ordinal? c.name)) :=
    mapM_of_forall₂ hshown fun c _ row hrow => columnOf?_of_shows hrow
  have hentries : (columns.map fun c => some (c.column, t.ordinal? c.name)).filterMap id =
      columns.map fun c => (c.column, t.ordinal? c.name) := by
    rw [List.filterMap_map]
    exact congrFun List.filterMap_eq_map' columns
  obtain ⟨referenceRows, references, s', hreferenceRows, hreferences, hpairs⟩ :=
    run_references htold (source.fetchAll ⟨columnsSql naming, [.string t.name]⟩ s).2
  rw [run_table_of_rows (l := ⟨t.name, none⟩)
    ((Query.run_rows source _ s).trans (Prod.ext hrows rfl)) hfound hreferenceRows hreferences,
    hentries]
  refine t.assemble_eq_build (fun c => (number c).repr) ?_ (find?_key hperm) ?_ hpairs
  · rw [List.map_map]
    exact hperm.map _
  -- the numbers of the constraints differ, and so do their texts
  · intro c hc d hd heq
    exact hnumber hc hd (Int.repr_injective heq)

theorem collect_of_presents {options : ExtractOptions} (hmain : includesMain options)
    (h : Presents naming source catalog) (s : σ) :
    ((tables options naming).collect source s).1 = catalog.model := by
  obtain ⟨s', listed, hlisted, hread⟩ := h.tables.reads (fun t => Listed.mk t.name none)
    (fun t _ row hrow => tableEntry_of_shows hrow) s
  have hrun : (tables options naming).run source s =
      (.ok (catalog.tables.map fun t => table naming ⟨t.name, none⟩), s') := by
    rw [tables, if_pos hmain, Query.run_bind_ok source (by rw [Query.run_rows, hlisted]),
      Query.run_bind_ok source (by rw [Query.run_ofExcept, hread]), List.map_map]
    rfl
  rw [TableStream.collect_eq_mapM, TableStream.drain_of_ok source hrun,
    ItemStream.drain_stopAfterError, mapM_id_upToError,
    TableStream.drain_tables_map source fun t ht => run_table_of_presents h ht,
    List.mapM_map]
  rfl

end Tables

end Sqlite

end SchemaCatalog
