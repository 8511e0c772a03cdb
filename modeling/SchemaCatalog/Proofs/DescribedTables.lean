import Mathlib
import SchemaCatalog.Proofs.CancelledRun
import SchemaCatalog.Proofs.ColumnPolicy
import SchemaCatalog.Proofs.RowOrder
import SchemaCatalog.Proofs.ShownRows
/-!
# What SQLite tells of a table

SQLite is asked about one table after the other, and each row of an answer is a fact about a column or
about a pair of a foreign key. The table that comes out is the one that the facts describe: nothing is
lost, and nothing is there that no fact tells of (`Sqlite.table_described`). The rows may come in any
order and with any numbers.
-/

namespace SchemaCatalog

namespace Sqlite

/-! ## Facts -/

/-- What a row tells about a column. -/
structure ColumnFacts where
  name : String
  declared : String
  /-- The place in the primary key, counted from one; it is not positive for other columns. -/
  position : Int64
  notNull : Int64
  default? : Option String
  /-- Which kind of column it is. -/
  hidden : Int64

/-- The row is about a column that belongs to the inner works of a virtual table. -/
def isInner (row : Row) : Bool :=
  match row.int "pragma_table_xinfo" "hidden" with
  | .ok hidden => hidden = 1
  | .error _ => false

/-- The facts of a row about a column. -/
def columnFacts (row : Row) : Except Error ColumnFacts := do
  let name ← row.string "pragma_table_xinfo" "name"
  let declared ← row.string "pragma_table_xinfo" "type"
  let position ← row.int "pragma_table_xinfo" "pk"
  let notNull ← row.int "pragma_table_xinfo" "not_null"
  let default? ← row.string? "pragma_table_xinfo" "dflt_value"
  let hidden ← row.int "pragma_table_xinfo" "hidden"
  pure { name, declared, position, notNull, default?, hidden }

namespace ColumnFacts

/-- The column belongs to the primary key. -/
def inKey (f : ColumnFacts) : Bool :=
  0 < f.position

/-- The place in the primary key, counted from zero. -/
def ordinal? (f : ColumnFacts) : Option UInt64 :=
  if f.inKey then some (f.position - 1).toUInt64 else none

/-- The declared type without what marks generated columns. -/
def dataType (f : ColumnFacts) : String :=
  let cs := Text.trimBlanks f.declared.toList
  typeName (String.ofList ((beforeMarker? cs).getD cs)) none

/-- The column that the facts describe. -/
def column (autoincrement : Bool) (f : ColumnFacts) : Column where
  name := f.name
  dataType := f.dataType
  nullable := f.notNull = 0
  default? := if f.inKey && autoincrement then none else f.default?
  keyOrdinal? := f.ordinal?
  isComputed := f.hidden = 2 || f.hidden = 3
  isIdentity := f.inKey && autoincrement
  isConcurrencyToken := false

end ColumnFacts

/-- The facts about the columns of the key in the order of their positions. -/
def keyFacts (columns : List ColumnFacts) : List ColumnFacts :=
  (columns.filter (·.inKey)).mergeSort fun a b => a.position ≤ b.position

/-- What a row tells about a pair of a foreign key. -/
structure ReferenceFacts where
  id : Int64
  /-- The position of the pair, counted from zero. -/
  position : Int64
  parent : String
  foreign : String
  /-- The parent's column, if it was named. -/
  primary? : Option String

/-- The facts of a row about a pair of a foreign key. -/
def referenceFacts (row : Row) : Except Error ReferenceFacts := do
  let id ← row.int "pragma_foreign_key_list" "id"
  let position ← row.int "pragma_foreign_key_list" "seq"
  let parent ← row.string "pragma_foreign_key_list" "parent_table"
  let foreign ← row.string "pragma_foreign_key_list" "from_column"
  let primary? ← row.string? "pragma_foreign_key_list" "to_column"
  pure { id, position, parent, foreign, primary? }

/-- The facts with the parent's column, for which the parent is asked if it was not named. -/
def ReferenceFacts.resolve (naming : Naming) (table : TableName) (f : ReferenceFacts) :
    Query (ReferenceFacts × String) :=
  match f.primary? with
  | some column => pure (f, column)
  | none => do pure (f, ← implicitParentColumn naming table f.parent f.position)

/-- The pair of columns. -/
def referencePair (r : ReferenceFacts × String) : ColumnPair :=
  ⟨r.1.foreign, r.2⟩

/-- Asked about the table, the source tells of these columns and of these pairs. -/
def Reports {σ κ : Type} (naming : Naming) (l : Listed) (source : RowSource σ κ) (s s' : σ)
    (columns : List ColumnFacts) (references : List (ReferenceFacts × String)) : Prop :=
  ∃ columnRows s₁ referenceRows s₂ facts,
    source.fetchAll ⟨columnsSql naming, [.string l.name]⟩ s = (.ok columnRows, s₁) ∧
    (columnRows.filter fun row => !isInner row).mapM columnFacts = .ok columns ∧
    source.fetchAll ⟨foreignKeysSql naming, [.string l.name]⟩ s₁ = (.ok referenceRows, s₂) ∧
    referenceRows.mapM referenceFacts = .ok facts ∧
    (facts.mapM (ReferenceFacts.resolve naming ⟨mainSchema, l.name⟩)).run source s₂ =
      (.ok references, s')

/-- The table is the one that the facts describe. -/
structure Describes (l : Listed) (facts : List ColumnFacts)
    (references : List (ReferenceFacts × String)) (t : Table) : Prop where
  name : t.name = ⟨mainSchema, l.name⟩
  distinct : (facts.map (·.name)).Nodup
  columns : t.columns.Perm (facts.map (·.column (declaresAutoincrement l.ddl?)))
  /-- The positions count from one. -/
  positions : (keyFacts facts).map (·.position.toInt) =
    (List.range (keyFacts facts).length).map fun i : Nat => (i : Int) + 1
  primaryKey : t.primaryKey = (keyFacts facts).map (·.column (declaresAutoincrement l.ddl?))
  /-- The pairs of one number have one parent. -/
  oneParent : ∀ r ∈ references, ∀ r' ∈ references, r'.1.id = r.1.id → r'.1.parent = r.1.parent
  /-- There is one foreign key for each number, of all pairs of this number. -/
  foreignKeys : ∀ k, k ∈ t.foreignKeys ↔ ∃ r ∈ references,
    k.parent = ⟨mainSchema, r.1.parent⟩ ∧
      k.pairs = SortedSet.ofList ((references.filter (·.1.id = r.1.id)).map referencePair)

/-! ## Columns -/

namespace ColumnFacts

variable {f : ColumnFacts} {facts : List ColumnFacts} {autoincrement : Bool}

@[simp]
theorem column_name (autoincrement : Bool) (f : ColumnFacts) :
    (f.column autoincrement).name = f.name := rfl

@[simp]
theorem column_keyOrdinal? (autoincrement : Bool) (f : ColumnFacts) :
    (f.column autoincrement).keyOrdinal? = f.ordinal? := rfl

@[simp]
theorem column_isPrimaryKey (autoincrement : Bool) (f : ColumnFacts) :
    (f.column autoincrement).isPrimaryKey = f.inKey := by
  unfold Column.isPrimaryKey
  rw [column_keyOrdinal?, ordinal?]
  cases f.inKey <;> rfl

/-- The column as it is read, before the rules for all columns are applied, and its place in the
key. -/
def entry (autoincrement : Bool) (f : ColumnFacts) : Column × Option UInt64 :=
  ({ f.column autoincrement with default? := f.default?, keyOrdinal? := none }, f.ordinal?)

theorem map_entry_name (autoincrement : Bool) (facts : List ColumnFacts) :
    ((facts.map (·.entry autoincrement)).map (·.1)).map (·.name) = facts.map (·.name) := by
  rw [List.map_map, List.map_map]
  rfl

/-- The place of the column in the key under its name, if it has one. -/
def keyPlace? (f : ColumnFacts) : Option (String × UInt64) :=
  f.ordinal?.map fun ordinal => (f.name, ordinal)

theorem foldl_addKeyColumn (autoincrement : Bool) (facts : List ColumnFacts) (key : KeyOrdinals) :
    (facts.map (·.entry autoincrement)).foldl addKeyColumn key =
      (facts.filterMap keyPlace?).foldl (fun key e => key.insert e.1 e.2) key := by
  induction facts generalizing key with
  | nil => rfl
  | cons f rest ih =>
    rw [List.map_cons, List.foldl_cons, ih, List.filterMap_cons]
    cases h : f.ordinal? with
    | none => simp only [keyPlace?, entry, addKeyColumn, h, Option.map_none]
    | some ordinal =>
      simp only [keyPlace?, entry, addKeyColumn, h, Option.map_some, List.foldl_cons, column_name]

theorem keyPlaces_sublist (facts : List ColumnFacts) :
    ((facts.filterMap keyPlace?).map (·.1)).Sublist (facts.map (·.name)) := by
  induction facts with
  | nil => exact .slnil
  | cons f rest ih =>
    rw [List.filterMap_cons, List.map_cons]
    cases h : f.ordinal? with
    | none =>
      simp only [keyPlace?, h, Option.map_none]
      exact ih.cons _
    | some ordinal =>
      simp only [keyPlace?, h, Option.map_some, List.map_cons]
      exact ih.cons_cons _

/-- Where names differ, a column has the place that was entered for it. -/
theorem find?_keyPlaces (hn : (facts.map (·.name)).Nodup) (hf : f ∈ facts) :
    (Lookup.ofList (facts.filterMap keyPlace?)).find? f.name = f.ordinal? := by
  refine Option.ext fun ordinal => ?_
  rw [Lookup.find?_ofList_of_nodup (hn.sublist (keyPlaces_sublist facts)), List.mem_filterMap]
  simp only [keyPlace?, Option.map_eq_some_iff, Prod.mk.injEq]
  constructor
  · rintro ⟨g, hg, _, hordinal, hname, rfl⟩
    rw [← List.inj_on_of_nodup_map hn hg hf hname]
    exact hordinal
  · intro hordinal
    exact ⟨f, hf, ordinal, hordinal, rfl, rfl⟩

/-- The rules for all columns and the place in the key make the column that is described. -/
theorem marked_entry {key : KeyOrdinals} (hkey : key.find? f.name = f.ordinal?) :
    (f.entry autoincrement).1.normalized.marked key = f.column autoincrement := by
  simp only [Column.marked, Column.normalized, entry, hkey, Option.or_none, column, Bool.or_false]
  rfl

/-- A position that counts is one more than the place. -/
theorem toNat_ordinal (h : f.inKey) :
    (((f.position - 1).toUInt64.toNat : Nat) : Int) + 1 = f.position.toInt := by
  have hpositive : 0 < f.position.toInt := by
    have hlt := Int64.lt_iff_toInt_lt.1 (of_decide_eq_true h)
    rwa [Int64.toInt_zero] at hlt
  have hbound := f.position.toInt_lt
  have hplace : f.position.toInt = ((f.position.toInt.toNat - 1 : Nat) : Int) + 1 := by omega
  rw [toUInt64_pred_of_toInt hplace, UInt64.toNat_ofNat_of_lt' (by
    show _ < 2 ^ 64
    omega)]
  omega

end ColumnFacts

section Columns
variable {table : TableName} {autoincrement : Bool} {row : Row}

theorem type_of_classifyColumn {column declared type : String} {hidden : Int64} {computed : Bool}
    (h : classifyColumn table column declared hidden = .ok (type, computed)) :
    type = typeName (String.ofList ((beforeMarker? (Text.trimBlanks declared.toList)).getD
        (Text.trimBlanks declared.toList))) none ∧
      computed = (decide (hidden = 2) || decide (hidden = 3)) := by
  rw [classifyColumn_eq] at h
  split at h
  · rename_i bare hbare
    split at h
    · rename_i hgenerated
      obtain ⟨rfl, rfl⟩ := Prod.mk.inj (Except.ok.inj h)
      rw [hbare]
      exact ⟨rfl, hgenerated.symm⟩
    · exact absurd h (by simp)
  · rename_i hnone
    obtain ⟨rfl, rfl⟩ := Prod.mk.inj (Except.ok.inj h)
    rw [hnone]
    exact ⟨rfl, rfl⟩

theorem columnOf?_of_isInner (h : isInner row) : columnOf? table autoincrement row = .ok none := by
  unfold isInner at h
  split at h
  · rename_i hidden hhidden
    unfold columnOf?
    rw [hhidden]
    simp only [bind, Except.bind, if_pos (of_decide_eq_true h)]
    rfl
  · cases h

/-- A row that is read as a column tells its facts. -/
theorem facts_of_columnOf? {found? : Option (Column × Option UInt64)} (hinner : ¬ isInner row)
    (h : columnOf? table autoincrement row = .ok found?) :
    ∃ f, columnFacts row = .ok f ∧ found? = some (f.entry autoincrement) := by
  obtain ⟨hidden, hhidden, h⟩ := bind_ok_iff.1 h
  have hshown : ¬ hidden = 1 := by
    intro hone
    exact hinner (by rw [isInner, hhidden]; exact decide_eq_true hone)
  simp only [if_neg hshown, bind_ok_iff] at h
  obtain ⟨name, hname, declared, hdeclared, ⟨type, computed⟩, hclass, position, hposition, notNull,
    hnotNull, default?, hdefault, hentry⟩ := h
  obtain ⟨rfl, rfl⟩ := type_of_classifyColumn hclass
  refine ⟨⟨name, declared, position, notNull, default?, hidden⟩, ?_, ?_⟩
  · simp only [columnFacts, hname, hdeclared, hposition, hnotNull, hdefault, hhidden]
    rfl
  · cases hentry
    simp only [ColumnFacts.entry, ColumnFacts.column, ColumnFacts.dataType, ColumnFacts.ordinal?,
      ColumnFacts.inKey, decide_eq_true_eq, gt_iff_lt]

/-- Rows that are read as columns tell the facts of those columns that are not passed over. -/
theorem facts_of_columns {rows : List Row} {found : List (Option (Column × Option UInt64))}
    (h : rows.mapM (columnOf? table autoincrement) = .ok found) :
    ∃ facts, (rows.filter fun row => !isInner row).mapM columnFacts = .ok facts ∧
      found.filterMap id = facts.map (·.entry autoincrement) := by
  induction rows generalizing found with
  | nil =>
    cases h
    exact ⟨[], rfl, rfl⟩
  | cons row rest ih =>
    obtain ⟨found?, found', hrow, hrest, rfl⟩ := mapM_cons_ok_iff.1 h
    obtain ⟨facts, hfacts, hfound⟩ := ih hrest
    by_cases hinner : isInner row
    · rw [columnOf?_of_isInner hinner] at hrow
      cases hrow
      refine ⟨facts, ?_, hfound⟩
      rw [List.filter_cons_of_neg (by simp [hinner])]
      exact hfacts
    · obtain ⟨f, hf, rfl⟩ := facts_of_columnOf? hinner hrow
      refine ⟨f :: facts, ?_, ?_⟩
      · rw [List.filter_cons_of_pos (by simp [hinner])]
        exact mapM_cons_ok_iff.2 ⟨f, facts, hf, hfacts, rfl⟩
      · show f.entry autoincrement :: found'.filterMap id = _
        rw [hfound, List.map_cons]

end Columns

/-! ## The key -/

section Key
variable {facts : List ColumnFacts} {autoincrement : Bool} {t : Table}

theorem keyFacts_perm (facts : List ColumnFacts) :
    (keyFacts facts).Perm (facts.filter (·.inKey)) :=
  List.mergeSort_perm _ _

theorem inKey_of_mem_keyFacts {f : ColumnFacts} (h : f ∈ keyFacts facts) : f.inKey :=
  (List.mem_filter.1 ((keyFacts_perm facts).mem_iff.1 h)).2

/-- Positions increase exactly as the places do. -/
theorem keyFacts_sorted (autoincrement : Bool) (facts : List ColumnFacts) :
    ((keyFacts facts).map (·.column autoincrement)).Pairwise
      fun c d => c.keyOrdinal?.getD 0 ≤ d.keyOrdinal?.getD 0 := by
  have hsorted : (keyFacts facts).Pairwise fun f g => f.position ≤ g.position :=
    Table.pairwise_mergeSort_key (fun f : ColumnFacts => f.position) Int64.le_trans Int64.le_total _
  rw [List.pairwise_map]
  refine hsorted.imp_of_mem fun {f g} hf hg hfg => ?_
  have hf' := inKey_of_mem_keyFacts hf
  have hg' := inKey_of_mem_keyFacts hg
  have hplaces := ColumnFacts.toNat_ordinal hf'
  have hplaces' := ColumnFacts.toNat_ordinal hg'
  have hle := Int64.le_iff_toInt_le.1 hfg
  simp only [ColumnFacts.column_keyOrdinal?, ColumnFacts.ordinal?, hf', hg', if_true,
    Option.getD_some, UInt64.le_iff_toNat_le]
  omega

/-- The key columns of a well-formed table are those of the facts with a position, in the order of
the positions. -/
theorem primaryKey_eq_keyFacts (hw : t.WellFormed)
    (hcolumns : t.columns.Perm (facts.map (·.column autoincrement))) :
    t.primaryKey = (keyFacts facts).map (·.column autoincrement) := by
  have hperm : t.primaryKey.Perm ((keyFacts facts).map (·.column autoincrement)) := by
    refine hw.keyColumns.trans ((hcolumns.filter _).trans ?_)
    rw [List.filter_map]
    have hsame : facts.filter ((·.isPrimaryKey) ∘ (·.column autoincrement)) =
        facts.filter (·.inKey) :=
      List.filter_congr fun f _ => ColumnFacts.column_isPrimaryKey autoincrement f
    rw [hsame]
    exact ((keyFacts_perm facts).map _).symm
  refine List.Perm.eq_of_pairwise (fun c d hc hd hcd hdc => ?_) (Table.primaryKey_sorted t)
    (keyFacts_sorted autoincrement facts) hperm
  -- two columns of the key at one place are the same column
  have hplace := UInt64.le_antisymm hcd hdc
  obtain ⟨i, hi⟩ := List.getElem?_of_mem hc
  obtain ⟨j, hj⟩ := List.getElem?_of_mem (hperm.mem_iff.2 hd)
  have hij : i = j := by
    have hi' := (hw.primaryKey_eq_some_iff.1 hi).2
    have hj' := (hw.primaryKey_eq_some_iff.1 hj).2
    rw [Table.keyOrdinal?_of_mem_primaryKey (List.mem_of_getElem? hi), hplace] at hi'
    rw [Table.keyOrdinal?_of_mem_primaryKey (List.mem_of_getElem? hj)] at hj'
    exact Option.some.inj (hi'.symm.trans hj')
  rw [hij, hj] at hi
  exact (Option.some.inj hi).symm

/-- The positions in the key are those of a well-formed table, counted from one. -/
theorem positions_of_primaryKey (hw : t.WellFormed)
    (hkey : t.primaryKey = (keyFacts facts).map (·.column autoincrement)) :
    (keyFacts facts).map (·.position.toInt) =
      (List.range (keyFacts facts).length).map fun i : Nat => (i : Int) + 1 := by
  have horder := hw.keyOrder
  rw [hkey, List.map_map, List.length_map] at horder
  have hcounted := congrArg (List.map fun place? : Option Nat => ((place?.getD 0 : Nat) : Int) + 1)
    horder
  rw [List.map_map, List.map_map] at hcounted
  refine (List.map_congr_left fun f hf => ?_).trans hcounted
  have hf' := inKey_of_mem_keyFacts hf
  simp only [Function.comp, ColumnFacts.column_keyOrdinal?, ColumnFacts.ordinal?, hf', if_true,
    Option.map_some, Option.getD_some, ColumnFacts.toNat_ordinal hf']

end Key

/-! ## Pairs -/

/-- The pair as it is grouped into foreign keys, with its number as the name of a constraint. -/
def referenceOf (r : ReferenceFacts × String) : ReferenceRow :=
  ⟨toString r.1.id.toInt, r.1.position.toUInt64, r.1.foreign, ⟨mainSchema, r.1.parent⟩, r.2⟩

section References
variable {σ κ : Type} {source : RowSource σ κ} {naming : Naming} {table : TableName} {s s' : σ}

/-- The parent's column is the one at the position among its key columns. -/
theorem run_implicitParentColumn {parent : String} {position : Int64} {rows : List Row}
    {columns : List (Int64 × String)}
    (hrows : source.fetchAll ⟨columnsSql naming, [.string parent]⟩ s = (.ok rows, s'))
    (hcolumns : keyColumns rows = .ok columns) :
    (implicitParentColumn naming table parent position).run source s =
      (match columns[position.toUInt64.toNat]? with
        | some column => .ok column.2
        | none => .error (.inTable table (.noImplicitParent parent position)), s') := by
  rw [implicitParentColumn, Query.run_bind_ok source (by rw [Query.run_rows, hrows]),
    Query.run_bind_ok source (by rw [Query.run_ofExcept, hcolumns])]
  cases columns[position.toUInt64.toNat]? <;> rfl

/-- A row whose facts are known is read by asking for the parent's column. -/
theorem referenceRow_of_facts {row : Row} {f : ReferenceFacts} (h : referenceFacts row = .ok f) :
    referenceRow naming table row = f.resolve naming table >>= fun r => pure (referenceOf r) := by
  simp only [referenceFacts, bind_ok_iff] at h
  obtain ⟨id, hid, position, hposition, parent, hparent, foreign, hforeign, primary?, hprimary, h⟩ := h
  cases h
  unfold referenceRow
  rw [hposition, hparent, hprimary, hid, hforeign]
  cases primary? with
  | some column => rfl
  | none =>
    simp only [ReferenceFacts.resolve, bind_assoc]
    rfl

theorem exists_facts_of_referenceRow {row : Row} {reference : ReferenceRow}
    (h : (referenceRow naming table row).run source s = (.ok reference, s')) :
    ∃ f, referenceFacts row = .ok f := by
  simp only [referenceRow, Query.run_bind_eq_ok_iff, Query.run_ofExcept, Prod.mk.injEq] at h
  obtain ⟨position, _, ⟨hposition, -⟩, parent, _, ⟨hparent, -⟩, primary?, _, ⟨hprimary, -⟩, h⟩ := h
  -- the last two columns are read on both ways to the parent's column
  obtain ⟨id, foreign, hid, hforeign⟩ : ∃ id foreign,
      row.int "pragma_foreign_key_list" "id" = .ok id ∧
        row.string "pragma_foreign_key_list" "from_column" = .ok foreign := by
    cases primary? with
    | some column =>
      simp only [Query.run_bind_eq_ok_iff, Query.run_ofExcept, Prod.mk.injEq] at h
      obtain ⟨_, _, -, id, _, ⟨hid, -⟩, foreign, _, ⟨hforeign, -⟩, -⟩ := h
      exact ⟨id, foreign, hid, hforeign⟩
    | none =>
      simp only [Query.run_bind_eq_ok_iff, Query.run_ofExcept, Prod.mk.injEq] at h
      obtain ⟨_, _, -, id, _, ⟨hid, -⟩, foreign, _, ⟨hforeign, -⟩, -⟩ := h
      exact ⟨id, foreign, hid, hforeign⟩
  refine ⟨⟨id, position, parent, foreign, primary?⟩, ?_⟩
  rw [referenceFacts, hid, hposition, hparent, hforeign, hprimary]
  rfl

/-- Rows that are read as pairs tell the facts of these pairs, with the columns that the parents
were asked for. -/
theorem facts_of_references {rows : List Row} {rs : List ReferenceRow}
    (h : (rows.mapM (referenceRow naming table)).run source s = (.ok rs, s')) :
    ∃ facts references, rows.mapM referenceFacts = .ok facts ∧
      (facts.mapM (ReferenceFacts.resolve naming table)).run source s = (.ok references, s') ∧
      rs = references.map referenceOf := by
  induction rows generalizing s rs with
  | nil =>
    cases h
    exact ⟨[], [], rfl, rfl, rfl⟩
  | cons row rest ih =>
    obtain ⟨r, rs', t, hrow, hrest, rfl⟩ := Query.run_mapM_cons_ok source h
    obtain ⟨facts, references, hfacts, hreferences, rfl⟩ := ih hrest
    obtain ⟨f, hf⟩ := exists_facts_of_referenceRow hrow
    rw [referenceRow_of_facts hf, Query.run_bind_eq_ok_iff] at hrow
    obtain ⟨reference, _, hresolved, hpure⟩ := hrow
    obtain ⟨hr, rfl⟩ := Prod.mk.inj hpure
    refine ⟨f :: facts, reference :: references, ?_, ?_, ?_⟩
    · exact mapM_cons_ok_iff.2 ⟨f, facts, hf, hfacts, rfl⟩
    · rw [List.mapM_cons, Query.run_bind_ok source hresolved, Query.run_bind_ok source hreferences,
        Query.run_pure]
    · rw [List.map_cons, Except.ok.inj hr]

theorem constraint_referenceOf_inj {r r' : ReferenceFacts × String} :
    (referenceOf r).constraint = (referenceOf r').constraint ↔ r.1.id = r'.1.id := by
  constructor
  · intro h
    exact Int64.toInt_inj.1 (Int.repr_injective h)
  · intro h
    rw [referenceOf, referenceOf, h]

/-- Numbers differ as their texts do. -/
theorem filter_map_referenceOf (references : List (ReferenceFacts × String))
    (r : ReferenceFacts × String) :
    ((references.map referenceOf).filter (·.constraint = (referenceOf r).constraint)).map
        (·.pair) =
      (references.filter (·.1.id = r.1.id)).map referencePair := by
  rw [List.filter_map, List.map_map]
  refine congrArg _ (List.filter_congr fun r' _ => ?_)
  exact decide_eq_decide.2 constraint_referenceOf_inj

end References

/-! ## The table -/

section Table
variable {l : Listed} {facts : List ColumnFacts} {references : List (ReferenceFacts × String)}
  {t : Table}

/-- A table that is assembled from facts is the one that they describe. -/
theorem describes_of_assemble (h : Table.assemble ⟨mainSchema, l.name⟩
      ((facts.map (·.entry (declaresAutoincrement l.ddl?))).map (·.1))
      ((facts.map (·.entry (declaresAutoincrement l.ddl?))).foldl addKeyColumn Lookup.empty)
      (references.map referenceOf) = .ok t) : Describes l facts references t := by
  have hw : t.WellFormed := Table.wellFormed_of_assemble h
  have hname : t.name = ⟨mainSchema, l.name⟩ := Table.name_of_assemble h
  rw [ColumnFacts.foldl_addKeyColumn] at h
  obtain ⟨-, keys, hkeys, htable⟩ := Table.assemble_eq_ok_iff_marked.1 h
  obtain ⟨-, ht⟩ := Table.ofColumns_eq_ok_iff.1 htable
  have hcolumns : t.columns.Perm (((facts.map (·.entry (declaresAutoincrement l.ddl?))).map
      (·.1)).map fun c => c.normalized.marked (Lookup.ofList
        (facts.filterMap ColumnFacts.keyPlace?))) := by
    rw [ht]
    exact Table.perm_byName _
  have hdistinct : (facts.map (·.name)).Nodup := by
    have hnames := (hcolumns.map (·.name)).nodup_iff.1 hw.distinct
    rw [List.map_map] at hnames
    rw [← ColumnFacts.map_entry_name (declaresAutoincrement l.ddl?)]
    exact hnames
  -- names differ, so each column got the place that its own row gives it
  replace hcolumns : t.columns.Perm (facts.map (·.column (declaresAutoincrement l.ddl?))) := by
    refine hcolumns.trans (.of_eq ?_)
    rw [List.map_map, List.map_map]
    exact List.map_congr_left fun f hf =>
      ColumnFacts.marked_entry (ColumnFacts.find?_keyPlaces hdistinct hf)
  have hkey := primaryKey_eq_keyFacts hw hcolumns
  refine ⟨hname, hdistinct, hcolumns, positions_of_primaryKey hw hkey, hkey, ?_, ?_⟩
  · intro r hr r' hr' hid
    have hparent := ForeignKey.parent_of_grouped hkeys (List.mem_map_of_mem hr)
      (List.mem_map_of_mem hr') (constraint_referenceOf_inj.2 hid)
    exact (TableName.mk.inj hparent).2
  · intro k
    have hmem : k ∈ t.foreignKeys ↔ k ∈ keys := by
      rw [ht]
      exact SortedSet.mem_ofList
    rw [hmem, ForeignKey.mem_grouped_iff hkeys]
    constructor
    · rintro ⟨_, hrow, hparent, hpairs⟩
      obtain ⟨r, hr, rfl⟩ := List.mem_map.1 hrow
      exact ⟨r, hr, hparent, by rw [hpairs, filter_map_referenceOf]⟩
    · rintro ⟨r, hr, hparent, hpairs⟩
      exact ⟨referenceOf r, List.mem_map_of_mem hr, hparent, by rw [hpairs, filter_map_referenceOf]⟩

/-- A table comes out only if its facts were told, and then it is the one that they describe. -/
theorem describes_of_run_table {σ κ : Type} {source : RowSource σ κ} {naming : Naming} {s s' : σ}
    (h : (table naming l).run source s = (.ok t, s')) :
    ∃ facts references, Reports naming l source s s' facts references ∧
      Describes l facts references t := by
  simp only [table, Query.run_bind_eq_ok_iff, Query.run_rows, Query.run_ofExcept,
    Prod.mk.injEq] at h
  obtain ⟨columnRows, s₁, hcolumnRows, found, _, ⟨hfound, rfl⟩, referenceRows, s₂, hreferenceRows,
    rs, s₃, hrs, htable, rfl⟩ := h
  obtain ⟨facts, hfacts, hentries⟩ := facts_of_columns hfound
  obtain ⟨pairs, references, hpairs, hreferences, rfl⟩ := facts_of_references hrs
  rw [hentries] at htable
  exact ⟨facts, references,
    ⟨columnRows, s₁, referenceRows, s₂, pairs, hcolumnRows, hfacts, hreferenceRows, hpairs,
      hreferences⟩,
    describes_of_assemble htable⟩

end Table

/-- A table that comes out is the one described by what the source tells when it is asked about the
table. An error is one that the source gave, or it is neither about a key column that is missing nor
about the default of an identity column or a concurrency token that is not computed. -/
theorem table_described {σ κ : Type} (naming : Naming) (l : Listed) (source : RowSource σ κ)
    (s : σ) :
    (∀ t s', (table naming l).run source s = (.ok t, s') →
      ∃ facts references, Reports naming l source s s' facts references ∧
        Describes l facts references t) ∧
      ∀ e, ((table naming l).run source s).1 = .error e →
        (∃ statement u, (source.fetchAll statement u).1 = .error e) ∨ e.breaksPolicy = false := by
  constructor
  · intro t s' h
    exact describes_of_run_table h
  · intro e h
    exact Query.run_failsOnly source (keepsPolicy_table naming l) h

/-! ## A table of four rows -/

/-- A row about a column. -/
def columnRow (name type : String) (notNull : Int64) (default? : Option String) (pk hidden : Int64) :
    Row :=
  ⟨["cid", "name", "type", "not_null", "dflt_value", "pk", "hidden"],
    [.null, .string name, .string type, .int64 notNull, match default? with
      | some text => .string text
      | none => .null, .int64 pk, .int64 hidden]⟩

/-- A row about a pair of a foreign key. -/
def pairRow (id seq : Int64) (parent foreign : String) (primary? : Option String) : Row :=
  ⟨["id", "seq", "parent_table", "from_column", "to_column"],
    [.int64 id, .int64 seq, .string parent, .string foreign, match primary? with
      | some column => .string column
      | none => .null]⟩

/-- The rows about the columns of a table, whose key is reported from its end, with an inner and a
generated column. -/
def childRows : List Row := [
  columnRow "b" "integer" 0 none 2 0, columnRow "z" "" 0 none 0 1,
  columnRow "a" "integer" 1 (some "7") 1 0, columnRow "g" "text GENERATED ALWAYS" 0 none 0 2]

/-- The table refers to itself and, without naming a column, to another one. -/
def childPairs : List Row := [
  pairRow 10 0 "p" "a" none, pairRow 2 0 "c" "g" (some "a")]

/-- The rows about the columns of the other table. -/
def parentRows : List Row := [
  columnRow "y" "integer" 0 none 0 0, columnRow "k" "integer" 0 none 1 0]

/-- The table as it is listed. -/
def child : Listed :=
  ⟨"c", some "CREATE TABLE c(a INTEGER PRIMARY KEY AUTOINCREMENT, b, g)"⟩

theorem keyColumns_parentRows : keyColumns parentRows = .ok [(1, "k")] := by cbv

/-- The column that is left out is the key of the other table. -/
theorem run_childPairs :
    (childPairs.mapM (referenceRow .sqlite ⟨mainSchema, "c"⟩)).run .inTurn [parentRows] =
      (.ok [⟨"10", 0, "a", ⟨mainSchema, "p"⟩, "k"⟩, ⟨"2", 0, "g", ⟨mainSchema, "c"⟩, "a"⟩], []) := by
  have hasked : (implicitParentColumn .sqlite ⟨mainSchema, "c"⟩ "p" 0).run .inTurn [parentRows] =
      (.ok "k", []) :=
    run_implicitParentColumn (RowSource.fetchAll_inTurn _ _ _) keyColumns_parentRows
  have hfirst : (referenceRow .sqlite ⟨mainSchema, "c"⟩ (pairRow 10 0 "p" "a" none)).run .inTurn
      [parentRows] = (.ok ⟨"10", 0, "a", ⟨mainSchema, "p"⟩, "k"⟩, []) := by
    rw [referenceRow_of_facts (f := ⟨10, 0, "p", "a", none⟩) rfl, ReferenceFacts.resolve,
      bind_assoc, Query.run_bind_ok _ hasked]
    rfl
  rw [childPairs, List.mapM_cons, Query.run_bind_ok _ hfirst]
  rfl

/-- The inner column is passed over, and the marker is no part of the generated one's type. -/
theorem mapM_columnOf?_childRows :
    childRows.mapM (columnOf? ⟨mainSchema, child.name⟩ (declaresAutoincrement child.ddl?)) = .ok [
      some ({ name := "b", dataType := "INTEGER", isIdentity := true }, some 1), none,
      some ({
        name := "a"
        dataType := "INTEGER"
        nullable := false
        default? := some "7"
        isIdentity := true }, some 0),
      some ({ name := "g", dataType := "TEXT", isComputed := true }, none)] :=
  rfl

/-- The table comes out with its key in order, a generated column and two foreign keys. -/
theorem exists_run_child :
    ∃ t, (table .sqlite child).run .inTurn [childRows, childPairs, parentRows] = (.ok t, []) ∧
      t.primaryKey.map (·.name) = ["a", "b"] ∧
      t.columns.map (fun c => (c.name, c.default?, c.isComputed)) =
        [("a", none, false), ("b", none, false), ("g", none, true)] ∧
      t.foreignKeys.toList.map (fun k => (k.parent.name, k.pairs.toList)) =
        [("c", [⟨"g", "a"⟩]), ("p", [⟨"a", "k"⟩])] := by
  have hcolumns : (Query.rows ⟨columnsSql .sqlite, [.string child.name]⟩).run .inTurn
      [childRows, childPairs, parentRows] = (.ok childRows, [childPairs, parentRows]) := by
    rw [Query.run_rows, RowSource.fetchAll_inTurn]
  have hpairs : (Query.rows ⟨foreignKeysSql .sqlite, [.string child.name]⟩).run .inTurn
      [childPairs, parentRows] = (.ok childPairs, [parentRows]) := by
    rw [Query.run_rows, RowSource.fetchAll_inTurn]
  have hrun := run_table_of_rows hcolumns mapM_columnOf?_childRows hpairs run_childPairs
  have hview : ((table .sqlite child).run .inTurn
      [childRows, childPairs, parentRows]).1.toOption.map (fun t => (t.primaryKey.map (·.name),
        t.columns.map (fun c => (c.name, c.default?, c.isComputed)),
        t.foreignKeys.toList.map (fun k => (k.parent.name, k.pairs.toList)))) =
      some (["a", "b"], [("a", none, false), ("b", none, false), ("g", none, true)],
        [("c", [⟨"g", "a"⟩]), ("p", [⟨"a", "k"⟩])]) := by
    rw [hrun]
    cbv
  obtain ⟨t, ht, hview⟩ := Option.map_eq_some_iff.1 hview
  simp only [Prod.mk.injEq] at hview
  exact ⟨t, Prod.ext (ok_of_toOption ht) (by rw [hrun]), hview⟩

/-- It is the table that its rows describe. -/
theorem described_child : ∃ t facts references,
    Reports .sqlite child .inTurn [childRows, childPairs, parentRows] [] facts references ∧
      Describes child facts references t ∧ t.primaryKey.map (·.name) = ["a", "b"] ∧
      t.foreignKeys.toList.map (fun k => (k.parent.name, k.pairs.toList)) =
        [("c", [⟨"g", "a"⟩]), ("p", [⟨"a", "k"⟩])] := by
  obtain ⟨t, ht, hkey, -, hforeign⟩ := exists_run_child
  obtain ⟨hdescribed, -⟩ :=
    table_described .sqlite child .inTurn [childRows, childPairs, parentRows]
  obtain ⟨facts, references, hreports, hdescribes⟩ := hdescribed t [] ht
  exact ⟨t, facts, references, hreports, hdescribes, hkey, hforeign⟩

end Sqlite

end SchemaCatalog
