import Mathlib
import SchemaCatalog.Proofs.RowOrder
/-!
# Catalogs that every engine can describe

A shared catalog says of tables what can be said of them on every engine: their columns, their keys
and their foreign keys. `SharedCatalog.model` is what an extraction should come to, told without any
rows. Whatever order and names the rows about a table come in, the table that is assembled from them
is the one of the model (`SharedTable.assemble_eq_build`).
-/

namespace SchemaCatalog

/-! ## Catalogs -/

/-- A column that is neither an identity column nor a concurrency token, and whose type does not end
in what SQLite reads as a mark of generated columns. -/
structure SharedColumn where
  name : String
  type : String
  length? : Option Int64 := none
  nullable : Bool := true
  default? : Option String := none
  generated : Bool := false
  trimmed : Text.trimBlanks type.toList = type.toList := by decide
  not_token : SqlServer.isTokenType type = false := by decide
  not_marked : Sqlite.beforeMarker? type.toList = none := by decide

/-- A foreign key to a table of the same schema. -/
structure SharedReference where
  constraint : String
  parent : String
  pairs : List ColumnPair
  pairs_ne_nil : pairs ≠ [] := by decide

/-- A table of the main schema. Its key lists some of its columns; that columns differ in their names
is not required. -/
structure SharedTable where
  name : String
  columns : List SharedColumn
  key : List String := []
  references : List SharedReference := []
  key_nodup : key.Nodup := by decide
  key_subset : key ⊆ columns.map (·.name) := by decide
  constraints_nodup : (references.map (·.constraint)).Nodup := by decide

/-- Tables with distinct names. -/
structure SharedCatalog where
  tables : List SharedTable
  names_nodup : (tables.map (·.name)).Nodup := by decide

namespace SharedColumn

/-- The column of the model, whatever its part in the key is. -/
def column (c : SharedColumn) : Column where
  name := c.name
  dataType := typeName c.type c.length?
  nullable := c.nullable
  default? := c.default?
  isComputed := c.generated

@[simp]
theorem column_name (c : SharedColumn) : c.column.name = c.name := rfl

theorem marked_column (c : SharedColumn) (key : KeyOrdinals) :
    c.column.normalized.marked key = { c.column with keyOrdinal? := key.find? c.name } := by
  simp [Column.marked, Column.normalized, column]

end SharedColumn

namespace SharedReference

/-- The foreign key of the model. -/
def foreignKey (r : SharedReference) : ForeignKey :=
  ⟨⟨Sqlite.mainSchema, r.parent⟩, SortedSet.ofList r.pairs⟩

/-- The row about a pair and its place, with the constraint named by the label. -/
def row (label : String → String) (r : SharedReference) : ColumnPair × Nat → ReferenceRow
  | (pair, i) => {
    constraint := label r.constraint
    ordinal := UInt64.ofNat i
    foreignColumn := pair.foreign
    parent := ⟨Sqlite.mainSchema, r.parent⟩
    primaryColumn := pair.primary }

@[simp]
theorem row_constraint (label : String → String) (r : SharedReference) (pair : ColumnPair × Nat) :
    (r.row label pair).constraint = label r.constraint := rfl

/-- The rows about all pairs. -/
def rows (label : String → String) (r : SharedReference) : List ReferenceRow :=
  r.pairs.zipIdx.map (r.row label)

end SharedReference

namespace SharedTable

/-- The name with its schema. -/
def fullName (t : SharedTable) : TableName :=
  ⟨Sqlite.mainSchema, t.name⟩

/-- The place of the column in the key. -/
def ordinal? (t : SharedTable) (column : String) : Option UInt64 :=
  (t.key.idxOf? column).map UInt64.ofNat

/-- The table of the model, or what is wrong with it. -/
def build (t : SharedTable) : Except Error Table :=
  Table.ofColumns t.fullName
    (t.columns.map fun c => { c.column with keyOrdinal? := t.ordinal? c.name })
    (t.references.map (·.foreignKey))

end SharedTable

/-- The tables in the order of their names, or what is wrong with the first that cannot be built. -/
def SharedCatalog.model (catalog : SharedCatalog) : Except Error (List Table) :=
  (catalog.tables.mapM SharedTable.build).map TableStream.sortByName

/-! ## What there is to tell -/

namespace SharedCatalog

/-- The columns of all tables. -/
def columns (catalog : SharedCatalog) : List (SharedTable × SharedColumn) :=
  catalog.tables.flatMap fun t => t.columns.map (t, ·)

/-- The columns of all keys with their places. -/
def keyColumns (catalog : SharedCatalog) : List (SharedTable × String × Nat) :=
  catalog.tables.flatMap fun t => t.key.zipIdx.map (t, ·)

end SharedCatalog

/-- The pairs of the foreign keys with their places. -/
def SharedTable.pairs (t : SharedTable) : List (SharedReference × ColumnPair × Nat) :=
  t.references.flatMap fun r => r.pairs.zipIdx.map (r, ·)

/-- The pairs of the foreign keys of all tables. -/
def SharedCatalog.pairs (catalog : SharedCatalog) :
    List (SharedTable × SharedReference × ColumnPair × Nat) :=
  catalog.tables.flatMap fun t => t.pairs.map (t, ·)

/-! ## Assembling -/

/-- Of lists that are run together, each under its own key, the one of a key is picked again. -/
theorem filter_flatMap_of_nodup {α β κ : Type} [DecidableEq κ] (key : α → κ) (tag : β → κ)
    {g : α → List β} {l : List α} (htag : ∀ a ∈ l, ∀ b ∈ g a, tag b = key a)
    (hn : (l.map key).Nodup) {a : α} (ha : a ∈ l) :
    (l.flatMap g).filter (fun b => tag b = key a) = g a := by
  have hother {b : α} (hb : b ∈ l) (hne : key b ≠ key a) :
      (g b).filter (fun x => tag x = key a) = [] := by
    rw [List.filter_eq_nil_iff]
    intro x hx
    simpa [htag b hb x hx] using hne
  induction l with
  | nil => cases ha
  | cons first rest ih =>
    obtain ⟨hnew, hrest⟩ := List.nodup_cons.1 hn
    rw [List.flatMap_cons, List.filter_append]
    rcases List.mem_cons.1 ha with rfl | ha
    · have hnone : (rest.flatMap g).filter (fun b => tag b = key a) = [] := by
        rw [List.filter_eq_nil_iff]
        intro x hx
        obtain ⟨b, hb, hx⟩ := List.mem_flatMap.1 hx
        have hne : key b ≠ key a := fun h => hnew (List.mem_map.2 ⟨b, hb, h⟩)
        simpa [htag b (List.mem_cons_of_mem _ hb) x hx] using hne
      have hall : (g a).filter (fun b => tag b = key a) = g a := by
        rw [List.filter_eq_self]
        intro x hx
        simpa using htag a (by simp) x hx
      rw [hnone, hall, List.append_nil]
    · have hne : key first ≠ key a := fun h => hnew (List.mem_map.2 ⟨a, ha, h.symm⟩)
      rw [hother (by simp) hne, List.nil_append]
      exact ih (fun b hb => htag b (List.mem_cons_of_mem _ hb)) hrest ha
        (fun hb => hother (List.mem_cons_of_mem _ hb))

namespace SharedTable

variable {t : SharedTable}

/-- The columns of the key with their places. -/
def keyEntries (t : SharedTable) : List (String × UInt64) :=
  t.key.zipIdx.map fun (column, i) => (column, UInt64.ofNat i)

theorem keyEntries_names (t : SharedTable) : t.keyEntries.map (·.1) = t.key := by
  rw [keyEntries, List.map_map]
  exact List.zipIdx_map_fst 0 t.key

theorem ordinal?_eq_some_iff {column : String} {ordinal : UInt64} :
    t.ordinal? column = some ordinal ↔ (column, ordinal) ∈ t.keyEntries := by
  have hplace {i : Nat} : t.key.idxOf? column = some i ↔ t.key[i]? = some column := by
    rw [List.idxOf?_eq_some_iff, List.getElem?_eq_some_iff]
    constructor
    · rintro ⟨hi, hcolumn, -⟩
      exact ⟨hi, hcolumn⟩
    · rintro ⟨hi, hcolumn⟩
      refine ⟨hi, hcolumn, fun j hj hsame => ?_⟩
      have heq : j = i := (List.Nodup.getElem_inj_iff t.key_nodup).1 (hsame.trans hcolumn.symm)
      omega
  simp only [ordinal?, Option.map_eq_some_iff, hplace, keyEntries, List.mem_map, Prod.exists,
    List.mem_zipIdx_iff_getElem?, Prod.mk.injEq]
  constructor
  · rintro ⟨i, hi, rfl⟩
    exact ⟨column, i, hi, rfl, rfl⟩
  · rintro ⟨_, i, hi, rfl, rfl⟩
    exact ⟨i, hi, rfl⟩

theorem mem_columns_of_ordinal? {column : String} {ordinal : UInt64}
    (h : t.ordinal? column = some ordinal) : column ∈ t.columns.map (·.name) := by
  refine t.key_subset ?_
  rw [← t.keyEntries_names]
  exact List.mem_map_of_mem (ordinal?_eq_some_iff.1 h)

/-- The rows about the pairs of all foreign keys, with the constraints named by the label. -/
def referenceRows (label : String → String) (t : SharedTable) : List ReferenceRow :=
  t.references.flatMap (·.rows label)

section References
variable {label : String → String} {rows : List ReferenceRow}
  (hlabel : Set.InjOn label {c | c ∈ t.references.map (·.constraint)})
  (hrows : rows.Perm (t.referenceRows label))

include hlabel hrows

/-- The rows under the label of a constraint describe its foreign key. -/
theorem ofRows_eq_ok {r : SharedReference} (hr : r ∈ t.references) :
    ForeignKey.ofRows t.fullName (label r.constraint)
      (ReferenceRow.ofConstraint (label r.constraint) rows) = .ok r.foreignKey := by
  have hlabels : (t.references.map fun r => label r.constraint).Nodup := by
    have h := t.constraints_nodup.map_on (f := label) fun c hc d hd => hlabel hc hd
    rwa [List.map_map] at h
  -- labels differ as the constraints do, so each of them picks the rows of its own constraint
  have hown : (t.referenceRows label).filter (fun row => row.constraint = label r.constraint) =
      r.rows label := by
    refine filter_flatMap_of_nodup (fun r : SharedReference => label r.constraint)
      ReferenceRow.constraint (fun a _ row hrow => ?_) hlabels hr
    obtain ⟨_, -, rfl⟩ := List.mem_map.1 hrow
    rfl
  have hperm : (ReferenceRow.ofConstraint (label r.constraint) rows).Perm (r.rows label) :=
    (List.mergeSort_perm _ _).trans (hown ▸ hrows.filter _)
  rw [ForeignKey.ofRows_perm hperm, ForeignKey.ofRows_eq_ok_iff]
  refine ⟨?_, ?_, ?_⟩
  · simpa [SharedReference.rows] using r.pairs_ne_nil
  · intro row hrow
    obtain ⟨_, -, rfl⟩ := List.mem_map.1 hrow
    rfl
  · have hpairs : (r.rows label).map (·.pair) = r.pairs := by
      rw [SharedReference.rows, List.map_map]
      exact List.zipIdx_map_fst 0 r.pairs
    rw [hpairs]
    rfl

/-- All foreign keys can be made out, and they are those of the model. -/
theorem exists_grouped : ∃ keys, ForeignKey.grouped t.fullName rows = .ok keys ∧
    ∀ k, k ∈ keys ↔ k ∈ t.references.map (·.foreignKey) := by
  have hconstraints {c : String} : c ∈ (ReferenceRow.constraints rows).toList ↔
      ∃ r ∈ t.references, label r.constraint = c := by
    rw [ReferenceRow.constraints, SortedSet.mem_toList, SortedSet.mem_ofList,
      (hrows.map _).mem_iff, referenceRows, List.map_flatMap]
    -- a foreign key has a pair, so its label occurs in some row
    have hown (r : SharedReference) : c ∈ (r.rows label).map (·.constraint) ↔
        label r.constraint = c := by
      obtain ⟨pair, rest, hpairs⟩ := List.exists_cons_of_ne_nil r.pairs_ne_nil
      simp [SharedReference.rows, hpairs, List.zipIdx_cons, eq_comm]
    simp only [List.mem_flatMap, hown]
  obtain ⟨keys, hkeys⟩ : ∃ keys, ForeignKey.grouped t.fullName rows = .ok keys := by
    refine exists_mapM_ok fun c hc => ?_
    obtain ⟨r, hr, rfl⟩ := hconstraints.1 hc
    exact ⟨r.foreignKey, ofRows_eq_ok hlabel hrows hr⟩
  refine ⟨keys, hkeys, fun k => ?_⟩
  rw [mem_mapM_iff hkeys, List.mem_map]
  constructor
  · rintro ⟨c, hc, hk⟩
    obtain ⟨r, hr, rfl⟩ := hconstraints.1 hc
    rw [ofRows_eq_ok hlabel hrows hr] at hk
    exact ⟨r, hr, Except.ok.inj hk⟩
  · rintro ⟨r, hr, rfl⟩
    exact ⟨label r.constraint, hconstraints.2 ⟨r, hr, rfl⟩, ofRows_eq_ok hlabel hrows hr⟩

end References

/-- Whatever the order of the rows about a table and the names of its constraints are, the table that
is assembled is the one of the model. -/
theorem assemble_eq_build (t : SharedTable) (label : String → String) {columns : List Column}
    {key : KeyOrdinals} {rows : List ReferenceRow}
    (hcolumns : columns.Perm (t.columns.map (·.column)))
    (hkey : ∀ column, key.find? column = t.ordinal? column)
    (hlabel : Set.InjOn label {c | c ∈ t.references.map (·.constraint)})
    (hrows : rows.Perm (t.referenceRows label)) :
    Table.assemble t.fullName columns key rows = t.build := by
  obtain ⟨keys, hkeys, hmem⟩ := exists_grouped hlabel hrows
  have hnames : (columns.map (·.name)).Perm (t.columns.map (·.name)) := by
    have h := hcolumns.map (·.name)
    rwa [List.map_map] at h
  rw [Table.assemble_eq_ofColumns ?_ hkeys, build]
  · refine Table.ofColumns_perm ?_ hmem
    have h := hcolumns.map fun c => c.normalized.marked key
    rw [List.map_map] at h
    refine h.trans (.of_eq (List.map_congr_left fun c _ => ?_))
    simp only [Function.comp, c.marked_column, hkey]
  · intro e he
    have hplace : t.ordinal? e.1 = some e.2 := by rw [← hkey, Lookup.find?_eq_some_iff.2 he]
    exact hnames.mem_iff.2 (mem_columns_of_ordinal? hplace)

end SharedTable

end SchemaCatalog
