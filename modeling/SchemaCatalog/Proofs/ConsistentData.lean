import SchemaCatalog.Proofs.BuildableTables
import SchemaCatalog.Proofs.ColumnPolicy
import SchemaCatalog.Proofs.ConstraintGroups
/-!
# Data that make a table

A catalog tells of a table its columns, the positions of its key columns and the rows of its foreign
keys; where it tells nothing of a key or of foreign keys, there are no entries or no rows.
`Table.Consistent` says of these data, as they come, when they make a table, and
`Table.AssembledFrom` says which table they make. The key is a table of positions by name. In which
order its entries stand can be seen in one case only: if several columns of the key are missing, the
first of them is reported (`Table.assemble_consistent`).
-/

namespace SchemaCatalog

namespace Table

variable {name : TableName} {columns : List Column} {key key' : KeyOrdinals}
  {rows : List ReferenceRow} {t : Table}

/-- The position in the key that a column has by its name, or else the one it came with. -/
def placeOf (key : KeyOrdinals) (c : Column) : Option UInt64 :=
  (key.find? c.name).or c.keyOrdinal?

/-- The data of some table. -/
structure Consistent (columns : List Column) (key : KeyOrdinals) (rows : List ReferenceRow) :
    Prop where
  hasColumn : columns ≠ []
  distinct : (columns.map (·.name)).Nodup
  keyColumns : ∀ e ∈ key.entries, e.1 ∈ columns.map (·.name)
  /-- The positions that occur are `0, 1, …` up to some number, each of them once. -/
  positions : ∃ size,
    (columns.filterMap fun c => (placeOf key c).map UInt64.toNat).Perm (List.range size)
  parents : ∀ r ∈ rows, ∀ r' ∈ rows, r.constraint = r'.constraint → r.parent = r'.parent
  foreignColumns : ∀ r ∈ rows, r.foreignColumn ∈ columns.map (·.name)

/-- The table has the columns of the data, each without the default if it is an identity column,
computed if it is a concurrency token, and with its position; and a foreign key for each
constraint. -/
structure AssembledFrom (t : Table) (columns : List Column) (key : KeyOrdinals)
    (rows : List ReferenceRow) : Prop where
  columns : t.columns.Perm (columns.map fun c => { c with
    default? := if c.isIdentity then none else c.default?
    isComputed := c.isComputed || c.isConcurrencyToken
    keyOrdinal? := placeOf key c })
  increasing : t.columns.Pairwise fun c d => Text.Utf8.encode c.name < Text.Utf8.encode d.name
  foreignKeys : ∀ k, k ∈ t.foreignKeys ↔
    ∃ r ∈ rows, ForeignKey.OfConstraint rows r.constraint k

/-- The key names the column, and there is no column of that name. -/
def Missing (columns : List Column) (key : KeyOrdinals) (column : String) : Prop :=
  column ∈ key.entries.map (·.1) ∧ column ∉ columns.map (·.name)

/-! ## Which data make a table -/

theorem names_marked (key : KeyOrdinals) (columns : List Column) :
    (columns.map fun c => c.normalized.marked key).map (·.name) = columns.map (·.name) := by
  rw [List.map_map]
  rfl

/-- If the foreign keys can be made out and the columns of the key are there, the columns with their
positions are those of a table exactly if the data are consistent. -/
theorem representable_marked_iff {keys : List ForeignKey}
    (hkey : ∀ e ∈ key.entries, e.1 ∈ columns.map (·.name))
    (hkeys : ForeignKey.grouped name rows = .ok keys) :
    Representable (columns.map fun c => c.normalized.marked key) keys ↔
      Consistent columns key rows := by
  have hplaces : (columns.map fun c => c.normalized.marked key).filterMap
      (fun c => c.keyOrdinal?.map UInt64.toNat) =
        columns.filterMap fun c => (placeOf key c).map UInt64.toNat := by
    rw [List.filterMap_map]
    rfl
  have hforeign : (∀ k ∈ keys, ∀ column ∈ k.foreignColumns,
      ∃ c ∈ columns.map fun c => c.normalized.marked key, c.name = column) ↔
        ∀ r ∈ rows, r.foreignColumn ∈ columns.map (·.name) := by
    rw [ForeignKey.forall_foreignColumns_grouped_iff hkeys
      (p := fun column => ∃ c ∈ columns.map fun c => c.normalized.marked key, c.name = column)]
    simp only [← List.mem_map, names_marked]
  constructor
  · intro h
    exact {
      hasColumn := fun hnil => h.hasColumn (List.map_eq_nil_iff.2 hnil)
      distinct := names_marked key columns ▸ h.distinct
      keyColumns := hkey
      positions := by
        obtain ⟨size, hsize⟩ := h.positions
        exact ⟨size, hplaces ▸ hsize⟩
      parents := fun r hr r' hr' hsame =>
        ForeignKey.parent_of_grouped hkeys hr' hr hsame
      foreignColumns := hforeign.1 h.foreignColumns }
  · intro h
    have hfault : ∀ c ∈ columns.map fun c => c.normalized.marked key, columnFault? c = none := by
      intro c hc
      obtain ⟨d, -, rfl⟩ := List.mem_map.1 hc
      exact columnFault?_marked key d
    exact {
      hasColumn := fun hnil => h.hasColumn (List.map_eq_nil_iff.1 hnil)
      distinct := by
        rw [names_marked]
        exact h.distinct
      identity := fun c hc => (columnFault?_eq_none_iff.1 (hfault c hc)).1
      token := fun c hc => (columnFault?_eq_none_iff.1 (hfault c hc)).2
      positions := by
        obtain ⟨size, hsize⟩ := h.positions
        exact ⟨size, hplaces.symm ▸ hsize⟩
      foreignColumns := hforeign.2 h.foreignColumns }

/-- The foreign keys of consistent data can be made out. -/
theorem Consistent.exists_grouped (h : Consistent columns key rows) (name : TableName) :
    ∃ keys, ForeignKey.grouped name rows = .ok keys := by
  refine ForeignKey.exists_grouped_iff.2 ?_
  rintro constraint ⟨r, hr, r', hr', hconstraint, hconstraint', hne⟩
  exact hne (h.parents r hr r' hr' (hconstraint.trans hconstraint'.symm))

/-- The table is the one that the data say. -/
theorem assemble_eq_ok_iff_consistent :
    assemble name columns key rows = .ok t ↔
      Consistent columns key rows ∧ t.name = name ∧ t.AssembledFrom columns key rows := by
  have hmade {keys : List ForeignKey} (hkeys : ForeignKey.grouped name rows = .ok keys) :
      t.MadeOf (columns.map fun c => c.normalized.marked key) keys ↔
        t.AssembledFrom columns key rows := by
    have hmem : ∀ k, k ∈ keys ↔ ∃ r ∈ rows, ForeignKey.OfConstraint rows r.constraint k :=
      fun _ => ForeignKey.mem_grouped_iff_ofConstraint hkeys
    constructor
    · rintro ⟨hcolumns, hincreasing, hforeign⟩
      exact ⟨hcolumns, hincreasing, fun k => (hforeign k).trans (hmem k)⟩
    · rintro ⟨hcolumns, hincreasing, hforeign⟩
      exact ⟨hcolumns, hincreasing, fun k => (hforeign k).trans (hmem k).symm⟩
  rw [assemble_eq_ok_iff_marked]
  constructor
  · rintro ⟨hkey, keys, hkeys, htable⟩
    obtain ⟨hrepresentable, hname, htable⟩ := ofColumns_eq_ok_iff_madeOf.1 htable
    exact ⟨(representable_marked_iff hkey hkeys).1 hrepresentable, hname, (hmade hkeys).1 htable⟩
  · rintro ⟨h, hname, htable⟩
    obtain ⟨keys, hkeys⟩ := h.exists_grouped name
    exact ⟨h.keyColumns, keys, hkeys, ofColumns_eq_ok_iff_madeOf.2
      ⟨(representable_marked_iff h.keyColumns hkeys).2 h, hname, (hmade hkeys).2 htable⟩⟩

theorem exists_assemble_iff :
    (∃ t, assemble name columns key rows = .ok t) ↔ Consistent columns key rows := by
  constructor
  · rintro ⟨t, h⟩
    exact (assemble_eq_ok_iff_consistent.1 h).1
  · intro h
    obtain ⟨keys, hkeys⟩ := h.exists_grouped name
    have hfault := fault?_eq_none_iff_representable.2
      ((representable_marked_iff h.keyColumns hkeys).2 h)
    rw [assemble_eq_ofColumns h.keyColumns hkeys]
    exact ⟨_, ofColumns_eq_ok_iff.2 ⟨hfault, rfl⟩⟩

/-! ## What is reported of other data -/

/-- Giving positions fails only at one whose column is missing. -/
theorem exists_of_markEach_error {table : TableName} {entries : List (String × UInt64)}
    {e : Error} (h : markEach table entries columns = .error e) :
    ∃ entry ∈ entries, entry.1 ∉ columns.map (·.name) ∧
      e = .inTable table (.keyColumnMissing entry.1) := by
  induction entries generalizing columns with
  | nil => cases h
  | cons entry rest ih =>
    rw [markEach_cons] at h
    cases hmark : markKey? entry.1 entry.2 columns with
    | none =>
      rw [hmark] at h
      cases h
      exact ⟨entry, by simp, markKey?_eq_none_iff.1 hmark, rfl⟩
    | some marked =>
      rw [hmark] at h
      obtain ⟨later, hlater, hnot, he⟩ := ih h
      exact ⟨later, List.mem_cons_of_mem _ hlater, markKey?_names hmark ▸ hnot, he⟩

/-- If columns of the key are missing, one of them is reported. -/
theorem exists_missing_of_assemble (hne : columns ≠ [])
    (hmissing : ¬ ∀ e ∈ key.entries, e.1 ∈ columns.map (·.name)) (name : TableName)
    (rows : List ReferenceRow) : ∃ column, Missing columns key column ∧
      assemble name columns key rows = .error (.inTable name (.keyColumnMissing column)) := by
  rw [assemble_of_ne_nil hne]
  cases hmark : markEach name key.entries (columns.map Column.normalized) with
  | ok marked =>
    have hall := (exists_markEach_iff name).1 ⟨marked, hmark⟩
    exact absurd (names_normalized columns ▸ hall) hmissing
  | error e =>
    obtain ⟨entry, hentry, hnot, rfl⟩ := exists_of_markEach_error hmark
    exact ⟨entry.1, ⟨List.mem_map_of_mem hentry, names_normalized columns ▸ hnot⟩, rfl⟩

/-- No error is about a column that breaks the policy, since every column is made to keep it. -/
theorem assemble_ne_policy_error (table : TableName) (column : String) :
    assemble name columns key rows ≠ .error (.inTable table (.identityDefault column)) ∧
      assemble name columns key rows ≠ .error (.inTable table (.tokenNotComputed column)) := by
  by_cases hempty : columns = []
  · subst hempty
    exact ⟨nofun, nofun⟩
  by_cases hkey : ∀ e ∈ key.entries, e.1 ∈ columns.map (·.name)
  · have hpolicy : KeepsPolicy (assemble name columns key rows) := keepsPolicy_assemble hkey
    exact ⟨fun h => Bool.noConfusion (hpolicy _ h), fun h => Bool.noConfusion (hpolicy _ h)⟩
  · obtain ⟨missing, -, h⟩ := exists_missing_of_assemble hempty hkey name rows
    rw [h]
    exact ⟨nofun, nofun⟩

/-- If no column of the key is missing, the positions count and not the order of their entries. -/
theorem assemble_congr_key (hkey : ∀ e ∈ key.entries, e.1 ∈ columns.map (·.name))
    (h : key'.entries.Perm key.entries) :
    assemble name columns key' rows = assemble name columns key rows := by
  have hkey' : ∀ e ∈ key'.entries, e.1 ∈ columns.map (·.name) :=
    fun e he => hkey e (h.mem_iff.1 he)
  have hfind : ∀ column, key'.find? column = key.find? column := by
    intro column
    refine Option.ext fun ordinal => ?_
    rw [Lookup.find?_eq_some_iff, Lookup.find?_eq_some_iff, h.mem_iff]
  cases hkeys : ForeignKey.grouped name rows with
  | ok keys =>
    rw [assemble_eq_ofColumns hkey' hkeys, assemble_eq_ofColumns hkey hkeys]
    simp only [Column.marked, hfind]
  | error e =>
    by_cases hempty : columns = []
    · subst hempty
      rfl
    · rw [assemble_of_grouped_error hempty hkey' hkeys, assemble_of_grouped_error hempty hkey hkeys]

/-- The order of the entries of a key makes no difference, except for which of several missing columns
is reported. -/
theorem assemble_eq_or_missing (h : key'.entries.Perm key.entries) :
    assemble name columns key' rows = assemble name columns key rows ∨
      ∃ column column', column ≠ column' ∧
        Missing columns key column ∧ Missing columns key column' ∧
        assemble name columns key rows = .error (.inTable name (.keyColumnMissing column)) ∧
        assemble name columns key' rows = .error (.inTable name (.keyColumnMissing column')) := by
  by_cases hempty : columns = []
  · subst hempty
    exact .inl rfl
  by_cases hkey : ∀ e ∈ key.entries, e.1 ∈ columns.map (·.name)
  · exact .inl (assemble_congr_key hkey h)
  have hkey' : ¬ ∀ e ∈ key'.entries, e.1 ∈ columns.map (·.name) :=
    fun hall => hkey fun e he => hall e (h.mem_iff.2 he)
  obtain ⟨column, hmissing, herror⟩ := exists_missing_of_assemble hempty hkey name rows
  obtain ⟨column', hmissing', herror'⟩ := exists_missing_of_assemble hempty hkey' name rows
  by_cases hsame : column = column'
  · left
    rw [herror, herror', hsame]
  · exact .inr ⟨column, column', hsame, hmissing, ⟨(h.map _).mem_iff.1 hmissing'.1, hmissing'.2⟩,
      herror, herror'⟩

/-- A table is assembled exactly from consistent data, and it is the one that they say. Nothing is
ever reported of an identity column with a default or of a concurrency token that is not computed. The
order of the entries of the key makes no difference, except for which of several missing columns is
reported. -/
theorem assemble_consistent (name : TableName) (columns : List Column) (key : KeyOrdinals)
    (rows : List ReferenceRow) :
    ((∃ t, assemble name columns key rows = .ok t) ↔ Consistent columns key rows) ∧
    (∀ t, assemble name columns key rows = .ok t ↔
      Consistent columns key rows ∧ t.name = name ∧ t.AssembledFrom columns key rows) ∧
    (∀ table column,
      assemble name columns key rows ≠ .error (.inTable table (.identityDefault column)) ∧
      assemble name columns key rows ≠ .error (.inTable table (.tokenNotComputed column))) ∧
    ∀ key' : KeyOrdinals, key'.entries.Perm key.entries →
      assemble name columns key' rows = assemble name columns key rows ∨
        ∃ column column', column ≠ column' ∧
          Missing columns key column ∧ Missing columns key column' ∧
          assemble name columns key rows = .error (.inTable name (.keyColumnMissing column)) ∧
          assemble name columns key' rows = .error (.inTable name (.keyColumnMissing column')) :=
  ⟨exists_assemble_iff, fun _ => assemble_eq_ok_iff_consistent, assemble_ne_policy_error,
    fun _ => assemble_eq_or_missing⟩

-- of two missing columns the one is reported whose entry comes first
example : assemble ⟨"m", "t"⟩ [⟨"a", "INT", true, none, none, false, false, false⟩]
        (Lookup.ofList [("x", 0), ("y", 1)]) [] =
      .error (.inTable ⟨"m", "t"⟩ (.keyColumnMissing "x")) ∧
    assemble ⟨"m", "t"⟩ [⟨"a", "INT", true, none, none, false, false, false⟩]
        (Lookup.ofList [("y", 1), ("x", 0)]) [] =
      .error (.inTable ⟨"m", "t"⟩ (.keyColumnMissing "y")) := by
  constructor <;> cbv

end Table

end SchemaCatalog
