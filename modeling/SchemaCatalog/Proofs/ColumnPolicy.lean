import Mathlib.Data.List.Sort
import SchemaCatalog.Proofs.Assembling
import SchemaCatalog.Proofs.GeneratedMarker
import SchemaCatalog.Proofs.Runs
import SchemaCatalog.Sqlite.Extraction
/-!
# The policy on columns

Every column of a catalog loses the default of an identity column and counts as computed if it is a
concurrency token before a table is checked for these rules. So no table is turned down for one of
them. SQLite gives the key together with the columns, so there no key column is missing either
(`Sqlite.keepsPolicy_table`).
-/

namespace SchemaCatalog

/-- The error says that a key column is missing, or that a column breaks a rule that it is made to
keep. -/
def Error.breaksPolicy : Error → Bool
  | .inconsistent (.inTable _ (.keyColumnMissing _)) => true
  | .inconsistent (.inTable _ (.identityDefault _)) => true
  | .inconsistent (.inTable _ (.tokenNotComputed _)) => true
  | _ => false

/-- If the computation fails, it is not for the policy. -/
abbrev KeepsPolicy {α : Type} (x : Except Error α) : Prop :=
  FailsOnly (fun e => e.breaksPolicy = false) x

/-! ## Tables -/

namespace Table

variable {name : TableName} {columns : List Column} {keys : List ForeignKey}

theorem columnFault?_marked (key : KeyOrdinals) (c : Column) :
    columnFault? (c.normalized.marked key) = none := by
  rw [columnFault?_eq_none_iff]
  constructor
  · intro hidentity
    show (if c.isIdentity then none else c.default?) = none
    exact if_pos hidentity
  · intro htoken
    show (c.isComputed || c.isConcurrencyToken) = true
    rw [Bool.or_eq_true]
    exact .inr htoken

theorem keepsPolicy_ofColumns (h : ∀ c ∈ columns, columnFault? c = none) :
    KeepsPolicy (ofColumns name columns keys) := by
  have hcolumns : (byName columns).findSome? columnFault? = none := by
    rw [List.findSome?_eq_none_iff]
    intro c hc
    exact h c ((perm_byName columns).mem_iff.1 hc)
  intro e he
  simp only [ofColumns] at he
  split at he
  · rename_i fault hfault
    cases he
    unfold fault? at hfault
    rw [hcolumns] at hfault
    -- the other checks have faults of their own
    split at hfault
    · cases hfault
      rfl
    split at hfault
    · cases hfault
      rfl
    simp only at hfault
    split at hfault
    · cases hfault
      rfl
    · obtain ⟨k, -, hk⟩ := List.exists_of_findSome?_eq_some hfault
      obtain ⟨column, -, rfl⟩ := Option.map_eq_some_iff.1 hk
      rfl
  · cases he

end Table

theorem ForeignKey.keepsPolicy_ofRows (table : TableName) (constraint : String)
    (rows : List ReferenceRow) : KeepsPolicy (ofRows table constraint rows) := by
  cases rows with
  | nil => exact failsOnly_error rfl
  | cons first rest =>
    simp only [ofRows]
    cases rest.find? fun r => decide (r.parent ≠ first.parent) with
    | some stray => exact failsOnly_error rfl
    | none =>
      simp only [ofPairs]
      split
      · exact failsOnly_error rfl
      · exact failsOnly_ok _

theorem ForeignKey.keepsPolicy_grouped (table : TableName) (rows : List ReferenceRow) :
    KeepsPolicy (grouped table rows) :=
  failsOnly_mapM (fun _ => keepsPolicy_ofRows _ _ _) _

/-- A table is not turned down for the policy if all columns of its key are there. -/
theorem Table.keepsPolicy_assemble {name : TableName} {columns : List Column} {key : KeyOrdinals}
    {rows : List ReferenceRow} (hkey : ∀ e ∈ key.entries, e.1 ∈ columns.map (·.name)) :
    KeepsPolicy (assemble name columns key rows) := by
  cases hkeys : ForeignKey.grouped name rows with
  | ok keys =>
    rw [assemble_eq_ofColumns hkey hkeys]
    refine keepsPolicy_ofColumns fun c hc => ?_
    obtain ⟨d, -, rfl⟩ := List.mem_map.1 hc
    exact columnFault?_marked key d
  | error e =>
    by_cases hempty : columns = []
    · subst hempty
      exact failsOnly_error rfl
    · rw [assemble_of_grouped_error hempty hkey hkeys]
      exact failsOnly_error (ForeignKey.keepsPolicy_grouped name rows e hkeys)

/-! ## Rows -/

namespace Row

variable (row : Row) (query column : String)

theorem keepsPolicy_value : KeepsPolicy (row.value query column) := by
  unfold value
  split
  · exact failsOnly_ok _
  · exact failsOnly_error rfl

theorem keepsPolicy_string : KeepsPolicy (row.string query column) := by
  refine failsOnly_bind (row.keepsPolicy_value query column) fun v => ?_
  split
  · exact failsOnly_ok _
  · exact failsOnly_error rfl

theorem keepsPolicy_string? : KeepsPolicy (row.string? query column) := by
  refine failsOnly_bind (row.keepsPolicy_value query column) fun v => ?_
  split
  · exact failsOnly_ok _
  · exact failsOnly_ok _
  · exact failsOnly_error rfl

theorem keepsPolicy_int : KeepsPolicy (row.int query column) := by
  refine failsOnly_bind (row.keepsPolicy_value query column) fun v => ?_
  split
  · exact failsOnly_ok _
  · exact failsOnly_error rfl

end Row

/-! ## SQLite -/

namespace Sqlite

variable (naming : Naming) (table : TableName)

theorem keepsPolicy_classifyColumn (column declared : String) (hidden : Int64) :
    KeepsPolicy (classifyColumn table column declared hidden) := by
  rw [classifyColumn_eq]
  split
  · split
    · exact failsOnly_ok _
    · exact failsOnly_error rfl
  · exact failsOnly_ok _

theorem keepsPolicy_columnOf? (autoincrement : Bool) (row : Row) :
    KeepsPolicy (columnOf? table autoincrement row) := by
  refine failsOnly_bind (row.keepsPolicy_int _ _) fun hidden => ?_
  split
  · exact failsOnly_ok _
  refine failsOnly_bind (row.keepsPolicy_string _ _) fun name => ?_
  refine failsOnly_bind (row.keepsPolicy_string _ _) fun declared => ?_
  refine failsOnly_bind (keepsPolicy_classifyColumn _ _ _ _) fun classified => ?_
  refine failsOnly_bind (row.keepsPolicy_int _ _) fun position => ?_
  refine failsOnly_bind (row.keepsPolicy_int _ _) fun notNull => ?_
  exact failsOnly_bind (row.keepsPolicy_string? _ _) fun default? => failsOnly_ok _

theorem keepsPolicy_keyColumns (rows : List Row) : KeepsPolicy (keyColumns rows) := by
  refine failsOnly_bind (failsOnly_mapM (fun row => ?_) rows) fun found => failsOnly_ok _
  refine failsOnly_bind (row.keepsPolicy_int _ _) fun position => ?_
  split
  · exact failsOnly_bind (row.keepsPolicy_string _ _) fun name => failsOnly_ok _
  · exact failsOnly_ok _

theorem keepsPolicy_implicitParentColumn (parent : String) (position : Int64) :
    (implicitParentColumn naming table parent position).FailsOnly fun e => e.breaksPolicy = false := by
  refine Query.failsOnly_bind (Query.failsOnly_rows _) fun rows => ?_
  refine Query.failsOnly_bind (Query.failsOnly_ofExcept (keepsPolicy_keyColumns rows))
    fun columns => ?_
  split
  · trivial
  · rfl

theorem keepsPolicy_referenceRow (row : Row) :
    (referenceRow naming table row).FailsOnly fun e => e.breaksPolicy = false := by
  have hint (column : String) := Query.failsOnly_ofExcept
    (row.keepsPolicy_int "pragma_foreign_key_list" column)
  have hstring (column : String) := Query.failsOnly_ofExcept
    (row.keepsPolicy_string "pragma_foreign_key_list" column)
  refine Query.failsOnly_bind (hint "seq") fun position => ?_
  refine Query.failsOnly_bind (hstring "parent_table") fun parent => ?_
  refine Query.failsOnly_bind (Query.failsOnly_ofExcept (row.keepsPolicy_string? _ _))
    fun primary? => ?_
  cases primary? with
  | some column =>
    refine Query.failsOnly_bind trivial fun primary => ?_
    exact Query.failsOnly_bind (hint "id") fun id =>
      Query.failsOnly_bind (hstring "from_column") fun foreign => trivial
  | none =>
    refine Query.failsOnly_bind (keepsPolicy_implicitParentColumn naming table parent position)
      fun primary => ?_
    exact Query.failsOnly_bind (hint "id") fun id =>
      Query.failsOnly_bind (hstring "from_column") fun foreign => trivial

/-- The key is made of columns that are there. -/
theorem mem_names_of_mem_key {entries : List (Column × Option UInt64)} {key : KeyOrdinals}
    {names : List String} (hkey : ∀ e ∈ key.entries, e.1 ∈ names)
    (hentries : ∀ e ∈ entries, e.1.name ∈ names) :
    ∀ e ∈ (entries.foldl addKeyColumn key).entries, e.1 ∈ names := by
  induction entries generalizing key with
  | nil => exact hkey
  | cons entry rest ih =>
    refine ih ?_ fun e he => hentries e (List.mem_cons_of_mem _ he)
    obtain ⟨column, ordinal?⟩ := entry
    cases ordinal? with
    | none => exact hkey
    | some ordinal =>
      intro e he
      have hname : e.1 ∈ (Lookup.alterIn column.name (fun _ => ordinal) key.entries).map (·.1) :=
        List.mem_map_of_mem he
      rcases Lookup.mem_keys_alterIn.1 hname with hname | hname
      · exact hname ▸ hentries _ List.mem_cons_self
      · obtain ⟨e', he', hsame⟩ := List.mem_map.1 hname
        exact hsame ▸ hkey e' he'

/-- Whatever the source answers, no table is turned down for the policy. -/
theorem keepsPolicy_table (l : Listed) :
    (Sqlite.table naming l).FailsOnly fun e => e.breaksPolicy = false := by
  refine Query.failsOnly_bind (Query.failsOnly_rows _) fun columnRows => ?_
  refine Query.failsOnly_bind (Query.failsOnly_ofExcept
    (failsOnly_mapM (keepsPolicy_columnOf? _ _) columnRows)) fun found => ?_
  refine Query.failsOnly_bind (Query.failsOnly_rows _) fun referenceRows => ?_
  refine Query.failsOnly_bind (Query.failsOnly_mapM (keepsPolicy_referenceRow _ _) referenceRows)
    fun references => ?_
  refine Query.failsOnly_ofExcept (Table.keepsPolicy_assemble ?_)
  refine mem_names_of_mem_key nofun fun e he => ?_
  rw [List.map_map]
  exact List.mem_map.2 ⟨e, he, rfl⟩

end Sqlite

end SchemaCatalog
