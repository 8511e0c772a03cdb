import Mathlib.Data.List.Sort
import SchemaCatalog.Proofs.TableInvariant
/-!
# What assembling comes to

Key positions are given to the columns one after the other, and the rows of foreign keys are grouped
by constraint. Of the positions only the value of each name counts (`Table.assemble_eq_ofColumns`),
and of the rows of a constraint only their parent and the set of their pairs
(`ForeignKey.ofRows_eq_ok_iff`). There is one foreign key for each constraint
(`ForeignKey.mem_grouped_iff`).
-/

namespace SchemaCatalog

/-! ## Keyed entries -/

namespace Lookup

variable {κ ν : Type} [DecidableEq κ]

theorem findIn_eq_none_iff {k : κ} {l : List (κ × ν)} : findIn k l = none ↔ k ∉ l.map (·.1) := by
  induction l with
  | nil => simp [findIn]
  | cons e rest ih =>
    by_cases h : e.1 = k
    · simp [findIn, h]
    · simp [findIn, h, ih, Ne.symm h]

theorem findIn_eq_some_iff {k : κ} {v : ν} {l : List (κ × ν)} (hl : (l.map (·.1)).Nodup) :
    findIn k l = some v ↔ (k, v) ∈ l := by
  induction l with
  | nil => simp [findIn]
  | cons e rest ih =>
    obtain ⟨he, hrest⟩ := List.nodup_cons.1 hl
    by_cases h : e.1 = k
    · subst h
      have hnot : (e.1, v) ∉ rest := fun hmem => he (List.mem_map.2 ⟨_, hmem, rfl⟩)
      simp [findIn, hnot, Prod.ext_iff, eq_comm]
    · have hne : (k, v) ≠ e := fun hke => h (by rw [← hke])
      simp [findIn, h, hne, ih hrest]

/-- The entries of a table are its keys with their values. -/
theorem find?_eq_some_iff {t : Lookup κ ν} {k : κ} {v : ν} :
    t.find? k = some v ↔ (k, v) ∈ t.entries :=
  findIn_eq_some_iff t.distinct

end Lookup

/-! ## Giving the key positions -/

namespace Column

/-- The column with the key position of its name, if there is one. -/
def marked (key : KeyOrdinals) (c : Column) : Column :=
  { c with keyOrdinal? := (key.find? c.name).or c.keyOrdinal? }

@[simp]
theorem marked_name (key : KeyOrdinals) (c : Column) : (c.marked key).name = c.name := rfl

@[simp]
theorem normalized_name (c : Column) : c.normalized.name = c.name := rfl

@[simp]
theorem normalized_keyOrdinal? (c : Column) : c.normalized.keyOrdinal? = c.keyOrdinal? := rfl

end Column

namespace Table

/-- A position can be given exactly if a column has the name. -/
theorem markKey?_eq_none_iff {name : String} {ordinal : UInt64} {columns : List Column} :
    markKey? name ordinal columns = none ↔ name ∉ columns.map (·.name) := by
  induction columns with
  | nil => simp [markKey?]
  | cons c rest ih =>
    by_cases h : c.name = name
    · simp [markKey?, h]
    · simp [markKey?, h, ih, Ne.symm h]

theorem markKey?_names {name : String} {ordinal : UInt64} {columns marked : List Column}
    (h : markKey? name ordinal columns = some marked) :
    marked.map (·.name) = columns.map (·.name) := by
  induction columns generalizing marked with
  | nil => cases h
  | cons c rest ih =>
    rw [markKey?] at h
    split at h
    · cases h
      rfl
    · obtain ⟨marked', hrest, rfl⟩ := Option.map_eq_some_iff.1 h
      rw [List.map_cons, List.map_cons, ih hrest]

/-- Where names differ, the column that gets the position is the only one of that name. -/
theorem markKey?_of_nodup {name : String} {ordinal : UInt64} {columns marked : List Column}
    (hn : (columns.map (·.name)).Nodup) (h : markKey? name ordinal columns = some marked) :
    marked = columns.map fun c => if c.name = name then c.withKeyOrdinal ordinal else c := by
  induction columns generalizing marked with
  | nil => cases h
  | cons c rest ih =>
    obtain ⟨hc, hrest⟩ := List.nodup_cons.1 hn
    rw [markKey?] at h
    split at h
    · rename_i hname
      cases h
      have hother : ∀ d ∈ rest, (if d.name = name then d.withKeyOrdinal ordinal else d) = d := by
        intro d hd
        exact if_neg fun h => hc (List.mem_map.2 ⟨d, hd, h.trans hname.symm⟩)
      rw [List.map_cons, if_pos hname, List.map_congr_left hother, List.map_id']
    · rename_i hname
      obtain ⟨marked', hmarked, rfl⟩ := Option.map_eq_some_iff.1 h
      rw [List.map_cons, if_neg hname, ih hrest hmarked]

/-- The columns with the positions of a list given one after the other. -/
def markEach (table : TableName) (entries : List (String × UInt64)) (columns : List Column) :
    Except Error (List Column) :=
  entries.foldlM (fun columns (name, ordinal) =>
    match markKey? name ordinal columns with
    | some marked => .ok marked
    | none => .error (.inTable table (.keyColumnMissing name))) columns

theorem markKeys_eq_markEach (table : TableName) (columns : List Column) (key : KeyOrdinals) :
    markKeys table columns key = markEach table key.entries columns := rfl

theorem markEach_cons (table : TableName) (e : String × UInt64) (rest : List (String × UInt64))
    (columns : List Column) :
    markEach table (e :: rest) columns = match markKey? e.1 e.2 columns with
      | some marked => markEach table rest marked
      | none => .error (.inTable table (.keyColumnMissing e.1)) := by
  simp only [markEach, List.foldlM_cons]
  cases markKey? e.1 e.2 columns <;> rfl

/-- All positions can be given exactly if each of them belongs to a column. -/
theorem exists_markEach_iff (table : TableName) {entries : List (String × UInt64)}
    {columns : List Column} :
    (∃ marked, markEach table entries columns = .ok marked) ↔
      ∀ e ∈ entries, e.1 ∈ columns.map (·.name) := by
  induction entries generalizing columns with
  | nil => simp [markEach, pure, Except.pure]
  | cons e rest ih =>
    rw [markEach_cons, List.forall_mem_cons]
    cases h : markKey? e.1 e.2 columns with
    | none => simp [markKey?_eq_none_iff.1 h]
    | some marked =>
      have hmem : e.1 ∈ columns.map (·.name) := by
        by_contra hnot
        rw [markKey?_eq_none_iff.2 hnot] at h
        cases h
      -- giving a position keeps the names, so the rest is looked for among the same ones
      simp only [ih, markKey?_names h, hmem, true_and]

theorem markEach_names {table : TableName} {entries : List (String × UInt64)}
    {columns marked : List Column} (h : markEach table entries columns = .ok marked) :
    marked.map (·.name) = columns.map (·.name) := by
  induction entries generalizing columns with
  | nil => cases h; rfl
  | cons e rest ih =>
    rw [markEach_cons] at h
    cases hmark : markKey? e.1 e.2 columns with
    | none => rw [hmark] at h; cases h
    | some marked' => rw [hmark] at h; rw [ih h, markKey?_names hmark]

/-- Where names differ, every column gets the position of its own name. -/
theorem markEach_of_nodup {table : TableName} {entries : List (String × UInt64)}
    {columns marked : List Column} (he : (entries.map (·.1)).Nodup)
    (hn : (columns.map (·.name)).Nodup) (h : markEach table entries columns = .ok marked) :
    marked = columns.map fun c =>
      { c with keyOrdinal? := (Lookup.findIn c.name entries).or c.keyOrdinal? } := by
  induction entries generalizing columns with
  | nil =>
    cases h
    exact (List.map_id' _).symm
  | cons e rest ih =>
    obtain ⟨hnot, hrest⟩ := List.nodup_cons.1 he
    rw [markEach_cons] at h
    cases hmark : markKey? e.1 e.2 columns with
    | none => rw [hmark] at h; cases h
    | some first =>
      rw [hmark] at h
      have hnames : (first.map (·.name)).Nodup := by rw [markKey?_names hmark]; exact hn
      rw [ih hrest hnames h, markKey?_of_nodup hn hmark, List.map_map]
      refine List.map_congr_left fun c _ => ?_
      -- no later entry has the name of this one
      have hlater : Lookup.findIn e.1 rest = none := Lookup.findIn_eq_none_iff.2 hnot
      by_cases hc : c.name = e.1
      · simp [hc, hlater, Lookup.findIn, Column.withKeyOrdinal]
      · simp [hc, Ne.symm hc, Lookup.findIn]

/-! ## Columns of one name -/

/-- Whether names repeat is a matter of the names. -/
theorem repeatedName?_congr {columns columns' : List Column}
    (h : columns.map (·.name) = columns'.map (·.name)) :
    repeatedName? columns = repeatedName? columns' := by
  fun_induction repeatedName? columns generalizing columns' with
  | case1 a b rest hab =>
    obtain ⟨a', l, rfl, ha, h⟩ := List.map_eq_cons_iff.1 h.symm
    obtain ⟨b', l, rfl, hb, -⟩ := List.map_eq_cons_iff.1 h
    simp [repeatedName?, ha, hb, hab]
  | case2 a b rest hab ih =>
    obtain ⟨a', l, rfl, ha, h⟩ := List.map_eq_cons_iff.1 h.symm
    have hrest := ih h.symm
    obtain ⟨b', l, rfl, hb, -⟩ := List.map_eq_cons_iff.1 h
    rw [repeatedName?, if_neg (by rw [ha, hb]; exact hab), hrest]
  | case3 l hl =>
    have hlen : columns'.length = l.length := by simpa using (congrArg List.length h).symm
    rcases l with _ | ⟨a, _ | ⟨b, rest⟩⟩
    · rw [List.length_eq_zero_iff.1 hlen]
      rfl
    · obtain ⟨a', rfl⟩ := List.length_eq_one_iff.1 hlen
      rfl
    · exact absurd rfl (hl a b rest)

theorem names_byName_perm {columns columns' : List Column}
    (h : (columns.map (·.name)).Perm (columns'.map (·.name))) :
    (byName columns).map (·.name) = (byName columns').map (·.name) := by
  refine List.Perm.eq_of_pairwise (fun _ _ _ _ => String.le_antisymm) ?_ ?_
    (((perm_byName columns).map _).trans (h.trans ((perm_byName columns').map _).symm))
  · exact List.pairwise_map.2 (byName_sorted columns)
  · exact List.pairwise_map.2 (byName_sorted columns')

theorem exists_repeatedName? {columns : List Column} (hn : ¬ (columns.map (·.name)).Nodup) :
    ∃ repeated, repeatedName? (byName columns) = some repeated := by
  refine Option.ne_none_iff_exists'.1 fun hnone => hn ?_
  have hlt := (repeatedName?_eq_none_iff (byName_sorted columns)).1 hnone
  have hnodup : ((byName columns).map (·.name)).Nodup :=
    List.pairwise_map.2 (hlt.imp fun h => ne_of_lt h)
  exact ((perm_byName columns).map _).nodup_iff.1 hnodup

/-- Columns of which two share a name are turned down for that, whatever else is wrong. -/
theorem ofColumns_of_repeatedName? {name : TableName} {columns : List Column}
    {keys : List ForeignKey} {repeated : String}
    (h : repeatedName? (byName columns) = some repeated) :
    ofColumns name columns keys = .error (.inTable name (.duplicateColumn repeated)) := by
  -- only the check for columns at all comes before that of the names
  have hne : ¬ (byName columns).isEmpty := by
    intro hempty
    rw [List.isEmpty_iff.1 hempty] at h
    cases h
  have hfault : fault? (byName columns) (SortedSet.ofList keys) =
      some (.duplicateColumn repeated) := by
    rw [fault?, if_neg hne, h]
  simp only [ofColumns, hfault]

theorem ofColumns_congr_of_not_nodup {name : TableName} {columns columns' : List Column}
    {keys keys' : List ForeignKey} (h : (columns.map (·.name)).Perm (columns'.map (·.name)))
    (hn : ¬ (columns.map (·.name)).Nodup) :
    ofColumns name columns keys = ofColumns name columns' keys' := by
  have hsorted : repeatedName? (byName columns) = repeatedName? (byName columns') :=
    repeatedName?_congr (names_byName_perm h)
  obtain ⟨repeated, hrepeated⟩ := exists_repeatedName? hn
  rw [ofColumns_of_repeatedName? hrepeated, ofColumns_of_repeatedName? (hsorted ▸ hrepeated)]

theorem byName_perm {columns columns' : List Column} (h : columns.Perm columns')
    (hn : (columns.map (·.name)).Nodup) : byName columns = byName columns' := by
  refine List.Perm.eq_of_pairwise (fun a b ha hb hab hba => ?_) (byName_sorted columns)
    (byName_sorted columns') ((perm_byName columns).trans (h.trans (perm_byName columns').symm))
  exact List.inj_on_of_nodup_map hn ((perm_byName columns).mem_iff.1 ha)
    (h.mem_iff.2 ((perm_byName columns').mem_iff.1 hb)) (String.le_antisymm hab hba)

/-- Neither the order of the columns nor that of the foreign keys makes a difference. -/
theorem ofColumns_perm {name : TableName} {columns columns' : List Column}
    {keys keys' : List ForeignKey} (h : columns.Perm columns')
    (hkeys : ∀ k, k ∈ keys ↔ k ∈ keys') :
    ofColumns name columns keys = ofColumns name columns' keys' := by
  by_cases hn : (columns.map (·.name)).Nodup
  · have hset : SortedSet.ofList keys = SortedSet.ofList keys' :=
      SortedSet.ext fun k => by rw [SortedSet.mem_ofList, SortedSet.mem_ofList, hkeys]
    simp only [ofColumns, byName_perm h hn, hset]
  · exact ofColumns_congr_of_not_nodup (h.map _) hn

/-! ## The table that is assembled -/

theorem names_normalized (columns : List Column) :
    (columns.map Column.normalized).map (·.name) = columns.map (·.name) := by
  rw [List.map_map]
  rfl

/-- Where there are columns, the positions are given first and the foreign keys made out then. -/
theorem assemble_of_ne_nil {columns : List Column} (hne : columns ≠ []) (name : TableName)
    (key : KeyOrdinals) (rows : List ReferenceRow) :
    assemble name columns key rows =
      markEach name key.entries (columns.map Column.normalized) >>= fun marked =>
        ForeignKey.grouped name rows >>= fun keys => ofColumns name marked keys := by
  rw [assemble, if_neg (by simpa using hne), markKeys_eq_markEach]

/-- If the key positions belong to columns and the foreign keys can be made out, the table is built
from the columns, each with the position of its name. -/
theorem assemble_eq_ofColumns {name : TableName} {columns : List Column} {key : KeyOrdinals}
    {rows : List ReferenceRow} {keys : List ForeignKey}
    (hkey : ∀ e ∈ key.entries, e.1 ∈ columns.map (·.name))
    (hkeys : ForeignKey.grouped name rows = .ok keys) :
    assemble name columns key rows =
      ofColumns name (columns.map fun c => c.normalized.marked key) keys := by
  by_cases hempty : columns = []
  · subst hempty
    simp only [assemble, ofColumns, byName, fault?, List.map_nil, List.mergeSort_nil,
      List.isEmpty_nil, if_true]
    rfl
  obtain ⟨marked, hmarked⟩ :=
    (exists_markEach_iff name).2 fun e he => names_normalized columns ▸ hkey e he
  have hassemble : assemble name columns key rows = ofColumns name marked keys := by
    rw [assemble_of_ne_nil hempty, hmarked, hkeys]
    rfl
  rw [hassemble]
  by_cases hn : (columns.map (·.name)).Nodup
  · rw [markEach_of_nodup key.distinct (names_normalized columns ▸ hn) hmarked, List.map_map]
    rfl
  -- a position went to the first column of its name; both lists are turned down for that name
  · have hsame : marked.map (·.name) = columns.map (·.name) := by
      rw [markEach_names hmarked, names_normalized]
    refine ofColumns_congr_of_not_nodup (.of_eq ?_) (hsame ▸ hn)
    rw [hsame, List.map_map]
    rfl

/-- If the key positions belong to columns and the foreign keys cannot be made out, the error is the
one about the foreign keys. -/
theorem assemble_of_grouped_error {name : TableName} {columns : List Column} {key : KeyOrdinals}
    {rows : List ReferenceRow} {e : Error} (hne : columns ≠ [])
    (hkey : ∀ e ∈ key.entries, e.1 ∈ columns.map (·.name))
    (hkeys : ForeignKey.grouped name rows = .error e) :
    assemble name columns key rows = .error e := by
  obtain ⟨marked, hmarked⟩ :=
    (exists_markEach_iff name).2 fun e he => names_normalized columns ▸ hkey e he
  rw [assemble_of_ne_nil hne, hmarked, hkeys]
  rfl

/-- A table is assembled exactly if every key position belongs to a column, the foreign keys can be
made out, and the columns with their positions pass the checks. -/
theorem assemble_eq_ok_iff_marked {name : TableName} {columns : List Column} {key : KeyOrdinals}
    {rows : List ReferenceRow} {t : Table} :
    assemble name columns key rows = .ok t ↔
      (∀ e ∈ key.entries, e.1 ∈ columns.map (·.name)) ∧
        ∃ keys, ForeignKey.grouped name rows = .ok keys ∧
          ofColumns name (columns.map fun c => c.normalized.marked key) keys = .ok t := by
  constructor
  · intro h
    obtain ⟨_, marked, keys, hmarked, hkeys, _⟩ := assemble_eq_ok_iff.1 h
    have hkey : ∀ e ∈ key.entries, e.1 ∈ columns.map (·.name) := by
      have hall := (exists_markEach_iff name).1 ⟨marked, hmarked⟩
      rwa [List.map_map] at hall
    exact ⟨hkey, keys, hkeys, assemble_eq_ofColumns hkey hkeys ▸ h⟩
  · rintro ⟨hkey, keys, hkeys, h⟩
    rw [assemble_eq_ofColumns hkey hkeys, h]

end Table

/-! ## Foreign keys -/

theorem SortedSet.ofList_perm {α : Type} [Ord α] [Std.LawfulEqOrd α] [Std.TransOrd α]
    {l m : List α} (h : l.Perm m) : SortedSet.ofList l = SortedSet.ofList m :=
  SortedSet.ext fun _ => by rw [SortedSet.mem_ofList, SortedSet.mem_ofList, h.mem_iff]

namespace ForeignKey

/-- The rows of a constraint describe a foreign key exactly if there are some and all have its
parent; its pairs are those of the rows. -/
theorem ofRows_eq_ok_iff {table : TableName} {constraint : String} {rows : List ReferenceRow}
    {k : ForeignKey} :
    ofRows table constraint rows = .ok k ↔
      rows ≠ [] ∧ (∀ r ∈ rows, r.parent = k.parent) ∧
        k.pairs = SortedSet.ofList (rows.map (·.pair)) := by
  cases rows with
  | nil => simp [ofRows]
  | cons first rest =>
    simp only [ofRows]
    cases hstray : rest.find? fun r => r.parent ≠ first.parent with
    | some stray =>
      have hmem := List.mem_of_find?_eq_some hstray
      have hne : stray.parent ≠ first.parent := by simpa using List.find?_some hstray
      simp only [reduceCtorEq, false_iff]
      rintro ⟨_, hall, _⟩
      exact hne ((hall stray (by simp [hmem])).trans (hall first (by simp)).symm)
    | none =>
      have hrest : ∀ r ∈ rest, r.parent = first.parent := by simpa using hstray
      simp only [ofPairs, List.map_cons, List.isEmpty_cons, Bool.false_eq_true, if_false]
      constructor
      · intro h
        cases h
        exact ⟨by simp, by simpa using hrest, rfl⟩
      · rintro ⟨_, hall, hpairs⟩
        have hparent : first.parent = k.parent := hall first (by simp)
        cases k
        simp_all

variable {table : TableName} {rows rows' : List ReferenceRow} {keys : List ForeignKey}
  {k : ForeignKey}

/-- The order of the rows does not matter. -/
theorem ofRows_perm {constraint : String} (h : rows.Perm rows') :
    ofRows table constraint rows = .ok k ↔ ofRows table constraint rows' = .ok k := by
  have hne : rows ≠ [] ↔ rows' ≠ [] := by
    rw [← List.length_pos_iff, ← List.length_pos_iff, h.length_eq]
  have hparent : (∀ r ∈ rows, r.parent = k.parent) ↔ ∀ r ∈ rows', r.parent = k.parent :=
    forall_congr' fun r => by rw [h.mem_iff]
  rw [ofRows_eq_ok_iff, ofRows_eq_ok_iff, hne, hparent, SortedSet.ofList_perm (h.map _)]

/-- Nor does it matter for the foreign keys of all constraints. -/
theorem grouped_perm (h : rows.Perm rows') :
    grouped table rows = .ok keys ↔ grouped table rows' = .ok keys := by
  have hconstraints : ReferenceRow.constraints rows = ReferenceRow.constraints rows' :=
    SortedSet.ofList_perm (h.map _)
  rw [grouped, grouped, hconstraints]
  refine mapM_ok_congr fun constraint _ k => ofRows_perm ?_
  exact (List.mergeSort_perm _ _).trans ((h.filter _).trans (List.mergeSort_perm _ _).symm)

/-- The rows of a constraint make a foreign key if there are some and they agree on the parent. -/
theorem ofRows_ofConstraint_iff {constraint : String} :
    ofRows table constraint (ReferenceRow.ofConstraint constraint rows) = .ok k ↔
      (∃ r ∈ rows, r.constraint = constraint) ∧
        (∀ r ∈ rows, r.constraint = constraint → r.parent = k.parent) ∧
        k.pairs = SortedSet.ofList ((rows.filter (·.constraint = constraint)).map (·.pair)) := by
  have hperm : (ReferenceRow.ofConstraint constraint rows).Perm
      (rows.filter (·.constraint = constraint)) := List.mergeSort_perm _ _
  rw [ofRows_perm hperm, ofRows_eq_ok_iff]
  have hsome : rows.filter (·.constraint = constraint) ≠ [] ↔
      ∃ r ∈ rows, r.constraint = constraint := by
    simp [List.filter_eq_nil_iff]
  have hparent : (∀ r ∈ rows.filter (·.constraint = constraint), r.parent = k.parent) ↔
      ∀ r ∈ rows, r.constraint = constraint → r.parent = k.parent := by
    simp [List.mem_filter]
  rw [hsome, hparent]

/-- Each row has its part in a foreign key. -/
theorem exists_of_grouped (h : grouped table rows = .ok keys) {r : ReferenceRow} (hr : r ∈ rows) :
    ∃ k ∈ keys, (∀ r' ∈ rows, r'.constraint = r.constraint → r'.parent = k.parent) ∧
      k.pairs = SortedSet.ofList ((rows.filter (·.constraint = r.constraint)).map (·.pair)) := by
  have hconstraint : r.constraint ∈ (ReferenceRow.constraints rows).toList :=
    SortedSet.mem_toList.2 (SortedSet.mem_ofList.2 (List.mem_map_of_mem hr))
  obtain ⟨k, hk, hrows⟩ := exists_ok_of_mapM h hconstraint
  exact ⟨k, hk, (ofRows_ofConstraint_iff.1 hrows).2⟩

theorem parent_of_grouped (h : grouped table rows = .ok keys) {r r' : ReferenceRow} (hr : r ∈ rows)
    (hr' : r' ∈ rows) (hsame : r'.constraint = r.constraint) : r'.parent = r.parent := by
  obtain ⟨k, -, hparent, -⟩ := exists_of_grouped h hr
  rw [hparent r' hr' hsame, hparent r hr rfl]

/-- There is one foreign key for each constraint, and no other. -/
theorem mem_grouped_iff (h : grouped table rows = .ok keys) :
    k ∈ keys ↔ ∃ r ∈ rows, k.parent = r.parent ∧
      k.pairs = SortedSet.ofList ((rows.filter (·.constraint = r.constraint)).map (·.pair)) := by
  constructor
  · intro hk
    obtain ⟨constraint, -, hrows⟩ := exists_of_mem_mapM h hk
    obtain ⟨⟨r, hr, rfl⟩, hparent, hpairs⟩ := ofRows_ofConstraint_iff.1 hrows
    exact ⟨r, hr, (hparent r hr rfl).symm, hpairs⟩
  · rintro ⟨r, hr, hparent, hpairs⟩
    obtain ⟨k', hk', hparent', hpairs'⟩ := exists_of_grouped h hr
    have hsame : k = k' := by
      cases k
      cases k'
      simp_all
    exact hsame ▸ hk'

end ForeignKey

end SchemaCatalog
