import Mathlib.Data.List.Sort
import SchemaCatalog.Assembly
import SchemaCatalog.Proofs.ByteOrder
import SchemaCatalog.Proofs.Outcomes
/-!
# What a table satisfies

`Table.ofColumns` lets a table through when `Table.fault?` finds nothing. `fault?_eq_none_iff` says
what that comes to, check by check, and `wellFormed_of_ofColumns` draws from it the invariant of
tables, `Table.WellFormed`.
-/

namespace SchemaCatalog

namespace Table

/-! ## The order of the columns -/

/-- Sorting by a key puts the keys in order. -/
theorem pairwise_mergeSort_key {α β : Type} [LE β] [DecidableLE β] (key : α → β)
    (htrans : ∀ {m n k : β}, m ≤ n → n ≤ k → m ≤ k) (htotal : ∀ m n : β, m ≤ n ∨ n ≤ m)
    (l : List α) :
    (l.mergeSort fun a b => decide (key a ≤ key b)).Pairwise fun a b => key a ≤ key b := by
  refine List.Pairwise.imp of_decide_eq_true (List.pairwise_mergeSort ?_ ?_ l)
  · intro a b c hab hbc
    exact decide_eq_true (htrans (of_decide_eq_true hab) (of_decide_eq_true hbc))
  · intro a b
    simpa using htotal (key a) (key b)

/-- Sorting leaves elements that count as equal in the order in which they came. -/
theorem filter_mergeSort {α : Type} {le : α → α → Bool}
    (htrans : ∀ a b c, le a b → le b c → le a c) (htotal : ∀ a b, le a b || le b a)
    {p : α → Bool} (hequal : ∀ a b, p a → p b → le a b) (l : List α) :
    (l.mergeSort le).filter p = l.filter p := by
  have hsorted : (l.filter p).Pairwise fun a b => le a b := by
    refine List.pairwise_of_forall_mem_list fun a ha b hb => ?_
    exact hequal a b (List.mem_filter.1 ha).2 (List.mem_filter.1 hb).2
  have hsublist : (l.filter p).Sublist (l.mergeSort le) :=
    List.sublist_mergeSort htrans htotal hsorted List.filter_sublist
  have hfilter : (l.filter p).Sublist ((l.mergeSort le).filter p) := by
    simpa [List.filter_filter] using hsublist.filter p
  exact (hfilter.eq_of_length ((List.mergeSort_perm l le).filter p).length_eq.symm).symm

theorem perm_byName (columns : List Column) : (byName columns).Perm columns :=
  List.mergeSort_perm _ _

theorem byName_sorted (columns : List Column) :
    (byName columns).Pairwise fun c d => c.name ≤ d.name :=
  pairwise_mergeSort_key (·.name) String.le_trans String.le_total columns

/-- Among columns in the order of their names a repetition shows up between two neighbours. -/
theorem repeatedName?_eq_none_iff {columns : List Column}
    (hs : columns.Pairwise fun c d => c.name ≤ d.name) :
    repeatedName? columns = none ↔ columns.Pairwise fun c d => c.name < d.name := by
  induction columns with
  | nil => simp [repeatedName?]
  | cons a rest ih =>
    cases rest with
    | nil => simp [repeatedName?]
    | cons b rest =>
      obtain ⟨ha, hrest⟩ := List.pairwise_cons.1 hs
      have hab : a.name ≤ b.name := ha b (by simp)
      simp only [repeatedName?]
      split
      · rename_i heq
        simp only [reduceCtorEq, false_iff]
        intro h
        exact absurd ((List.pairwise_cons.1 h).1 b (by simp)) (heq ▸ String.lt_irrefl _)
      · rename_i hne
        rw [ih hrest, List.pairwise_cons (a := a)]
        refine ⟨fun h => ⟨fun c hc => ?_, h⟩, fun h => h.2⟩
        have hlt : a.name < b.name := lt_of_le_of_ne hab hne
        rcases List.mem_cons.1 hc with rfl | hc
        · exact hlt
        · exact lt_trans hlt ((List.pairwise_cons.1 h).1 c hc)

/-! ## The checks one by one -/

theorem columnFault?_eq_none_iff {c : Column} :
    columnFault? c = none ↔
      (c.isIdentity → c.default? = none) ∧ (c.isConcurrencyToken → c.isComputed) := by
  unfold columnFault?
  cases c.isIdentity <;> cases c.isConcurrencyToken <;> cases c.isComputed <;>
    cases c.default? <;> simp

theorem countsFrom_iff {start : Nat} {ns : List UInt64} :
    countsFrom start ns ↔ ns.map UInt64.toNat = List.range' start ns.length := by
  induction ns generalizing start with
  | nil => simp [countsFrom]
  | cons n rest ih => simp [countsFrom, List.range'_succ, ih]

theorem unknownColumn?_eq_none_iff {names : List String} {k : ForeignKey} :
    unknownColumn? names k = none ↔ ∀ c ∈ k.foreignColumns, c ∈ names := by
  simp [unknownColumn?, List.find?_eq_none]

/-- The checks of single columns and of foreign keys look for a first fault. -/
theorem findSome?_eq_none_of_map {α β : Type} {f : α → Option β} {p : α → Prop} {l : List α}
    (h : ∀ a ∈ l, f a = none ↔ p a) : l.findSome? f = none ↔ ∀ a ∈ l, p a := by
  rw [List.findSome?_eq_none_iff]
  exact forall₂_congr h

/-- Nothing is wrong with columns in the order of their names and foreign keys exactly if each
check finds what it looks for. -/
theorem fault?_eq_none_iff {columns : List Column} {keys : SortedSet ForeignKey}
    (hs : columns.Pairwise fun c d => c.name ≤ d.name) :
    fault? columns keys = none ↔
      columns ≠ [] ∧ (columns.Pairwise fun c d => c.name < d.name) ∧
      (∀ c ∈ columns, (c.isIdentity → c.default? = none) ∧ (c.isConcurrencyToken → c.isComputed)) ∧
      (keyOrdinals columns).map UInt64.toNat = List.range (keyOrdinals columns).length ∧
      ∀ k ∈ keys, ∀ c ∈ k.foreignColumns, c ∈ columns.map (·.name) := by
  have hcolumns : columns.findSome? columnFault? = none ↔ ∀ c ∈ columns,
      (c.isIdentity → c.default? = none) ∧ (c.isConcurrencyToken → c.isComputed) :=
    findSome?_eq_none_of_map fun _ _ => columnFault?_eq_none_iff
  have hkeys : (keys.toList.findSome? fun k =>
        (unknownColumn? (columns.map (·.name)) k).map (TableFault.unknownForeignColumn k.parent)) =
          none ↔ ∀ k ∈ keys, ∀ c ∈ k.foreignColumns, c ∈ columns.map (·.name) :=
    findSome?_eq_none_of_map fun k _ => by rw [Option.map_eq_none_iff, unknownColumn?_eq_none_iff]
  -- each condition is now that of one check, in the order in which they are made
  rw [← repeatedName?_eq_none_iff hs, List.range_eq_range', ← countsFrom_iff, ← hcolumns, ← hkeys]
  unfold fault?
  split
  · rename_i h; simp [List.isEmpty_iff.1 h]
  split
  · rename_i h; simp [h]
  split
  · rename_i h; simp [h]
  split
  · rename_i h; simp_all
  · rename_i hne _ hname _ hfault hcount
    have hname : repeatedName? columns = none := Option.eq_none_iff_forall_ne_some.2 hname
    have hfault : columns.findSome? columnFault? = none :=
      Option.eq_none_iff_forall_ne_some.2 hfault
    refine ⟨fun h => ⟨?_, hname, hfault, by simpa using hcount, h⟩, fun h => h.2.2.2.2⟩
    rintro rfl
    simp at hne

/-- A table comes out exactly if nothing is wrong with its sorted columns and its foreign keys. -/
theorem ofColumns_eq_ok_iff {name : TableName} {columns : List Column} {keys : List ForeignKey}
    {t : Table} :
    ofColumns name columns keys = .ok t ↔
      fault? (byName columns) (SortedSet.ofList keys) = none ∧
        t = ⟨name, byName columns, SortedSet.ofList keys⟩ := by
  simp only [ofColumns]
  split
  · rename_i h; simp [h]
  · rename_i h; simp [h, eq_comm]

/-- A table is assembled exactly if there are columns, the keys can be made out and the checks find
nothing. -/
theorem assemble_eq_ok_iff {name : TableName} {columns : List Column} {key : KeyOrdinals}
    {rows : List ReferenceRow} {t : Table} :
    assemble name columns key rows = .ok t ↔ columns ≠ [] ∧ ∃ marked keys,
      markKeys name (columns.map Column.normalized) key = .ok marked ∧
        ForeignKey.grouped name rows = .ok keys ∧ ofColumns name marked keys = .ok t := by
  unfold assemble
  split
  · rename_i h
    exact ⟨nofun, fun ⟨hne, _⟩ => absurd (List.isEmpty_iff.1 h) hne⟩
  · rename_i h
    constructor
    · intro htable
      obtain ⟨marked, hmarked, htable⟩ := bind_ok_iff.1 htable
      obtain ⟨keys, hkeys, htable⟩ := bind_ok_iff.1 htable
      exact ⟨fun hnil => h (List.isEmpty_iff.2 hnil), marked, keys, hmarked, hkeys, htable⟩
    · rintro ⟨_, marked, keys, hmarked, hkeys, htable⟩
      exact bind_ok_iff.2 ⟨marked, hmarked, bind_ok_iff.2 ⟨keys, hkeys, htable⟩⟩

/-! ## The primary key -/

theorem keyOrdinals_perm (columns : List Column) :
    (keyOrdinals columns).Perm (columns.filterMap (·.keyOrdinal?)) :=
  List.mergeSort_perm _ _

theorem primaryKey_perm (t : Table) : t.primaryKey.Perm (t.columns.filter (·.isPrimaryKey)) :=
  List.mergeSort_perm _ _

theorem primaryKey_sorted (t : Table) :
    t.primaryKey.Pairwise fun c d => c.keyOrdinal?.getD 0 ≤ d.keyOrdinal?.getD 0 :=
  pairwise_mergeSort_key (fun c : Column => c.keyOrdinal?.getD 0) UInt64.le_trans
    UInt64.le_total _

/-- The positions of the columns that have one. -/
theorem filterMap_keyOrdinal? (columns : List Column) :
    columns.filterMap (·.keyOrdinal?) =
      (columns.filter (·.isPrimaryKey)).map (·.keyOrdinal?.getD 0) := by
  induction columns with
  | nil => rfl
  | cons c rest ih => cases h : c.keyOrdinal? <;> simp [Column.isPrimaryKey, h, ih]

theorem keyOrdinals_sorted (columns : List Column) : (keyOrdinals columns).Pairwise (· ≤ ·) :=
  pairwise_mergeSort_key id UInt64.le_trans UInt64.le_total _

/-- The positions are listed in increasing order in one way only. -/
theorem eq_keyOrdinals {columns : List Column} {ordinals : List UInt64}
    (hsorted : ordinals.Pairwise (· ≤ ·))
    (hperm : ordinals.Perm (columns.filterMap (·.keyOrdinal?))) :
    ordinals = keyOrdinals columns :=
  List.Perm.eq_of_pairwise (fun _ _ _ _ => UInt64.le_antisymm) hsorted (keyOrdinals_sorted columns)
    (hperm.trans (keyOrdinals_perm columns).symm)

/-- The key columns come in the order of the positions that the checks see. -/
theorem primaryKey_ordinals (t : Table) :
    t.primaryKey.map (·.keyOrdinal?.getD 0) = keyOrdinals t.columns := by
  apply eq_keyOrdinals (List.pairwise_map.2 (primaryKey_sorted t))
  rw [filterMap_keyOrdinal?]
  exact (primaryKey_perm t).map (·.keyOrdinal?.getD 0)

theorem keyOrdinal?_of_mem_primaryKey {t : Table} {c : Column} (h : c ∈ t.primaryKey) :
    c.keyOrdinal? = some (c.keyOrdinal?.getD 0) := by
  have hc := (List.mem_filter.1 ((primaryKey_perm t).mem_iff.1 h)).2
  obtain ⟨n, hn⟩ := Option.isSome_iff_exists.1 hc
  simp [hn]

/-! ## The invariant -/

/-- What holds of every table that was checked. -/
structure WellFormed (t : Table) : Prop where
  hasColumn : t.columns ≠ []
  /-- The names increase, compared byte by byte. -/
  increasing : t.columns.Pairwise fun c d => Text.Utf8.encode c.name < Text.Utf8.encode d.name
  distinct : (t.columns.map (·.name)).Nodup
  /-- The key positions that occur are `0, 1, …` up to the size of the key, each of them once. -/
  positions : (t.columns.filterMap fun c => c.keyOrdinal?.map UInt64.toNat).Perm
    (List.range t.primaryKey.length)
  keyColumns : t.primaryKey.Perm (t.columns.filter (·.isPrimaryKey))
  /-- Each column of the key has the position at which it stands. -/
  keyOrder : t.primaryKey.map (fun c => c.keyOrdinal?.map UInt64.toNat) =
    (List.range t.primaryKey.length).map some
  identity : ∀ c ∈ t.columns, c.isIdentity → c.default? = none
  token : ∀ c ∈ t.columns, c.isConcurrencyToken →
    c.isComputed = true ∧ c.isInsertable = false ∧ c.isUpdatable = false
  hasPair : ∀ k ∈ t.foreignKeys, 0 < k.pairs.size
  foreignColumns : ∀ k ∈ t.foreignKeys, ∀ name ∈ k.foreignColumns, ∃ c ∈ t.columns, c.name = name

/-- The key columns have the positions that the checks see. -/
theorem primaryKey_positions (t : Table) :
    t.primaryKey.map (fun c => c.keyOrdinal?.map UInt64.toNat) =
      ((keyOrdinals t.columns).map UInt64.toNat).map some := by
  rw [← primaryKey_ordinals, List.map_map, List.map_map]
  refine List.map_congr_left fun c hc => ?_
  rw [keyOrdinal?_of_mem_primaryKey hc]
  rfl

/-- The columns of the key stand at their positions exactly if the positions count from zero. -/
theorem keyOrder_iff_counting {t : Table} :
    t.primaryKey.map (fun c => c.keyOrdinal?.map UInt64.toNat) =
        (List.range t.primaryKey.length).map some ↔
      (keyOrdinals t.columns).map UInt64.toNat = List.range (keyOrdinals t.columns).length := by
  have hlen : t.primaryKey.length = (keyOrdinals t.columns).length := by
    rw [← primaryKey_ordinals, List.length_map]
  rw [primaryKey_positions, hlen]
  exact (List.map_injective_iff.2 (Option.some_injective _)).eq_iff

theorem positions_of_keyOrder {t : Table}
    (h : t.primaryKey.map (fun c => c.keyOrdinal?.map UInt64.toNat) =
      (List.range t.primaryKey.length).map some) :
    (t.columns.filterMap fun c => c.keyOrdinal?.map UInt64.toNat).Perm
      (List.range t.primaryKey.length) := by
  have hkey : t.primaryKey.filterMap (fun c => c.keyOrdinal?.map UInt64.toNat) =
      List.range t.primaryKey.length := by
    have := congrArg (List.filterMap id) h
    simpa [List.filterMap_map, Function.comp_def] using this
  rw [← hkey]
  refine List.Perm.symm (((primaryKey_perm t).filterMap _).trans ?_)
  rw [List.filterMap_filter]
  refine List.Perm.of_eq (List.filterMap_congr fun c _ => ?_)
  cases h : c.keyOrdinal? <;> simp [Column.isPrimaryKey, h]

/-- A table that was let through is well-formed if its foreign keys have pairs. -/
theorem wellFormed_of_ofColumns {name : TableName} {columns : List Column}
    {keys : List ForeignKey} {t : Table} (h : ofColumns name columns keys = .ok t)
    (hk : ∀ k ∈ keys, 0 < k.pairs.size) : t.WellFormed := by
  obtain ⟨hfault, rfl⟩ := ofColumns_eq_ok_iff.1 h
  obtain ⟨hne, hlt, hcolumn, hcount, hforeign⟩ :=
    (fault?_eq_none_iff (byName_sorted columns)).1 hfault
  have horder :=
    (keyOrder_iff_counting (t := ⟨name, byName columns, SortedSet.ofList keys⟩)).2 hcount
  exact {
    hasColumn := hne
    increasing := hlt.imp fun h => Text.Utf8.encode_lt_iff.2 h
    distinct := List.pairwise_map.2 (hlt.imp fun h => ne_of_lt h)
    positions := positions_of_keyOrder horder
    keyColumns := primaryKey_perm _
    keyOrder := horder
    identity := fun c hc => (hcolumn c hc).1
    token := fun c hc htoken => by
      have hcomputed := (hcolumn c hc).2 htoken
      simp [Column.isInsertable, Column.isUpdatable, hcomputed]
    hasPair := fun k hkey => hk k (SortedSet.mem_ofList.1 hkey)
    foreignColumns := fun k hkey c hc => by simpa using hforeign k hkey c hc }

theorem byName_of_sorted {columns : List Column} (h : columns.Pairwise fun c d => c.name ≤ d.name) :
    byName columns = columns :=
  List.mergeSort_of_pairwise (h.imp fun hcd => decide_eq_true hcd)

/-- A well-formed table comes out of the checks as it went in. -/
theorem WellFormed.ofColumns_eq {t : Table} (h : t.WellFormed) :
    ofColumns t.name t.columns t.foreignKeys.toList = .ok t := by
  have hlt : t.columns.Pairwise fun c d => c.name < d.name :=
    h.increasing.imp fun hcd => Text.Utf8.encode_lt_iff.1 hcd
  have hle : t.columns.Pairwise fun c d => c.name ≤ d.name := hlt.imp fun hcd => le_of_lt hcd
  have hfault : fault? t.columns t.foreignKeys = none := by
    refine (fault?_eq_none_iff hle).2 ⟨h.hasColumn, hlt, fun c hc => ⟨h.identity c hc, ?_⟩,
      keyOrder_iff_counting.1 h.keyOrder, fun k hk c hc => ?_⟩
    · exact fun htoken => (h.token c hc htoken).1
    · exact List.mem_map.2 (h.foreignColumns k hk c hc)
  rw [ofColumns_eq_ok_iff, byName_of_sorted hle, SortedSet.ofList_toList]
  exact ⟨hfault, rfl⟩

/-- The invariant says exactly which tables can be built of foreign keys with pairs. -/
theorem wellFormed_iff_built {t : Table} :
    t.WellFormed ↔ ∃ columns keys, (∀ k ∈ keys, 0 < k.pairs.size) ∧
      ofColumns t.name columns keys = .ok t := by
  constructor
  · intro h
    exact ⟨t.columns, t.foreignKeys.toList, h.hasPair, h.ofColumns_eq⟩
  · rintro ⟨columns, keys, hpairs, htable⟩
    exact wellFormed_of_ofColumns htable hpairs

end Table

end SchemaCatalog
