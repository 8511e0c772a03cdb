import Mathlib.Data.List.Duplicate
import SchemaCatalog.Proofs.Assembling
/-!
# Which tables can be built

`Table.ofColumns` makes its checks on sorted columns and sets of foreign keys: names are compared
with their neighbours, key positions with their places in a sorted list. What it accepts is said here
without any order, by `Table.Representable`. What it reports is said without any order as well, by
`Table.FirstFault`: of several faults of one kind it is the one of the least name or foreign key. So
neither the table nor the error depends on how columns and foreign keys are listed.
-/

namespace SchemaCatalog

/-- The first result in a list is the result of the least element that has one, if elements that
cannot be told apart by the order are equal. -/
theorem findSome?_eq_some_iff_least {α β : Type} (before : α → α → Prop) {l : List α}
    {f : α → Option β} {b : β} (hsorted : l.Pairwise fun a a' => ¬ before a' a)
    (hirrefl : ∀ a, ¬ before a a)
    (htotal : ∀ a ∈ l, ∀ a' ∈ l, ¬ before a a' → ¬ before a' a → a = a') :
    l.findSome? f = some b ↔ ∃ a ∈ l, f a = some b ∧ ∀ a' ∈ l, before a' a → f a' = none := by
  have hfirst {b' : β} (h : l.findSome? f = some b') :
      ∃ a ∈ l, f a = some b' ∧ ∀ a' ∈ l, before a' a → f a' = none := by
    obtain ⟨l₁, a, l₂, rfl, ha, hnone⟩ := List.findSome?_eq_some_iff.1 h
    refine ⟨a, by simp, ha, fun a' ha' hbefore => ?_⟩
    -- an element before this one stands to the left of it
    rcases List.mem_append.1 ha' with hleft | hright
    · exact hnone a' hleft
    rcases List.mem_cons.1 hright with rfl | hright
    · exact absurd hbefore (hirrefl a')
    · exact absurd hbefore ((List.pairwise_cons.1 (List.pairwise_append.1 hsorted).2.1).1 a' hright)
  refine ⟨hfirst, ?_⟩
  rintro ⟨a, ha, hfa, hleast⟩
  cases h : l.findSome? f with
  | none =>
    rw [List.findSome?_eq_none_iff.1 h a ha] at hfa
    cases hfa
  | some b' =>
    obtain ⟨a', ha', hfa', hleast'⟩ := hfirst h
    have hsame : a = a' := by
      refine htotal a ha a' ha' (fun hbefore => ?_) fun hbefore => ?_
      · rw [hleast' a ha hbefore] at hfa
        cases hfa
      · rw [hleast a' ha' hbefore] at hfa'
        cases hfa'
    rw [← hfa', ← hsame, hfa]

/-- Of two fields the second is compared only if the first is the same. -/
theorem compareLex_lt_iff {α β γ : Type} [Ord β] [Std.LawfulEqOrd β] [Ord γ] {f : α → β} {g : α → γ}
    {a b : α} : compareLex (compareOn f) (compareOn g) a b = .lt ↔
      compare (f a) (f b) = .lt ∨ f a = f b ∧ compare (g a) (g b) = .lt := by
  simp only [compareLex, compareOn, Ordering.then_eq_lt, Std.compare_eq_iff_eq]

/-- What is said of a table begins with its name. -/
theorem Inconsistency.message_inTable (table : TableName) (fault : TableFault) :
    (inTable table fault).message =
      table.schema ++ "." ++ table.name ++ ":" ++ (" " ++ fault.message) := by
  have htext : (inTable table fault).message =
      table.schema ++ "." ++ table.name ++ ": " ++ fault.message := rfl
  have hcolon : ": " = ":" ++ " " := rfl
  rw [htext, hcolon]
  simp only [String.append_assoc]

namespace Table

variable {name : TableName} {columns columns' : List Column} {keys keys' : List ForeignKey}
  {fault : TableFault} {t : Table}

/-! ## What can be a table -/

/-- The key positions that occur are `0, 1, …` up to some number, each of them once. -/
def KeyInSequence (columns : List Column) : Prop :=
  ∃ size, (columns.filterMap fun c => c.keyOrdinal?.map UInt64.toNat).Perm (List.range size)

/-- The columns and foreign keys of some table. -/
structure Representable (columns : List Column) (keys : List ForeignKey) : Prop where
  hasColumn : columns ≠ []
  distinct : (columns.map (·.name)).Nodup
  identity : ∀ c ∈ columns, c.isIdentity → c.default? = none
  token : ∀ c ∈ columns, c.isConcurrencyToken → c.isComputed
  positions : KeyInSequence columns
  foreignColumns : ∀ k ∈ keys, ∀ column ∈ k.foreignColumns, ∃ c ∈ columns, c.name = column

/-- The table has exactly these columns and foreign keys, the columns in the order of the bytes of
their names. -/
structure MadeOf (t : Table) (columns : List Column) (keys : List ForeignKey) : Prop where
  columns : t.columns.Perm columns
  increasing : t.columns.Pairwise fun c d => Text.Utf8.encode c.name < Text.Utf8.encode d.name
  foreignKeys : ∀ k, k ∈ t.foreignKeys ↔ k ∈ keys

theorem keyOrdinals_congr (h : columns.Perm columns') :
    keyOrdinals columns = keyOrdinals columns' :=
  eq_keyOrdinals (keyOrdinals_sorted columns) ((keyOrdinals_perm columns).trans (h.filterMap _))

/-- Counting through the sorted positions is counting through the positions. -/
theorem countsFrom_keyOrdinals_iff :
    countsFrom 0 (keyOrdinals columns) ↔ KeyInSequence columns := by
  have hperm : ((keyOrdinals columns).map UInt64.toNat).Perm
      (columns.filterMap fun c => c.keyOrdinal?.map UInt64.toNat) := by
    rw [← List.map_filterMap]
    exact (keyOrdinals_perm columns).map _
  have hsorted : ((keyOrdinals columns).map UInt64.toNat).Pairwise (· ≤ ·) :=
    List.pairwise_map.2 ((keyOrdinals_sorted columns).imp UInt64.le_iff_toNat_le.1)
  rw [countsFrom_iff, ← List.range_eq_range']
  constructor
  · intro h
    exact ⟨_, h ▸ hperm.symm⟩
  · rintro ⟨size, hsize⟩
    have hrange : (keyOrdinals columns).map UInt64.toNat = List.range size :=
      List.Perm.eq_of_pairwise (fun _ _ _ _ => Nat.le_antisymm) hsorted List.pairwise_le_range
        (hperm.trans hsize)
    have hlength : (keyOrdinals columns).length = size := by
      simpa using congrArg List.length hrange
    rw [hrange, hlength]

theorem byName_eq_nil_iff : byName columns = [] ↔ columns = [] := by
  rw [← List.length_eq_zero_iff, (perm_byName columns).length_eq, List.length_eq_zero_iff]

theorem byName_increasing (hn : (columns.map (·.name)).Nodup) :
    (byName columns).Pairwise fun c d => c.name < d.name := by
  have hne : (byName columns).Pairwise fun c d => c.name ≠ d.name :=
    List.pairwise_map.1 (((perm_byName columns).map _).nodup_iff.2 hn)
  exact ((byName_sorted columns).and hne).imp fun h => lt_of_le_of_ne h.1 h.2

/-- Only one arrangement of columns increases. -/
theorem eq_of_increasing
    (h : columns.Pairwise fun c d => Text.Utf8.encode c.name < Text.Utf8.encode d.name)
    (h' : columns'.Pairwise fun c d => Text.Utf8.encode c.name < Text.Utf8.encode d.name)
    (hperm : columns.Perm columns') : columns = columns' := by
  refine List.Perm.eq_of_pairwise (fun c d _ _ hcd hdc => ?_) h h' hperm
  exact absurd hdc (List.lt_asymm hcd)

/-- The checks find nothing exactly if columns and foreign keys can be those of a table. -/
theorem fault?_eq_none_iff_representable :
    fault? (byName columns) (SortedSet.ofList keys) = none ↔ Representable columns keys := by
  have hperm := perm_byName columns
  rw [fault?_eq_none_iff (byName_sorted columns), List.range_eq_range', ← countsFrom_iff,
    keyOrdinals_congr hperm, countsFrom_keyOrdinals_iff]
  constructor
  · rintro ⟨hne, hlt, hcolumn, hkey, hforeign⟩
    have hnodup : ((byName columns).map (·.name)).Nodup :=
      List.pairwise_map.2 (hlt.imp fun h => ne_of_lt h)
    exact {
      hasColumn := fun hnil => hne (byName_eq_nil_iff.2 hnil)
      distinct := (hperm.map _).nodup_iff.1 hnodup
      identity := fun c hc => (hcolumn c (hperm.mem_iff.2 hc)).1
      token := fun c hc => (hcolumn c (hperm.mem_iff.2 hc)).2
      positions := hkey
      foreignColumns := fun k hk column hcolumn =>
        List.mem_map.1 ((hperm.map _).mem_iff.1
          (hforeign k (SortedSet.mem_ofList.2 hk) column hcolumn)) }
  · intro h
    refine ⟨?_, byName_increasing h.distinct, ?_, h.positions, ?_⟩
    · exact fun hnil => h.hasColumn (byName_eq_nil_iff.1 hnil)
    · intro c hc
      have hc' := hperm.mem_iff.1 hc
      exact ⟨h.identity c hc', h.token c hc'⟩
    · intro k hk column hcolumn
      exact (hperm.map _).mem_iff.2
        (List.mem_map.2 (h.foreignColumns k (SortedSet.mem_ofList.1 hk) column hcolumn))

/-- A table that comes out has the name, the columns and the foreign keys that went in. -/
theorem ofColumns_eq_ok_iff_madeOf :
    ofColumns name columns keys = .ok t ↔
      Representable columns keys ∧ t.name = name ∧ t.MadeOf columns keys := by
  rw [ofColumns_eq_ok_iff, fault?_eq_none_iff_representable]
  refine and_congr_right fun h => ?_
  have hlt := byName_increasing h.distinct
  constructor
  · rintro rfl
    exact ⟨rfl, perm_byName columns, hlt.imp fun h => Text.Utf8.encode_lt_iff.2 h,
      fun k => SortedSet.mem_ofList⟩
  · rintro ⟨hname, hcolumns, hincreasing, hkeys⟩
    have hsame : t.columns = byName columns :=
      eq_of_increasing hincreasing (hlt.imp fun h => Text.Utf8.encode_lt_iff.2 h)
        (hcolumns.trans (perm_byName columns).symm)
    have hset : t.foreignKeys = SortedSet.ofList keys :=
      SortedSet.ext fun k => (hkeys k).trans SortedSet.mem_ofList.symm
    rw [← hname, ← hsame, ← hset]

theorem ofColumns_eq_error_iff {e : Error} :
    ofColumns name columns keys = .error e ↔
      ∃ fault, fault? (byName columns) (SortedSet.ofList keys) = some fault ∧
        e = .inTable name fault := by
  simp only [ofColumns]
  split
  · rename_i fault h
    simp [h, eq_comm]
  · rename_i h
    simp [h]

/-- A table comes out exactly if columns and foreign keys can be those of a table. It has the name
that was given, exactly these columns, in the order of their names, and exactly these foreign keys.
Otherwise the catalog is reported to be inconsistent, in words that begin with the table's name. -/
theorem ofColumns_representable (name : TableName) (columns : List Column)
    (keys : List ForeignKey) :
    ((∃ t, ofColumns name columns keys = .ok t) ↔ Representable columns keys) ∧
    (∀ t, ofColumns name columns keys = .ok t ↔
      Representable columns keys ∧ t.name = name ∧ t.MadeOf columns keys) ∧
    (¬ Representable columns keys ↔ ∃ what rest,
      ofColumns name columns keys = .error (.inconsistent what) ∧
        what.message = name.schema ++ "." ++ name.name ++ ":" ++ rest) := by
  refine ⟨?_, fun t => ofColumns_eq_ok_iff_madeOf, ?_⟩
  · constructor
    · rintro ⟨t, h⟩
      exact (ofColumns_eq_ok_iff_madeOf.1 h).1
    · intro h
      exact ⟨_, ofColumns_eq_ok_iff.2 ⟨fault?_eq_none_iff_representable.2 h, rfl⟩⟩
  · constructor
    · intro h
      obtain ⟨fault, hfault⟩ := Option.ne_none_iff_exists'.1
        fun hnone => h (fault?_eq_none_iff_representable.1 hnone)
      have hreport : ofColumns name columns keys = .error (.inTable name fault) :=
        ofColumns_eq_error_iff.2 ⟨fault, hfault, rfl⟩
      exact ⟨.inTable name fault, _, hreport, Inconsistency.message_inTable name fault⟩
    · rintro ⟨what, rest, hreport, -⟩ h
      rw [ofColumns_eq_ok_iff.2 ⟨fault?_eq_none_iff_representable.2 h, rfl⟩] at hreport
      cases hreport

/-! ## What is reported -/

/-- The fault that is reported of columns and foreign keys that cannot be those of a table. -/
inductive FirstFault (columns : List Column) (keys : List ForeignKey) : TableFault → Prop
  | noColumns (hnil : columns = []) : FirstFault columns keys .noColumns
  /-- Of the names that are repeated the least is reported. -/
  | duplicateColumn {repeated : String} (hrepeated : (columns.map (·.name)).Duplicate repeated)
      (hleast : ∀ other, (columns.map (·.name)).Duplicate other → repeated ≤ other) :
      FirstFault columns keys (.duplicateColumn repeated)
  /-- Of the columns that are wrong by themselves that of the least name is reported. -/
  | column {c : Column} {fault : TableFault} (hdistinct : (columns.map (·.name)).Nodup)
      (hc : c ∈ columns) (hfault : columnFault? c = some fault)
      (hleast : ∀ d ∈ columns, d.name < c.name → columnFault? d = none) :
      FirstFault columns keys fault
  /-- The positions are reported in increasing order. -/
  | keyOrdinals {ordinals : List UInt64} (hdistinct : (columns.map (·.name)).Nodup)
      (hcolumns : ∀ c ∈ columns, columnFault? c = none) (hgap : ¬ KeyInSequence columns)
      (hordinals : ordinals.Perm (columns.filterMap (·.keyOrdinal?)))
      (hsorted : ordinals.Pairwise (· ≤ ·)) :
      FirstFault columns keys (.keyOrdinals ordinals)
  /-- Of the foreign keys that start from unknown columns the least is reported, and of these
  columns the least. -/
  | unknownForeignColumn {k : ForeignKey} {column : String} (hne : columns ≠ [])
      (hdistinct : (columns.map (·.name)).Nodup)
      (hcolumns : ∀ c ∈ columns, columnFault? c = none) (hkey : KeyInSequence columns)
      (hk : k ∈ keys) (hcolumn : column ∈ k.foreignColumns)
      (hunknown : column ∉ columns.map (·.name))
      (hleastKey : ∀ k' ∈ keys, compare k' k = .lt →
        ∀ known ∈ k'.foreignColumns, known ∈ columns.map (·.name))
      (hleast : ∀ known ∈ k.foreignColumns, known < column → known ∈ columns.map (·.name)) :
      FirstFault columns keys (.unknownForeignColumn k.parent column)

/-- Among columns in the order of their names, a first name that differs from the next one is not
repeated. -/
theorem duplicate_names_cons_iff {a b : Column} {rest : List Column} {repeated : String}
    (hs : (a :: b :: rest).Pairwise fun c d => c.name ≤ d.name) (hne : a.name ≠ b.name) :
    ((a :: b :: rest).map (·.name)).Duplicate repeated ↔
      ((b :: rest).map (·.name)).Duplicate repeated := by
  obtain ⟨ha, hrest⟩ := List.pairwise_cons.1 hs
  have hlt : a.name < b.name := lt_of_le_of_ne (ha b (by simp)) hne
  rw [List.map_cons, List.duplicate_cons_iff]
  apply or_iff_right
  rintro ⟨rfl, hmem⟩
  obtain ⟨c, hc, hname⟩ := List.mem_map.1 hmem
  rcases List.mem_cons.1 hc with rfl | hc
  · exact hne hname.symm
  · have hbc : b.name ≤ c.name := (List.pairwise_cons.1 hrest).1 c hc
    rw [hname] at hbc
    exact absurd hlt (not_lt_of_ge hbc)

/-- Among columns in the order of their names the first repetition between neighbours is that of the
least repeated name. -/
theorem repeatedName?_eq_some_iff {repeated : String}
    (hs : columns.Pairwise fun c d => c.name ≤ d.name) :
    repeatedName? columns = some repeated ↔ (columns.map (·.name)).Duplicate repeated ∧
      ∀ other, (columns.map (·.name)).Duplicate other → repeated ≤ other := by
  induction columns with
  | nil => simp [repeatedName?, List.not_duplicate_nil]
  | cons a rest ih =>
    cases rest with
    | nil => simp [repeatedName?, List.not_duplicate_singleton]
    | cons b rest =>
      obtain ⟨ha, hrest⟩ := List.pairwise_cons.1 hs
      by_cases heq : a.name = b.name
      · have hleast : ∀ other ∈ (a :: b :: rest).map (·.name), a.name ≤ other := by
          intro other hother
          obtain ⟨c, hc, rfl⟩ := List.mem_map.1 hother
          rcases List.mem_cons.1 hc with rfl | hc
          · exact le_refl _
          · exact ha c hc
        have hdup : ((a :: b :: rest).map (·.name)).Duplicate a.name :=
          List.duplicate_cons_self_iff.2 (by simp [heq])
        rw [repeatedName?, if_pos heq, Option.some.injEq]
        constructor
        · rintro rfl
          exact ⟨hdup, fun other h => hleast other h.mem⟩
        · rintro ⟨hrepeated, hfirst⟩
          exact le_antisymm (hleast repeated hrepeated.mem) (hfirst a.name hdup)
      · rw [repeatedName?, if_neg heq, ih hrest]
        simp only [duplicate_names_cons_iff hs heq]

/-- The columns of a foreign key are listed in their order. -/
theorem foreignColumns_sorted (k : ForeignKey) : k.foreignColumns.Pairwise (· ≤ ·) := by
  refine List.pairwise_map.2 (k.pairs.sorted.imp fun {p q} hpq => ?_)
  rcases (compareLex_lt_iff (f := ColumnPair.foreign) (g := ColumnPair.primary)).1 hpq with
    hlt | ⟨hsame, -⟩
  · exact le_of_lt (compare_lt_iff_lt.1 hlt)
  · exact le_of_eq hsame

theorem unknownColumn?_eq_some_iff {names : List String} {k : ForeignKey} {column : String} :
    unknownColumn? names k = some column ↔ column ∈ k.foreignColumns ∧ column ∉ names ∧
      ∀ known ∈ k.foreignColumns, known < column → known ∈ names := by
  rw [unknownColumn?, ← List.findSome?_guard, findSome?_eq_some_iff_least
    (fun c d : String => c < d) ((foreignColumns_sorted k).imp fun h => not_lt_of_ge h)
    lt_irrefl fun c _ d _ hcd hdc => le_antisymm (not_lt.1 hdc) (not_lt.1 hcd)]
  simp only [Option.guard_eq_some_iff, Option.guard_eq_none_iff, Bool.not_eq_true',
    Bool.not_eq_false', List.contains_iff_mem]
  constructor
  · rintro ⟨c, hc, ⟨rfl, hunknown⟩, hleast⟩
    exact ⟨hc, by simpa using hunknown, hleast⟩
  · rintro ⟨hcolumn, hunknown, hleast⟩
    exact ⟨column, hcolumn, ⟨rfl, by simpa using hunknown⟩, hleast⟩

/-- The names of the sorted columns are repeated as those of the columns are. -/
theorem repeatedName?_byName_eq_some_iff {repeated : String} :
    repeatedName? (byName columns) = some repeated ↔
      (columns.map (·.name)).Duplicate repeated ∧
        ∀ other, (columns.map (·.name)).Duplicate other → repeated ≤ other := by
  have hdup : ∀ other, ((byName columns).map (·.name)).Duplicate other ↔
      (columns.map (·.name)).Duplicate other := by
    intro other
    rw [List.duplicate_iff_two_le_count, List.duplicate_iff_two_le_count,
      ((perm_byName columns).map _).count_eq]
  rw [repeatedName?_eq_some_iff (byName_sorted columns)]
  simp only [hdup]

theorem repeatedName?_byName_eq_none_iff :
    repeatedName? (byName columns) = none ↔ (columns.map (·.name)).Nodup := by
  rw [repeatedName?_eq_none_iff (byName_sorted columns)]
  refine ⟨fun hlt => ?_, byName_increasing⟩
  exact ((perm_byName columns).map _).nodup_iff.1
    (List.pairwise_map.2 (hlt.imp fun h => ne_of_lt h))

/-- Of the columns that are wrong by themselves that of the least name comes first. -/
theorem findSome?_columnFault?_eq_some_iff (hn : (columns.map (·.name)).Nodup) :
    (byName columns).findSome? columnFault? = some fault ↔
      ∃ c ∈ columns, columnFault? c = some fault ∧
        ∀ d ∈ columns, d.name < c.name → columnFault? d = none := by
  have hmem : ∀ c, c ∈ byName columns ↔ c ∈ columns := fun c => (perm_byName columns).mem_iff
  rw [findSome?_eq_some_iff_least (fun c d : Column => c.name < d.name)
    ((byName_sorted columns).imp fun h => not_lt_of_ge h) fun c => lt_irrefl c.name]
  · simp only [hmem]
  · intro c hc d hd hcd hdc
    exact List.inj_on_of_nodup_map hn ((hmem c).1 hc) ((hmem d).1 hd)
      (le_antisymm (not_lt.1 hdc) (not_lt.1 hcd))

theorem findSome?_columnFault?_eq_none_iff :
    (byName columns).findSome? columnFault? = none ↔ ∀ c ∈ columns, columnFault? c = none := by
  rw [List.findSome?_eq_none_iff]
  exact forall_congr' fun c => imp_congr_left (perm_byName columns).mem_iff

/-- Of the foreign keys that start from unknown columns the least comes first. -/
theorem findSome?_unknownColumn?_eq_some_iff {names : List String} :
    ((SortedSet.ofList keys).toList.findSome? fun k =>
        (unknownColumn? names k).map (TableFault.unknownForeignColumn k.parent)) = some fault ↔
      ∃ k ∈ keys, ∃ column, unknownColumn? names k = some column ∧
        fault = .unknownForeignColumn k.parent column ∧
          ∀ k' ∈ keys, compare k' k = .lt → unknownColumn? names k' = none := by
  have hmem : ∀ k, k ∈ (SortedSet.ofList keys).toList ↔ k ∈ keys :=
    fun k => SortedSet.mem_toList.trans SortedSet.mem_ofList
  rw [findSome?_eq_some_iff_least fun k k' : ForeignKey => compare k k' = .lt]
  · simp only [hmem, Option.map_eq_some_iff, Option.map_eq_none_iff]
    constructor
    · rintro ⟨k, hk, ⟨column, hcolumn, rfl⟩, hleast⟩
      exact ⟨k, hk, column, hcolumn, rfl, hleast⟩
    · rintro ⟨k, hk, column, hcolumn, rfl, hleast⟩
      exact ⟨k, hk, ⟨column, hcolumn, rfl⟩, hleast⟩
  · refine (SortedSet.ofList keys).sorted.imp fun {k k'} hlt hgt => ?_
    rw [Std.OrientedCmp.gt_iff_lt.2 hgt] at hlt
    cases hlt
  · intro k hlt
    rw [Std.ReflOrd.compare_self] at hlt
    cases hlt
  · intro k _ k' _ hlt hgt
    refine Std.LawfulEqOrd.eq_of_compare ?_
    cases hcompare : compare k k' with
    | lt => exact absurd hcompare hlt
    | eq => rfl
    | gt => exact absurd (Std.OrientedCmp.gt_iff_lt.1 hcompare) hgt

/-- The checks are made one after the other. -/
theorem fault?_eq_or (columns : List Column) (keys : SortedSet ForeignKey) :
    fault? columns keys = if columns = [] then some .noColumns else
      ((repeatedName? columns).map .duplicateColumn).or
        ((columns.findSome? columnFault?).or
          ((if countsFrom 0 (keyOrdinals columns) then none
            else some (.keyOrdinals (keyOrdinals columns))).or
            (keys.toList.findSome? fun k =>
              (unknownColumn? (columns.map (·.name)) k).map
                (.unknownForeignColumn k.parent)))) := by
  unfold fault?
  cases columns with
  | nil => rfl
  | cons c rest =>
    cases repeatedName? (c :: rest) with
    | some repeated => simp
    | none =>
      cases (c :: rest).findSome? columnFault? with
      | some fault => simp
      | none => cases countsFrom 0 (keyOrdinals (c :: rest)) <;> simp

theorem unknownColumn?_names_byName (k : ForeignKey) :
    unknownColumn? ((byName columns).map (·.name)) k = unknownColumn? (columns.map (·.name)) k := by
  have hnames : (fun c => !((byName columns).map (·.name)).contains c) =
      fun c => !(columns.map (·.name)).contains c := by
    funext c
    simp [(perm_byName columns).mem_iff]
  rw [unknownColumn?, hnames, unknownColumn?]

/-- The checks of columns in any order. -/
theorem fault?_byName_eq_or (columns : List Column) (keys : List ForeignKey) :
    fault? (byName columns) (SortedSet.ofList keys) = if columns = [] then some .noColumns else
      ((repeatedName? (byName columns)).map .duplicateColumn).or
        (((byName columns).findSome? columnFault?).or
          ((if countsFrom 0 (keyOrdinals columns) then none
            else some (.keyOrdinals (keyOrdinals columns))).or
            ((SortedSet.ofList keys).toList.findSome? fun k =>
              (unknownColumn? (columns.map (·.name)) k).map
                (.unknownForeignColumn k.parent)))) := by
  rw [fault?_eq_or]
  simp only [unknownColumn?_names_byName, byName_eq_nil_iff, keyOrdinals_congr (perm_byName columns)]

/-- What the checks find is the first fault. -/
theorem firstFault_of_fault? (h : fault? (byName columns) (SortedSet.ofList keys) = some fault) :
    FirstFault columns keys fault := by
  rw [fault?_byName_eq_or] at h
  split at h
  · rename_i hnil
    cases h
    exact .noColumns hnil
  rename_i hne
  rcases Option.or_eq_some_iff.1 h with h | ⟨hnone, h⟩
  · obtain ⟨repeated, hrepeated, rfl⟩ := Option.map_eq_some_iff.1 h
    obtain ⟨hdup, hleast⟩ := repeatedName?_byName_eq_some_iff.1 hrepeated
    exact .duplicateColumn hdup hleast
  have hn := repeatedName?_byName_eq_none_iff.1 (Option.map_eq_none_iff.1 hnone)
  rcases Option.or_eq_some_iff.1 h with h | ⟨hnone, h⟩
  · obtain ⟨c, hc, hfault, hleast⟩ := (findSome?_columnFault?_eq_some_iff hn).1 h
    exact .column hn hc hfault hleast
  have hcolumns := findSome?_columnFault?_eq_none_iff.1 hnone
  rcases Option.or_eq_some_iff.1 h with h | ⟨hnone, h⟩
  · split at h
    · cases h
    · rename_i hgap
      cases h
      exact .keyOrdinals hn hcolumns (fun hkey => hgap (countsFrom_keyOrdinals_iff.2 hkey))
        (keyOrdinals_perm columns) (keyOrdinals_sorted columns)
  have hkey : KeyInSequence columns := by
    refine countsFrom_keyOrdinals_iff.1 ?_
    by_contra hgap
    rw [if_neg hgap] at hnone
    cases hnone
  obtain ⟨k, hk, column, hcolumn, rfl, hleast⟩ := findSome?_unknownColumn?_eq_some_iff.1 h
  obtain ⟨hmem, hunknown, hbefore⟩ := unknownColumn?_eq_some_iff.1 hcolumn
  exact .unknownForeignColumn hne hn hcolumns hkey hk hmem hunknown
    (fun k' hk' hlt => unknownColumn?_eq_none_iff.1 (hleast k' hk' hlt)) hbefore

/-- The checks find the first fault. -/
theorem fault?_of_firstFault (h : FirstFault columns keys fault) :
    fault? (byName columns) (SortedSet.ofList keys) = some fault := by
  -- each later check is reached only if the earlier ones find nothing
  have hnames (hn : (columns.map (·.name)).Nodup) : repeatedName? (byName columns) = none :=
    repeatedName?_byName_eq_none_iff.2 hn
  rw [fault?_byName_eq_or]
  cases h with
  | noColumns hnil => rw [if_pos hnil]
  | duplicateColumn hrepeated hleast =>
    have hne : columns ≠ [] := by
      rintro rfl
      exact hrepeated.elim_nil
    rw [if_neg hne, repeatedName?_byName_eq_some_iff.2 ⟨hrepeated, hleast⟩]
    rfl
  | @column c _ hdistinct hc hfault hleast =>
    rw [if_neg (List.ne_nil_of_mem hc), hnames hdistinct,
      (findSome?_columnFault?_eq_some_iff hdistinct).2 ⟨c, hc, hfault, hleast⟩]
    rfl
  | keyOrdinals hdistinct hcolumns hgap hordinals hsorted =>
    have hne : columns ≠ [] := by
      rintro rfl
      exact hgap ⟨0, .refl _⟩
    rw [if_neg hne, hnames hdistinct, findSome?_columnFault?_eq_none_iff.2 hcolumns,
      if_neg fun hcount => hgap (countsFrom_keyOrdinals_iff.1 hcount),
      eq_keyOrdinals hsorted hordinals]
    rfl
  | @unknownForeignColumn k column hne hdistinct hcolumns hkey hk hcolumn hunknown hleastKey
      hleast =>
    rw [if_neg hne, hnames hdistinct, findSome?_columnFault?_eq_none_iff.2 hcolumns,
      if_pos (countsFrom_keyOrdinals_iff.2 hkey), findSome?_unknownColumn?_eq_some_iff.2
        ⟨k, hk, column, unknownColumn?_eq_some_iff.2 ⟨hcolumn, hunknown, hleast⟩, rfl,
          fun k' hk' hlt => unknownColumn?_eq_none_iff.2 (hleastKey k' hk' hlt)⟩]
    rfl

theorem fault?_eq_some_iff :
    fault? (byName columns) (SortedSet.ofList keys) = some fault ↔ FirstFault columns keys fault :=
  ⟨firstFault_of_fault?, fault?_of_firstFault⟩

/-- Columns in any order and foreign keys in any order and repetition come to the same table or to
the same error, and the error is about the first fault. -/
theorem ofColumns_rearranged (name : TableName) (hcolumns : columns'.Perm columns)
    (hkeys : ∀ k, k ∈ keys' ↔ k ∈ keys) :
    ofColumns name columns' keys' = ofColumns name columns keys ∧
      ∀ e, ofColumns name columns' keys' = .error e ↔
        ∃ fault, FirstFault columns keys fault ∧ e = .inTable name fault := by
  have hsame : ofColumns name columns' keys' = ofColumns name columns keys :=
    ofColumns_perm hcolumns hkeys
  refine ⟨hsame, fun e => ?_⟩
  rw [hsame, ofColumns_eq_error_iff]
  simp only [fault?_eq_some_iff]

/-- Four columns of two names. Each name is repeated, with different contents, and one column of each
name is wrong by itself. -/
def rivals : List Column := [
  { name := "b", dataType := "INT", isIdentity := true, default? := some "1" },
  { name := "a", dataType := "TEXT" },
  { name := "b", dataType := "INT" },
  { name := "a", dataType := "INT", keyOrdinal? := some 7, isConcurrencyToken := true }]

/-- A foreign key that starts from a column that none of them is. -/
def stray (parent : String) : ForeignKey :=
  ⟨⟨"m", parent⟩, SortedSet.ofList [⟨"x", "y"⟩]⟩

/-- In either direction the repetition of the lesser name is reported, and nothing else. -/
theorem ofColumns_rivals_reversed :
    rivals.reverse.Perm rivals ∧
      (∀ k, k ∈ [stray "v", stray "u", stray "v"] ↔ k ∈ [stray "u", stray "v"]) ∧
      ofColumns ⟨"m", "t"⟩ rivals.reverse [stray "v", stray "u", stray "v"] =
        ofColumns ⟨"m", "t"⟩ rivals [stray "u", stray "v"] ∧
      ofColumns ⟨"m", "t"⟩ rivals.reverse [stray "v", stray "u", stray "v"] =
        .error (.inTable ⟨"m", "t"⟩ (.duplicateColumn "a")) := by
  have hcolumns : rivals.reverse.Perm rivals := List.reverse_perm rivals
  have hkeys : ∀ k, k ∈ [stray "v", stray "u", stray "v"] ↔ k ∈ [stray "u", stray "v"] := by
    intro k
    simp only [List.mem_cons, List.not_mem_nil, or_false]
    tauto
  obtain ⟨hsame, herror⟩ := ofColumns_rearranged ⟨"m", "t"⟩ hcolumns hkeys
  refine ⟨hcolumns, hkeys, hsame, (herror _).2 ⟨_, .duplicateColumn ?_ ?_, rfl⟩⟩
  · show List.Duplicate "a" ["b", "a", "b", "a"]
    decide
  · intro other hother
    have hmem : other ∈ ["b", "a", "b", "a"] := hother.mem
    simp only [List.mem_cons, List.not_mem_nil, or_false] at hmem
    rcases hmem with rfl | rfl | rfl | rfl <;> decide

end Table

end SchemaCatalog
