import Mathlib
import SchemaCatalog.Proofs.CommonModel
import SchemaCatalog.Proofs.DescribedTables
/-!
# Columns that references leave out

A reference that does not name the parent's column means the column at the same place of the parent's
key. SQLite's rows are then read once more, by a rule of its own: the columns with a position are
sorted, and the one at the place is taken. The table that is made of the same rows gives every column
the place that its position tells, and checks that no place is missing or taken twice. Both come to the
same key (`Sqlite.implicit_parent_in_key`), whatever the order of the rows is.
-/

namespace SchemaCatalog

/-- What the source answers depends on nothing but the statement and its parameters. -/
def RowSource.Steady {σ κ : Type} (source : RowSource σ κ) : Prop :=
  ∀ statement s u, (source.fetchAll statement s).1 = (source.fetchAll statement u).1

/-- The places of a list of fewer than `2 ^ 63` members are not those of negative numbers. -/
theorem le_toNat_of_neg {n : Int64} (h : n < 0) : 2 ^ 63 ≤ n.toUInt64.toNat := by
  have hneg : n.toBitVec.toInt < 0 := by
    have hlt := Int64.lt_iff_toInt_lt.1 h
    rwa [Int64.toInt_zero] at hlt
  have htwice := BitVec.toInt_neg_iff.1 hneg
  have hnat : n.toUInt64.toNat = n.toBitVec.toNat := rfl
  omega

theorem toNat_of_nonneg {n : Int64} (h : 0 ≤ n) : n.toUInt64.toNat = n.toInt.toNat := by
  have hnonneg : 0 ≤ n.toInt := by
    have hle := Int64.le_iff_toInt_le.1 h
    rwa [Int64.toInt_zero] at hle
  have hbound := n.toInt_lt
  have hplace : n.toInt = ((n.toInt.toNat : Nat) : Int) := by omega
  rw [toUInt64_of_toInt hplace, UInt64.toNat_ofNat_of_lt' (by
    show _ < 2 ^ 64
    omega)]

namespace Sqlite

/-! ## The order of key columns -/

theorem keyColumnLE_iff {a b : Int64 × String} :
    keyColumnLE a b ↔ a.1 < b.1 ∨ a.1 = b.1 ∧ a.2 ≤ b.2 := by
  simp [keyColumnLE]

theorem keyColumnLE_trans {a b c : Int64 × String} (hab : keyColumnLE a b) (hbc : keyColumnLE b c) :
    keyColumnLE a c := by
  rw [keyColumnLE_iff] at hab hbc ⊢
  rcases hab with hab | ⟨hab, hab'⟩
  · rcases hbc with hbc | ⟨hbc, -⟩
    · exact .inl (Int64.lt_trans hab hbc)
    · exact .inl (hbc ▸ hab)
  · rcases hbc with hbc | ⟨hbc, hbc'⟩
    · exact .inl (hab ▸ hbc)
    · exact .inr ⟨hab.trans hbc, String.le_trans hab' hbc'⟩

theorem keyColumnLE_total (a b : Int64 × String) : (keyColumnLE a b || keyColumnLE b a) = true := by
  rw [Bool.or_eq_true, keyColumnLE_iff, keyColumnLE_iff]
  rcases Int64.lt_or_le a.1 b.1 with h | h
  · exact .inl (.inl h)
  · by_cases hsame : a.1 = b.1
    · rcases String.le_total a.2 b.2 with h' | h'
      · exact .inl (.inr ⟨hsame, h'⟩)
      · exact .inr (.inr ⟨hsame.symm, h'⟩)
    · exact .inr (.inl (Int64.lt_of_le_of_ne h (Ne.symm hsame)))

theorem keyColumnLE_antisymm {a b : Int64 × String} (hab : keyColumnLE a b)
    (hba : keyColumnLE b a) : a = b := by
  rw [keyColumnLE_iff] at hab hba
  rcases hab with hab | ⟨hab, hab'⟩
  · rcases hba with hba | ⟨hba, -⟩
    · exact absurd hba (Int64.lt_asymm hab)
    · exact absurd hab (hba ▸ Int64.lt_irrefl)
  · rcases hba with hba | ⟨-, hba'⟩
    · exact absurd hba (hab ▸ Int64.lt_irrefl)
    · exact Prod.ext hab (String.le_antisymm hab' hba')

/-- Key columns at increasing positions are what any arrangement of them is sorted to. -/
theorem mergeSort_keyColumnLE {l m : List (Int64 × String)} (h : l.Perm m)
    (hm : m.Pairwise fun a b => a.1 < b.1) : l.mergeSort keyColumnLE = m := by
  have hsorted : (l.mergeSort keyColumnLE).Pairwise fun a b => keyColumnLE a b := by
    apply List.pairwise_mergeSort
    · intro a b c
      exact keyColumnLE_trans
    · exact keyColumnLE_total
  have hm' : m.Pairwise fun a b => keyColumnLE a b :=
    hm.imp fun hab => keyColumnLE_iff.2 (.inl hab)
  exact List.Perm.eq_of_pairwise (fun _ _ _ _ hab hba => keyColumnLE_antisymm hab hba) hsorted hm'
    ((List.mergeSort_perm l _).trans h)

/-! ## The key columns of a table -/

section KeyColumns
variable {rows : List Row} {facts : List ColumnFacts}

/-- The position and the name. -/
def ColumnFacts.keyColumn (f : ColumnFacts) : Int64 × String :=
  (f.position, f.name)

theorem isInner_iff {row : Row} :
    isInner row ↔ row.int "pragma_table_xinfo" "hidden" = .ok 1 := by
  unfold isInner
  split
  · rename_i hidden hhidden
    rw [hhidden]
    simp
  · rename_i e hhidden
    rw [hhidden]
    simp

theorem keyColumnOf?_of_facts {row : Row} {f : ColumnFacts} (h : columnFacts row = .ok f) :
    keyColumnOf? row = .ok (if f.inKey then some f.keyColumn else none) := by
  simp only [columnFacts, bind_ok_iff] at h
  obtain ⟨name, hname, declared, -, position, hposition, notNull, -, default?, -, hidden, -, h⟩ := h
  cases h
  simp only [keyColumnOf?, hposition, hname, bind, Except.bind, ColumnFacts.inKey,
    ColumnFacts.keyColumn, decide_eq_true_eq, gt_iff_lt]
  split <;> rfl

theorem keyColumnOf?_of_zero {row : Row} (h : row.int "pragma_table_xinfo" "pk" = .ok 0) :
    keyColumnOf? row = .ok none := by
  rw [keyColumnOf?, h]
  rfl

/-- The rows with a position are those of columns that are not passed over. -/
theorem exists_mapM_keyColumnOf?
    (hinner : ∀ row ∈ rows, isInner row → row.int "pragma_table_xinfo" "pk" = .ok 0)
    (hfacts : (rows.filter fun row => !isInner row).mapM columnFacts = .ok facts) :
    ∃ found, rows.mapM keyColumnOf? = .ok found ∧
      found.filterMap id = (facts.filter (·.inKey)).map (·.keyColumn) := by
  induction rows generalizing facts with
  | nil =>
    cases hfacts
    exact ⟨[], rfl, rfl⟩
  | cons row rest ih =>
    have hrest : ∀ row ∈ rest, isInner row → row.int "pragma_table_xinfo" "pk" = .ok 0 :=
      fun row hrow => hinner row (List.mem_cons_of_mem _ hrow)
    by_cases hrow : isInner row
    · rw [List.filter_cons_of_neg (by simp [hrow])] at hfacts
      obtain ⟨found, hfound, hkey⟩ := ih hrest hfacts
      have hzero := keyColumnOf?_of_zero (hinner row List.mem_cons_self hrow)
      exact ⟨none :: found, mapM_cons_ok_iff.2 ⟨none, found, hzero, hfound, rfl⟩, hkey⟩
    · rw [List.filter_cons_of_pos (by simp [hrow])] at hfacts
      obtain ⟨f, facts', hf, hfacts', rfl⟩ := mapM_cons_ok_iff.1 hfacts
      obtain ⟨found, hfound, hkey⟩ := ih hrest hfacts'
      refine ⟨_, mapM_cons_ok_iff.2 ⟨_, found, keyColumnOf?_of_facts hf, hfound, rfl⟩, ?_⟩
      cases h : f.inKey with
      | false =>
        rw [List.filter_cons_of_neg (by simp [h])]
        exact hkey
      | true =>
        rw [List.filter_cons_of_pos h, List.map_cons, ← hkey]
        rfl

variable (hpositions : (keyFacts facts).map (·.position.toInt) =
  (List.range (keyFacts facts).length).map fun i : Nat => (i : Int) + 1)

include hpositions

theorem keyFacts_increasing : (keyFacts facts).Pairwise fun f g => f.position < g.position := by
  have hcounted : ((keyFacts facts).map (·.position.toInt)).Pairwise (· < ·) := by
    rw [hpositions, List.pairwise_map]
    exact List.pairwise_lt_range.imp fun h => by omega
  exact (List.pairwise_map.1 hcounted).imp fun h => Int64.lt_iff_toInt_lt.2 h

/-- Positions are numbers below `2 ^ 63`, so there are fewer key columns than that. -/
theorem length_keyFacts_lt : (keyFacts facts).length < 2 ^ 63 := by
  by_contra hlong
  have hplace : 2 ^ 63 - 1 < (keyFacts facts).length := by omega
  have hat := congrArg (·[2 ^ 63 - 1]?) hpositions
  simp only [List.getElem?_map, List.getElem?_eq_getElem hplace, List.getElem?_range hplace,
    Option.map_some] at hat
  have hbound := (keyFacts facts)[2 ^ 63 - 1].position.toInt_lt
  have hposition := Option.some.inj hat
  omega

/-- What is sorted for a reference are the key columns in the order of their positions. -/
theorem keyColumns_eq
    (hinner : ∀ row ∈ rows, isInner row → row.int "pragma_table_xinfo" "pk" = .ok 0)
    (hfacts : (rows.filter fun row => !isInner row).mapM columnFacts = .ok facts) :
    keyColumns rows = .ok ((keyFacts facts).map (·.keyColumn)) := by
  obtain ⟨found, hfound, hkey⟩ := exists_mapM_keyColumnOf? hinner hfacts
  have hsorted : (found.filterMap id).mergeSort keyColumnLE = (keyFacts facts).map (·.keyColumn) := by
    refine mergeSort_keyColumnLE ?_ ?_
    · rw [hkey]
      exact ((keyFacts_perm facts).map _).symm
    · exact List.pairwise_map.2 (keyFacts_increasing hpositions)
  rw [keyColumns, hfound, ← hsorted]
  rfl

end KeyColumns

/-! ## References without a column -/

section Runs
variable {σ κ : Type} {source : RowSource σ κ} {naming : Naming} {l : Listed} {p : Table} {s : σ}

/-- The parent is asked again for the columns of which its table was made. -/
theorem run_implicit_in_key (hsteady : source.Steady)
    (hp : ((table naming l).run source s).1 = .ok p)
    (hinner : ∀ rows, (source.fetchAll ⟨columnsSql naming, [.string l.name]⟩ s).1 = .ok rows →
      ∀ row ∈ rows, row.int "pragma_table_xinfo" "hidden" = .ok 1 →
        row.int "pragma_table_xinfo" "pk" = .ok 0)
    (child : TableName) (position : Int64) (u : σ) :
    p.primaryKey.length < 2 ^ 63 ∧
      ((implicitParentColumn naming child l.name position).run source u).1 =
        match p.primaryKey[position.toUInt64.toNat]? with
        | some c => .ok c.name
        | none => .error (.inTable child (.noImplicitParent l.name position)) := by
  obtain ⟨facts, references, ⟨rows, s₁, -, -, -, hrows, hfacts, -⟩, hdescribes⟩ :=
    describes_of_run_table (Prod.ext hp rfl)
  have hzero : ∀ row ∈ rows, isInner row → row.int "pragma_table_xinfo" "pk" = .ok 0 := by
    intro row hrow hrow'
    exact hinner rows (by rw [hrows]) row hrow (isInner_iff.1 hrow')
  have hcolumns := keyColumns_eq hdescribes.positions hzero hfacts
  have hagain : (source.fetchAll ⟨columnsSql naming, [.string l.name]⟩ u).1 = .ok rows := by
    rw [hsteady _ u s, hrows]
  rw [run_implicitParentColumn (Prod.ext hagain rfl) hcolumns, hdescribes.primaryKey]
  refine ⟨?_, ?_⟩
  · rw [List.length_map]
    exact length_keyFacts_lt hdescribes.positions
  · rw [List.getElem?_map, List.getElem?_map]
    cases (keyFacts facts)[position.toUInt64.toNat]? <;> rfl

/-- A reference to a table of a source that gives steady answers finds at each place of the table's
key the column that the key has there, and none at any other place. So a row that leaves out the
parent's column is a pair with this column. -/
theorem implicit_parent_in_key (hsteady : source.Steady)
    (hp : ((table naming l).run source s).1 = .ok p)
    (hinner : ∀ rows, (source.fetchAll ⟨columnsSql naming, [.string l.name]⟩ s).1 = .ok rows →
      ∀ row ∈ rows, row.int "pragma_table_xinfo" "hidden" = .ok 1 →
        row.int "pragma_table_xinfo" "pk" = .ok 0)
    (child : TableName) (u : σ) :
    (∀ position c, 0 ≤ position → p.primaryKey[position.toInt.toNat]? = some c →
      ((implicitParentColumn naming child l.name position).run source u).1 = .ok c.name) ∧
    (∀ position, position < 0 ∨ p.primaryKey.length ≤ position.toInt.toNat →
      ((implicitParentColumn naming child l.name position).run source u).1 =
        .error (.inTable child (.noImplicitParent l.name position))) ∧
    ∀ row f c, referenceFacts row = .ok f → f.parent = l.name → f.primary? = none →
      0 ≤ f.position → p.primaryKey[f.position.toInt.toNat]? = some c →
      ((referenceRow naming child row).run source u).1 = .ok (referenceOf (f, c.name)) := by
  have hrun := run_implicit_in_key hsteady hp hinner child
  have hfound : ∀ position c, 0 ≤ position → p.primaryKey[position.toInt.toNat]? = some c →
      ((implicitParentColumn naming child l.name position).run source u).1 = .ok c.name := by
    intro position c hposition hc
    rw [(hrun position u).2, toNat_of_nonneg hposition, hc]
  refine ⟨hfound, ?_, ?_⟩
  · intro position hposition
    obtain ⟨hlength, hcolumn⟩ := hrun position u
    have hoff : p.primaryKey.length ≤ position.toUInt64.toNat := by
      rcases hposition with hneg | hlong
      · have hlarge := le_toNat_of_neg hneg
        omega
      · by_cases hneg : position < 0
        · have hlarge := le_toNat_of_neg hneg
          omega
        · rw [toNat_of_nonneg (Int64.not_lt.1 hneg)]
          exact hlong
    rw [hcolumn, List.getElem?_eq_none hoff]
  · intro row f c hf hparent hprimary hposition hc
    have hcolumn := hfound f.position c hposition hc
    rw [← hparent] at hcolumn
    rw [referenceRow_of_facts hf, ReferenceFacts.resolve, hprimary]
    simp only [bind_assoc]
    rw [Query.run_bind_ok source (Prod.ext hcolumn rfl)]
    rfl

end Runs

/-! ## A key that is reported from its end -/

/-- The answers about a table, and about nothing else. -/
def childAnswers : Lookup Statement (List Row) where
  entries := [(⟨columnsSql .sqlite, [.string child.name]⟩, childRows),
    (⟨foreignKeysSql .sqlite, [.string child.name]⟩, [])]
  distinct := by decide +kernel

theorem steady_childAnswers : (RowSource.knowing childAnswers).Steady :=
  fun _ _ _ => rfl

/-- The inner column is outside the key. -/
theorem inner_childRows : ∀ row ∈ childRows, row.int "pragma_table_xinfo" "hidden" = .ok 1 →
    row.int "pragma_table_xinfo" "pk" = .ok 0 := by
  intro row hrow hhidden
  simp only [childRows, List.mem_cons, List.not_mem_nil, or_false] at hrow
  rcases hrow with rfl | rfl | rfl | rfl
  · cases hhidden
  · rfl
  · cases hhidden
  · cases hhidden

theorem exists_table_childAnswers :
    ∃ p, ((table .sqlite child).run (.knowing childAnswers) ()).1 = .ok p ∧
      p.primaryKey.map (·.name) = ["a", "b"] := by
  have hcolumns : (Query.rows ⟨columnsSql .sqlite, [.string child.name]⟩).run
      (.knowing childAnswers) () = (.ok childRows, ()) := by
    rw [Query.run_rows, RowSource.fetchAll_knowing (.head _)]
  have hpairs : (Query.rows ⟨foreignKeysSql .sqlite, [.string child.name]⟩).run
      (.knowing childAnswers) () = (.ok [], ()) := by
    rw [Query.run_rows, RowSource.fetchAll_knowing (.tail _ (.head _))]
  have hrun := run_table_of_rows hcolumns mapM_columnOf?_childRows hpairs rfl
  have hview : ((table .sqlite child).run (.knowing childAnswers) ()).1.toOption.map
      (fun p => p.primaryKey.map (·.name)) = some ["a", "b"] := by
    rw [hrun]
    cbv
  obtain ⟨p, hp, hkey⟩ := Option.map_eq_some_iff.1 hview
  exact ⟨p, ok_of_toOption hp, hkey⟩

/-- A reference to the second place finds the second column of the key, whose row comes first. There
is no third place, and none before the first. -/
theorem implicit_parent_of_child : ∃ p,
    ((table .sqlite child).run (.knowing childAnswers) ()).1 = .ok p ∧
      p.primaryKey.map (·.name) = ["a", "b"] ∧
      ((implicitParentColumn .sqlite ⟨"main", "r"⟩ "c" 1).run (.knowing childAnswers) ()).1 =
        .ok "b" ∧
      ((implicitParentColumn .sqlite ⟨"main", "r"⟩ "c" 2).run (.knowing childAnswers) ()).1 =
        .error (.inTable ⟨"main", "r"⟩ (.noImplicitParent "c" 2)) ∧
      ((implicitParentColumn .sqlite ⟨"main", "r"⟩ "c" (-1)).run (.knowing childAnswers) ()).1 =
        .error (.inTable ⟨"main", "r"⟩ (.noImplicitParent "c" (-1))) ∧
      ((referenceRow .sqlite ⟨"main", "r"⟩ (pairRow 3 0 "c" "z" none)).run
        (.knowing childAnswers) ()).1 = .ok ⟨"3", 0, "z", ⟨"main", "c"⟩, "a"⟩ := by
  obtain ⟨p, hp, hkey⟩ := exists_table_childAnswers
  have hinner : ∀ rows, ((RowSource.knowing childAnswers).fetchAll
      ⟨columnsSql .sqlite, [.string child.name]⟩ ()).1 = .ok rows →
      ∀ row ∈ rows, row.int "pragma_table_xinfo" "hidden" = .ok 1 →
        row.int "pragma_table_xinfo" "pk" = .ok 0 := by
    intro rows hrows
    rw [RowSource.fetchAll_knowing (.head _)] at hrows
    cases hrows
    exact inner_childRows
  have hplace {i : Nat} {name : String} (h : ["a", "b"][i]? = some name) :
      ∃ c, p.primaryKey[i]? = some c ∧ c.name = name := by
    rw [← hkey, List.getElem?_map] at h
    exact Option.map_eq_some_iff.1 h
  have hlength : p.primaryKey.length = 2 := by
    rw [← List.length_map, hkey]
    rfl
  obtain ⟨a, ha, hname⟩ := hplace (i := 0) rfl
  obtain ⟨b, hb, hname'⟩ := hplace (i := 1) rfl
  obtain ⟨hfound, hoff, hrow⟩ :=
    implicit_parent_in_key steady_childAnswers hp hinner ⟨"main", "r"⟩ ()
  refine ⟨p, hp, hkey, ?_, hoff 2 (.inr (by rw [hlength]; decide)), hoff (-1) (.inl (by decide)), ?_⟩
  · rw [← hname']
    exact hfound 1 b (by decide) hb
  · rw [hrow _ ⟨3, 0, "c", "z", none⟩ a rfl rfl rfl (by decide) ha, hname]
    rfl

end Sqlite

end SchemaCatalog
