import Mathlib
import SchemaCatalog.Engine
import SchemaCatalog.Json.Model
import SchemaCatalog.Proofs.Reading
import SchemaCatalog.Proofs.Runs
import SchemaCatalog.Proofs.TableInvariant
/-!
# Every way to a table

A table is built from columns and foreign keys, extended by a column, assembled from catalog rows,
read from JSON or extracted from a database. `Table.Obtainable` lists these ways and closes them
under repetition. All of them lead to well-formed tables, since none of them gets around the checks
of `Table.ofColumns` and of `ForeignKey.ofPairs`.
-/

namespace SchemaCatalog

/-! ## Foreign keys -/

namespace ForeignKey

theorem size_pos_of_ofPairs {parent : TableName} {pairs : List ColumnPair} {k : ForeignKey}
    (h : ofPairs parent pairs = .ok k) : 0 < k.pairs.size := by
  unfold ofPairs at h
  split at h
  · cases h
  · rename_i hne
    cases h
    obtain ⟨p, rest, rfl⟩ := List.exists_cons_of_ne_nil (by simpa using hne)
    have hp : p ∈ (SortedSet.ofList (p :: rest)).toList :=
      SortedSet.mem_toList.2 (SortedSet.mem_ofList.2 (by simp))
    exact List.length_pos_of_mem hp

theorem size_pos_of_ofRows {table : TableName} {constraint : String} {rows : List ReferenceRow}
    {k : ForeignKey} (h : ofRows table constraint rows = .ok k) : 0 < k.pairs.size := by
  unfold ofRows at h
  split at h
  · cases h
  · split at h
    · cases h
    · exact size_pos_of_ofPairs h

theorem size_pos_of_grouped {table : TableName} {rows : List ReferenceRow} {ks : List ForeignKey}
    (h : grouped table rows = .ok ks) : ∀ k ∈ ks, 0 < k.pairs.size := by
  intro k hk
  obtain ⟨constraint, _, hrows⟩ := exists_of_mem_mapM h hk
  exact size_pos_of_ofRows hrows

/-- The foreign keys that can be had: built from pairs, grouped from catalog rows, or read. -/
inductive Obtainable : ForeignKey → Prop
  | built {parent : TableName} {pairs : List ColumnPair} {k : ForeignKey} :
      ofPairs parent pairs = .ok k → k.Obtainable
  | grouped {table : TableName} {rows : List ReferenceRow} {ks : List ForeignKey}
      {k : ForeignKey} : ForeignKey.grouped table rows = .ok ks → k ∈ ks → k.Obtainable
  | read {text : String} {k : ForeignKey} :
      Json.Reader.foreignKey.run text = .ok k → k.Obtainable

end ForeignKey

/-! ## Reading -/

namespace Json.Reader

theorem ensures_foreignKey : foreignKey.Ensures fun k => 0 < k.pairs.size := by
  refine ensures_record (fun _ => True) (fun _ _ _ _ => ensures_true _) trivial ?_
  intro d k _ h
  obtain ⟨schema, _, h⟩ := bind_ok_iff.1 h
  obtain ⟨table, _, h⟩ := bind_ok_iff.1 h
  obtain ⟨pairs, _, h⟩ := bind_ok_iff.1 h
  exact ForeignKey.size_pos_of_ofPairs (ok_of_mapError h)

/-- The draft of a table holds foreign keys with pairs only. -/
def TableDraft.HasPairs (d : TableDraft) : Prop :=
  ∀ ks, d.foreignKeys = some ks → ∀ k ∈ ks, 0 < k.pairs.size

theorem ensures_tableMember {m : Member TableDraft} (hm : m ∈ TableDraft.members) {d : TableDraft}
    (hd : d.HasPairs) : (m.read d).Ensures TableDraft.HasPairs := by
  simp only [TableDraft.members, List.mem_cons, List.not_mem_nil, or_false] at hm
  rcases hm with rfl | rfl | rfl | rfl
  · exact ensures_map (ensures_true _) fun _ _ => hd
  · exact ensures_map (ensures_true _) fun _ _ => hd
  · exact ensures_map (ensures_true _) fun _ _ => hd
  · exact ensures_map (ensures_array ensures_foreignKey) fun ks hks ks' h => by cases h; exact hks

theorem ensures_table : table.Ensures Table.WellFormed := by
  refine ensures_record TableDraft.HasPairs (fun m hm d hd => ensures_tableMember hm hd)
    (fun ks h => by cases h) ?_
  intro d t hd h
  obtain ⟨schema, _, h⟩ := bind_ok_iff.1 h
  obtain ⟨name, _, h⟩ := bind_ok_iff.1 h
  obtain ⟨columns, _, h⟩ := bind_ok_iff.1 h
  refine Table.wellFormed_of_ofColumns (ok_of_mapError h) fun k hk => ?_
  cases hks : d.foreignKeys with
  | none => rw [hks] at hk; cases hk
  | some ks => rw [hks] at hk; exact hd ks hks k hk

end Json.Reader

/-! ## Assembling and extracting -/

namespace Table

theorem wellFormed_of_assemble {name : TableName} {columns : List Column} {key : KeyOrdinals}
    {rows : List ReferenceRow} {t : Table} (h : assemble name columns key rows = .ok t) :
    t.WellFormed := by
  obtain ⟨_, _, _, _, hkeys, h⟩ := assemble_eq_ok_iff.1 h
  exact wellFormed_of_ofColumns h (ForeignKey.size_pos_of_grouped hkeys)

end Table

namespace Query

/-- A query that ends with assembling a table. -/
theorem ensures_assemble {name : TableName} {columns : List Column} {key : KeyOrdinals}
    {rows : List ReferenceRow} :
    (ofExcept (Table.assemble name columns key rows)).Ensures Table.WellFormed :=
  ensures_ofExcept fun _ => Table.wellFormed_of_assemble

end Query

namespace InformationSchema

theorem ensures_assembleFrom (decorate : List Column → List Column) (keys : PrimaryKeys)
    (references : ByTable ReferenceRow) (names : List TableName) (columns : ByTable Column) :
    ∀ q ∈ (Snapshot.assembleFrom decorate keys references names columns).map Query.ofExcept,
      q.Ensures Table.WellFormed := by
  induction names generalizing columns with
  | nil => simp [Snapshot.assembleFrom]
  | cons name rest ih =>
    intro q hq
    simp only [Snapshot.assembleFrom, List.map_cons, List.mem_cons] at hq
    rcases hq with rfl | hq
    · exact Query.ensures_assemble
    · exact ih _ q hq

end InformationSchema

theorem Sqlite.ensures_table (naming : Naming) (listed : Sqlite.Listed) :
    (Sqlite.table naming listed).Ensures Table.WellFormed :=
  Query.ensures_then fun _ => Query.ensures_then fun _ => Query.ensures_then fun _ =>
    Query.ensures_then fun _ => Query.ensures_assemble

theorem Engine.ensures_tables (e : Engine) (options : ExtractOptions) (naming : Naming) :
    (e.tables options naming).Ensures fun queries => ∀ q ∈ queries, q.Ensures Table.WellFormed := by
  cases e with
  | postgres => exact Query.ensures_then fun _ => InformationSchema.ensures_assembleFrom _ _ _ _ _
  | sqlServer => exact Query.ensures_then fun _ => InformationSchema.ensures_assembleFrom _ _ _ _ _
  | sqlite =>
    show (Sqlite.tables options naming).Ensures _
    unfold Sqlite.tables
    split
    · refine Query.ensures_then fun _ => Query.ensures_then fun listed => ?_
      intro q hq
      obtain ⟨l, _, rfl⟩ := List.mem_map.1 hq
      exact Sqlite.ensures_table naming l
    · intro q hq
      cases hq

/-! ## All ways together -/

namespace Table

/-- The tables that can be had, in any number of steps. -/
inductive Obtainable : Table → Prop
  /-- Built from columns and foreign keys; the foreign keys may be those of other tables. -/
  | built {name : TableName} {columns : List Column} {keys : List ForeignKey} {t : Table}
      (others : List Table) :
      (∀ other ∈ others, other.Obtainable) →
      (∀ k ∈ keys, k.Obtainable ∨ ∃ other ∈ others, k ∈ other.foreignKeys) →
      ofColumns name columns keys = .ok t → t.Obtainable
  | extended {t t' : Table} {c : Column} :
      t.Obtainable → t.withColumn c = .ok t' → t'.Obtainable
  | assembled {name : TableName} {columns : List Column} {key : KeyOrdinals}
      {rows : List ReferenceRow} {t : Table} :
      assemble name columns key rows = .ok t → t.Obtainable
  | read {text : String} {t : Table} : Json.Reader.table.run text = .ok t → t.Obtainable
  | readFromList {text : String} {ts : List Table} {t : Table} :
      Json.Reader.tables.run text = .ok ts → t ∈ ts → t.Obtainable
  /-- Pulled from an extraction over any source in any state. -/
  | extracted {σ κ : Type} (e : Engine) (options : ExtractOptions) (naming : Naming)
      (source : RowSource σ κ) (s : σ) {t : Table} :
      .ok t ∈ ((e.tables options naming).drain source s).1 → t.Obtainable
  | collected {σ κ : Type} (e : Engine) (options : ExtractOptions) (naming : Naming)
      (source : RowSource σ κ) (s : σ) {ts : List Table} {t : Table} :
      ((e.tables options naming).collect source s).1 = .ok ts → t ∈ ts → t.Obtainable

theorem size_pos_of_obtainable {k : ForeignKey} (h : k.Obtainable) : 0 < k.pairs.size := by
  cases h with
  | built h => exact ForeignKey.size_pos_of_ofPairs h
  | grouped h hk => exact ForeignKey.size_pos_of_grouped h k hk
  | read h => exact Json.Reader.of_run Json.Reader.ensures_foreignKey h

/-- However a table was come by, it is well-formed. -/
theorem Obtainable.wellFormed {t : Table} (h : t.Obtainable) : t.WellFormed := by
  -- On every way the checks come last, so only the pairs of the foreign keys have to be followed.
  induction h with
  | built others _ hkeys h ih =>
    refine wellFormed_of_ofColumns h fun k hk => ?_
    rcases hkeys k hk with hk | ⟨other, hother, hk⟩
    · exact size_pos_of_obtainable hk
    · exact (ih other hother).hasPair k hk
  | extended _ h ih => exact wellFormed_of_ofColumns h ih.hasPair
  | assembled h => exact wellFormed_of_assemble h
  | read h => exact Json.Reader.of_run Json.Reader.ensures_table h
  | readFromList h ht =>
    exact Json.Reader.of_run (Json.Reader.ensures_array Json.Reader.ensures_table) h _ ht
  | extracted e options naming source s h =>
    exact TableStream.ensures_of_mem_drain source (e.ensures_tables options naming) h
  | collected e options naming source s h ht =>
    exact TableStream.ensures_of_mem_drain source (e.ensures_tables options naming)
      (TableStream.mem_drain_of_mem_collect source h ht)

/-- A table of a file, in which the second column of the key is listed first. -/
def sampleText : String :=
  "[\"m\",\"t\",[[\"b\",\"I\",true,null,0,false,true,false]," ++
    "[\"a\",\"I\",true,null,1,false,false,false]],[[\"m\",\"u\",[[\"b\",\"c\"]]]]]"

/-- A row version. -/
def rowVersion : Column where
  name := "v"
  dataType := "XID"
  isComputed := true
  isConcurrencyToken := true

/-- The table of the file, with the row version added. -/
theorem wellFormed_read_extended :
    ∃ t : Table, (Json.Reader.table.run sampleText).toOption.bind
          (fun t => (t.withColumn rowVersion).toOption) = some t ∧
      t.primaryKey.map (·.name) = ["b", "a"] ∧ t.WellFormed := by
  have h : ((Json.Reader.table.run sampleText).toOption.bind
      fun t => (t.withColumn rowVersion).toOption).map
        (fun t => t.primaryKey.map (·.name)) = some ["b", "a"] := by cbv
  obtain ⟨t, ht, hkey⟩ := Option.map_eq_some_iff.1 h
  obtain ⟨read, hread, hextended⟩ := Option.bind_eq_some_iff.1 ht
  exact ⟨t, ht, hkey, Obtainable.wellFormed
    (.extended (.read (ok_of_toOption hread)) (ok_of_toOption hextended))⟩

end Table

end SchemaCatalog
