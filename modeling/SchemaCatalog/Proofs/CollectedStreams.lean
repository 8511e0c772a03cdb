import Mathlib
import SchemaCatalog.Proofs.RowOrder
/-!
# Streams that are stopped and collected

A stream may go on after an error. Stopped after an error it gives the items up to its first one,
and collecting it gives that error, or all tables in the order of their names: the schema first,
and tables of one name in the order in which they came (`Arranged`). There is one such
arrangement, so what is collected is settled by the items (`ItemStream.stopped_and_collected`),
and if no two tables have one name not even their order matters.
-/

namespace SchemaCatalog

variable {σ κ σ' κ' α : Type}

/-! ## The arrangement by names -/

theorem TableName.isLE_compare_iff {m n : TableName} :
    (compare m n).isLE ↔ m.schema < n.schema ∨ m.schema = n.schema ∧ m.name ≤ n.name := by
  have hcompare : compare m n = (compare m.schema n.schema).then (compare m.name n.name) := rfl
  rw [hcompare]
  cases hschema : compare m.schema n.schema with
  | lt => simp [compare_lt_iff_lt.1 hschema]
  | eq =>
    have hsame : m.schema = n.schema := compare_eq_iff_eq.1 hschema
    have hname : (compare m.name n.name).isLE ↔ m.name ≤ n.name := by
      rw [Ordering.isLE_iff_ne_gt]
      exact compare_le_iff_le
    simp [hsame, hname]
  | gt =>
    have hgt : n.schema < m.schema := compare_gt_iff_gt.1 hschema
    simp [hgt.not_gt, hgt.ne']

/-- The tables in the order of their names, the schema first. Tables of one name are in the order in
which they came. -/
structure Arranged (ts us : List Table) : Prop where
  perm : us.Perm ts
  sorted : us.Pairwise fun t u => t.name.schema < u.name.schema ∨
    t.name.schema = u.name.schema ∧ t.name.name ≤ u.name.name
  stable : ∀ name, us.filter (·.name = name) = ts.filter (·.name = name)

section Arrangement
variable {ts us vs : List Table}

/-- The order of the names, as it is compared. -/
theorem Arranged.pairwise_isLE (h : Arranged ts us) :
    us.Pairwise fun t u => (compare t.name u.name).isLE :=
  h.sorted.imp TableName.isLE_compare_iff.2

theorem mem_iff_of_filter_name
    (h : ∀ name, us.filter (·.name = name) = vs.filter (·.name = name)) (t : Table) :
    t ∈ us ↔ t ∈ vs := by
  have hfilter : t ∈ us.filter (·.name = t.name) ↔ t ∈ vs.filter (·.name = t.name) := by
    rw [h t.name]
  simpa using hfilter

/-- Sorted lists with the same tables of each name, in the same order, are the same list. -/
theorem eq_of_filter_name (hu : us.Pairwise fun t u => (compare t.name u.name).isLE)
    (hv : vs.Pairwise fun t u => (compare t.name u.name).isLE)
    (h : ∀ name, us.filter (·.name = name) = vs.filter (·.name = name)) : us = vs := by
  induction us generalizing vs with
  | nil =>
    cases vs with
    | nil => rfl
    | cons v vs => exact absurd ((mem_iff_of_filter_name h v).2 (by simp)) (by simp)
  | cons t us ih =>
    have hmem := mem_iff_of_filter_name h
    cases vs with
    | nil => exact absurd ((hmem t).1 (by simp)) (by simp)
    | cons v vs =>
      obtain ⟨ht, hus⟩ := List.pairwise_cons.1 hu
      obtain ⟨hvs', hvs⟩ := List.pairwise_cons.1 hv
      -- neither of the first tables comes behind the other, so they have one name
      have hname : t.name = v.name := by
        rcases List.mem_cons.1 ((hmem t).1 (by simp)) with rfl | htv
        · rfl
        rcases List.mem_cons.1 ((hmem v).2 (by simp)) with rfl | hvt
        · rfl
        exact Std.LawfulEqOrd.eq_of_compare (Std.OrientedCmp.isLE_antisymm (ht v hvt) (hvs' t htv))
      have hfirst := h t.name
      rw [List.filter_cons_of_pos (by simp), List.filter_cons_of_pos (by simp [hname])] at hfirst
      obtain ⟨rfl, -⟩ := List.cons.inj hfirst
      have hrest : ∀ name, us.filter (·.name = name) = vs.filter (·.name = name) := by
        intro name
        have hcons := h name
        simp only [List.filter_cons] at hcons
        split at hcons
        · exact (List.cons.inj hcons).2
        · exact hcons
      rw [ih hus hvs hrest]

theorem arranged_sortByName (ts : List Table) : Arranged ts (TableStream.sortByName ts) := by
  have htrans : ∀ t u v : Table, (compare t.name u.name).isLE → (compare u.name v.name).isLE →
      (compare t.name v.name).isLE := fun _ _ _ => Std.TransCmp.isLE_trans
  have htotal : ∀ t u : Table, ((compare t.name u.name).isLE || (compare u.name t.name).isLE) := by
    intro t u
    have hswap : compare u.name t.name = (compare t.name u.name).swap := Std.OrientedCmp.eq_swap
    cases hc : compare t.name u.name <;> simp [hswap, hc]
  refine ⟨List.mergeSort_perm ts _, ?_, fun name => ?_⟩
  · exact (List.pairwise_mergeSort htrans htotal ts).imp TableName.isLE_compare_iff.1
  · refine Table.filter_mergeSort htrans htotal (fun t u ht hu => ?_) ts
    have hname : t.name = u.name := (of_decide_eq_true ht).trans (of_decide_eq_true hu).symm
    rw [hname, Std.ReflOrd.compare_self]
    rfl

/-- There is one arrangement, and it is the one that sorting comes to. -/
theorem arranged_iff : Arranged ts us ↔ us = TableStream.sortByName ts := by
  have hsorted := arranged_sortByName ts
  constructor
  · intro h
    exact eq_of_filter_name h.pairwise_isLE hsorted.pairwise_isLE fun name =>
      (h.stable name).trans (hsorted.stable name).symm
  · rintro rfl
    exact hsorted

end Arrangement

/-- A list of items has a first error exactly if there are only values in front of one. -/
theorem mapM_id_eq_error_iff {items : List (Except Error α)} {e : Error} :
    items.mapM id = .error e ↔
      ∃ (before : List α) (after : _), items = before.map .ok ++ .error e :: after := by
  constructor
  · intro h
    obtain ⟨front, item, after, rfl, rfl, hfront⟩ := exists_of_mapM_error h
    obtain ⟨before, hbefore⟩ := exists_mapM_ok hfront
    have hvalues := mapM_ok_iff.1 hbefore
    rw [List.map_id] at hvalues
    exact ⟨before, after, by rw [hvalues]⟩
  · rintro ⟨before, after, rfl⟩
    induction before with
    | nil => rfl
    | cons a before ih =>
      rw [List.map_cons, List.cons_append, List.mapM_cons, ih]
      rfl

/-! ## Streams -/

namespace ItemStream

section Stopped
variable (t : ItemStream σ κ α)

/-- Collecting pulls nothing behind an error, so it does not notice whether the stream stops
there. -/
theorem collect_stopAfterError (c : κ) (s : σ) :
    t.stopAfterError.collect (c, false) s = t.collect c s := by
  induction c, s using t.pull_induction with
  | h c s ih =>
    rcases hnext : t.next c s with ⟨_ | ⟨e | a⟩, c', s'⟩
    · rw [t.collect_of_end hnext, collect_of_end _ (t.stopAfterError_next_end hnext)]
    · rw [t.collect_of_error hnext, collect_of_error _ (t.stopAfterError_next_error hnext)]
    · rw [t.collect_of_ok hnext, collect_of_ok _ (t.stopAfterError_next_ok hnext),
        ih _ c' s' hnext]

/-- A stream that is stopped twice is pulled as one that is stopped once, also behind the error. -/
theorem drain_stopAfterError_twice (c : κ) (s : σ) :
    t.stopAfterError.stopAfterError.drain ((c, false), false) s =
      t.stopAfterError.drain (c, false) s := by
  induction c, s using t.pull_induction with
  | h c s ih =>
    rcases hnext : t.next c s with ⟨_ | ⟨e | a⟩, c', s'⟩
    · have honce := t.stopAfterError_next_end hnext
      rw [drain_of_end _ honce, drain_of_end _ (stopAfterError_next_end _ honce)]
    · have honce := t.stopAfterError_next_error hnext
      have hbehind : (t.stopAfterError.next (c', true) s').2.2 = (t.next c' s').2.2 := by
        rcases hnext' : t.next c' s' with ⟨_ | item, c'', s''⟩ <;> simp [stopAfterError, hnext']
      rw [drain_of_item _ honce, drain_of_item _ (stopAfterError_next_error _ honce), drain_stopped,
        drain_stopped, hbehind]
    · have honce := t.stopAfterError_next_ok hnext
      rw [drain_of_item _ honce, drain_of_item _ (stopAfterError_next_ok _ honce), ih _ c' s' hnext]

end Stopped

/-- The tables that are left in the order of their names, or the first error. -/
def collectTables (t : ItemStream σ κ Table) (c : κ) (s : σ) : Except Error (List Table) × σ :=
  match t.collect c s with
  | (found, s') => (found.map TableStream.sortByName, s')

end ItemStream

/-- The tables of an extraction are collected from its stream, which stops after an error. -/
theorem TableStream.collect_eq_collectTables {source : RowSource σ κ} {extraction : TableStream}
    {queries : List (Query Table)} {s s' : σ} (h : extraction.run source s = (.ok queries, s')) :
    extraction.collect source s =
      (tables source).stopAfterError.collectTables (queries, false) s' := by
  simp only [collect, h]
  rfl

namespace ItemStream

theorem collectTables_eq (t : ItemStream σ κ Table) (c : κ) (s : σ) :
    (t.collectTables c s).1 = ((t.drain c s).1.mapM id).map TableStream.sortByName := by
  rw [← collect_eq_mapM]
  rfl

theorem collectTables_eq_error_iff {t : ItemStream σ κ Table} {c : κ} {s : σ} {e : Error} :
    (t.collectTables c s).1 = .error e ↔
      ∃ (before : List Table) (after : _),
        (t.drain c s).1 = before.map .ok ++ .error e :: after := by
  rw [collectTables_eq, ← mapM_id_eq_error_iff]
  cases (t.drain c s).1.mapM id <;> simp [Except.map]

theorem collectTables_eq_ok_iff {t : ItemStream σ κ Table} {c : κ} {s : σ} {found : List Table} :
    (t.collectTables c s).1 = .ok found ↔
      ∃ ts : List Table, (t.drain c s).1 = ts.map .ok ∧ Arranged ts found := by
  rw [collectTables_eq, map_ok_iff]
  refine exists_congr fun ts => ?_
  rw [mapM_ok_iff, List.map_id, arranged_iff, eq_comm (a := found)]

/-- A stream that stops after an error gives the items up to its first error, and stopping it once
more changes nothing. The tables of a stream are collected as if it were stopped: if there is an
error, the first one comes out, and otherwise all tables, arranged by their names. Tables of
different names are collected alike from every stream that gives them, in whatever order. -/
theorem stopped_and_collected (t : ItemStream σ κ α) (c : κ) (s : σ) (u : ItemStream σ' κ' Table)
    (d : κ') (r : σ') :
    (t.stopAfterError.drain (c, false) s).1 = upToError (t.drain c s).1 ∧
    t.stopAfterError.stopAfterError.drain ((c, false), false) s =
      t.stopAfterError.drain (c, false) s ∧
    u.stopAfterError.collectTables (d, false) r = u.collectTables d r ∧
    (∀ e, (u.collectTables d r).1 = .error e ↔
      ∃ (before : List Table) (after : _),
        (u.drain d r).1 = before.map .ok ++ .error e :: after) ∧
    (∀ found, (u.collectTables d r).1 = .ok found ↔
      ∃ ts : List Table, (u.drain d r).1 = ts.map .ok ∧ Arranged ts found) ∧
    ∀ {σ'' κ'' : Type} (v : ItemStream σ'' κ'' Table) (d' : κ'') (r' : σ'') (ts us : List Table),
      (u.drain d r).1 = ts.map .ok → (v.drain d' r').1 = us.map .ok → ts.Perm us →
      (ts.map (·.name)).Nodup → (v.collectTables d' r').1 = (u.collectTables d r).1 := by
  refine ⟨t.drain_stopAfterError c s, t.drain_stopAfterError_twice c s, ?_,
    fun e => collectTables_eq_error_iff, fun found => collectTables_eq_ok_iff, ?_⟩
  · rw [collectTables, collect_stopAfterError, collectTables]
  · intro σ'' κ'' v d' r' ts us hts hus hperm hdistinct
    rw [collectTables_eq, collectTables_eq, hts, hus, mapM_id_map_ok, mapM_id_map_ok]
    exact congrArg Except.ok (TableStream.sortByName_perm hperm hdistinct).symm

theorem drain_ofList (items : List (Except Error α)) (s : σ) :
    ofList.drain items s = (items, s) := by
  induction items with
  | nil => exact drain_of_end _ rfl
  | cons item rest ih => rw [drain_of_item ofList (c := item :: rest) rfl, ih]

/-- Two tables whose names run together are the same text. -/
def rivals : List Table := [("ab", "c"), ("a", "bc")].map fun (schema, name) =>
  ⟨⟨schema, name⟩, [{ name := "x", dataType := "INT" }], .empty⟩

/-- The one of the lesser schema comes first, whichever is emitted first. -/
theorem stopped_and_collected_rivals :
    (ofList.collectTables (rivals.reverse.map .ok) ()).1 =
        (ofList.collectTables (rivals.map .ok) ()).1 ∧
      (ofList.collectTables (rivals.map .ok) ()).1 = .ok rivals.reverse := by
  obtain ⟨-, -, -, -, -, hsame⟩ :=
    stopped_and_collected (ofList (α := Table)) [] () ofList (rivals.map .ok) ()
  refine ⟨hsame ofList _ () rivals rivals.reverse ?_ ?_ (List.reverse_perm rivals).symm ?_, ?_⟩
  · rw [drain_ofList]
  · rw [drain_ofList]
  · decide
  · cbv

end ItemStream

end SchemaCatalog
