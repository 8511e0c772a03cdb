import SchemaCatalog.RowSource
import SchemaCatalog.Table
/-!
# Streams of tables

An extraction opens with one query and then has one query for each table. Its items are the tables
in that order, and it ends after the first error. Tables that are collected are put in the order of
their names.
-/

namespace SchemaCatalog

/-- What is asked to find the tables, and then what is asked for each table. -/
abbrev TableStream := Query (List (Query Table))

namespace TableStream

variable {σ κ : Type}

/-- The tables of the given queries, each of them asked when its table is pulled. -/
def tables (source : RowSource σ κ) : ItemStream σ (List (Query Table)) Table where
  next
    | [], s => (none, [], s)
    | q :: rest, s =>
      match q.run source s with
      | (item, s') => (some item, rest, s')
  left := List.length
  left_next := by
    intro c c' s s' item h
    cases c with
    | nil => simp at h
    | cons q rest =>
      simp only [Prod.mk.injEq] at h
      simp [← h.2.1]

/-- All items of the extraction. -/
def drain (source : RowSource σ κ) (t : TableStream) (s : σ) : List (Except Error Table) × σ :=
  match t.run source s with
  | (.error e, s) => ([.error e], s)
  | (.ok queries, s) => (tables source).stopAfterError.drain (queries, false) s

/-- Tables in the order of their names; of tables of one name the earlier comes first. -/
def sortByName (ts : List Table) : List Table :=
  ts.mergeSort fun a b => (compare a.name b.name).isLE

/-- The tables of the extraction in the order of their names, or the first error. -/
def collect (source : RowSource σ κ) (t : TableStream) (s : σ) : Except Error (List Table) × σ :=
  match t.run source s with
  | (.error e, s) => (.error e, s)
  | (.ok queries, s) =>
    let (found, s) := (tables source).stopAfterError.collect (queries, false) s
    (found.map sortByName, s)

end TableStream

end SchemaCatalog
