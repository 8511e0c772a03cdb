import SchemaCatalog.Column
import SchemaCatalog.ForeignKey
/-!
# Tables

A table has columns, listed by name, and a set of foreign keys. `Table.ofColumns` is the only way
to a table that checks it: there is a column, names differ, an identity column has no default, a
concurrency token is computed, the key positions are `0, 1, …`, and foreign keys start from columns
of the table. The checks come in this order and the first that fails is reported.
-/

namespace SchemaCatalog

/-- A table with its columns in the order of their names. -/
structure Table where
  name : TableName
  columns : List Column
  foreignKeys : SortedSet ForeignKey
deriving DecidableEq

namespace Table

/-- The columns in the order of their names. -/
def byName (columns : List Column) : List Column :=
  columns.mergeSort fun a b => a.name ≤ b.name

/-- The first name that two neighbouring columns share. -/
def repeatedName? : List Column → Option String
  | a :: b :: rest => if a.name = b.name then some a.name else repeatedName? (b :: rest)
  | _ => none

/-- What is wrong with a column taken by itself. -/
def columnFault? (c : Column) : Option TableFault :=
  if c.isIdentity && c.default?.isSome then some (.identityDefault c.name)
  else if c.isConcurrencyToken && !c.isComputed then some (.tokenNotComputed c.name)
  else none

/-- The key positions of the columns in increasing order. -/
def keyOrdinals (columns : List Column) : List UInt64 :=
  (columns.filterMap (·.keyOrdinal?)).mergeSort (· ≤ ·)

/-- The positions are the next ones after `start`, in order and without a gap. -/
def countsFrom (start : Nat) : List UInt64 → Bool
  | [] => true
  | n :: rest => n.toNat = start && countsFrom (start + 1) rest

/-- The first column that the foreign key starts from and that is not among the names. -/
def unknownColumn? (names : List String) (k : ForeignKey) : Option String :=
  k.foreignColumns.find? fun c => !names.contains c

/-- What is wrong with a table of these columns, listed by name, and foreign keys. -/
def fault? (columns : List Column) (foreignKeys : SortedSet ForeignKey) : Option TableFault :=
  if columns.isEmpty then some .noColumns
  else if let some name := repeatedName? columns then some (.duplicateColumn name)
  else if let some fault := columns.findSome? columnFault? then some fault
  else if !countsFrom 0 (keyOrdinals columns) then some (.keyOrdinals (keyOrdinals columns))
  else foreignKeys.toList.findSome? fun k =>
    (unknownColumn? (columns.map (·.name)) k).map (.unknownForeignColumn k.parent)

/-- The table of the given columns and foreign keys, in any order, if nothing is wrong with it. -/
def ofColumns (name : TableName) (columns : List Column) (foreignKeys : List ForeignKey) :
    Except Error Table :=
  let sorted := byName columns
  let keys := SortedSet.ofList foreignKeys
  match fault? sorted keys with
  | some fault => .error (.inTable name fault)
  | none => .ok ⟨name, sorted, keys⟩

/-- The position of the name among columns listed by name, between two bounds, found by halving. -/
def search (columns : Array Column) (name : String) (low high : Nat) : Option Column :=
  if _h : low < high then
    let mid := (low + high) / 2
    match columns[mid]? with
    | none => none
    | some c =>
      match compare c.name name with
      | .eq => some c
      | .lt => search columns name (mid + 1) high
      | .gt => search columns name low mid
  else none
termination_by high - low

/-- The column of that name. -/
def column? (t : Table) (name : String) : Option Column :=
  search t.columns.toArray name 0 t.columns.length

/-- The columns of the primary key in key order. -/
def primaryKey (t : Table) : List Column :=
  (t.columns.filter (·.isPrimaryKey)).mergeSort fun a b =>
    a.keyOrdinal?.getD 0 ≤ b.keyOrdinal?.getD 0

/-- The foreign keys ordered by the names of their columns run together; where these agree, by the
order of foreign keys. -/
def sortedForeignKeys (t : Table) : List ForeignKey :=
  t.foreignKeys.toList.mergeSort fun a b => a.sortKey ≤ b.sortKey

/-- The table with one more column, if nothing is wrong with that. -/
def withColumn (t : Table) (c : Column) : Except Error Table :=
  ofColumns t.name (t.columns ++ [c]) t.foreignKeys.toList

end Table

end SchemaCatalog
