import SchemaCatalog.Lookup
import SchemaCatalog.Table
/-!
# Tables from catalog rows

What a catalog tells about one table comes in pieces: its columns, the positions of the key
columns, and one row for each pair of columns of a foreign key. `Table.assemble` puts the pieces
together. Rows that carry the name of the same constraint form one foreign key, and foreign keys
are taken in the order of these names.
-/

namespace SchemaCatalog

/-- One pair of columns of a foreign key as the catalog reports it. -/
structure ReferenceRow where
  /-- The name of the constraint that the pair belongs to. -/
  constraint : String
  /-- The position of the pair in the constraint, counted from zero. -/
  ordinal : UInt64
  foreignColumn : String
  parent : TableName
  primaryColumn : String
deriving DecidableEq, Repr

namespace ReferenceRow

/-- The pair of columns. -/
def pair (r : ReferenceRow) : ColumnPair :=
  ⟨r.foreignColumn, r.primaryColumn⟩

/-- The rows of one constraint in the order of their positions. -/
def ofConstraint (constraint : String) (rows : List ReferenceRow) : List ReferenceRow :=
  (rows.filter fun r => r.constraint = constraint).mergeSort fun a b => a.ordinal ≤ b.ordinal

/-- The names of the constraints. -/
def constraints (rows : List ReferenceRow) : SortedSet String :=
  SortedSet.ofList (rows.map (·.constraint))

end ReferenceRow

namespace ForeignKey

/-- The foreign key of a table that the rows of one constraint describe. All of them must refer to
the parent that the first one refers to. -/
def ofRows (table : TableName) (constraint : String) : List ReferenceRow → Except Error ForeignKey
  | [] => .error (.inconsistent (.emptyForeignKey default))
  | first :: rest =>
    match rest.find? fun r => r.parent ≠ first.parent with
    | some stray => .error (.inTable table (.mixedParents constraint first.parent stray.parent))
    | none => ofPairs first.parent ((first :: rest).map (·.pair))

/-- The foreign keys that the rows of a table describe, in the order of the constraints' names. -/
def grouped (table : TableName) (rows : List ReferenceRow) : Except Error (List ForeignKey) :=
  (ReferenceRow.constraints rows).toList.mapM fun constraint =>
    ofRows table constraint (ReferenceRow.ofConstraint constraint rows)

end ForeignKey

/-- The key positions of a table's columns, by their names. -/
abbrev KeyOrdinals := Lookup String UInt64

namespace Table

/-- The columns with a key position given to the first one of that name. -/
def markKey? (name : String) (ordinal : UInt64) : List Column → Option (List Column)
  | [] => none
  | c :: rest =>
    if c.name = name then some (c.withKeyOrdinal ordinal :: rest)
    else (markKey? name ordinal rest).map (c :: ·)

/-- The columns with all key positions given. Each of them must belong to a column. -/
def markKeys (table : TableName) (columns : List Column) (key : KeyOrdinals) :
    Except Error (List Column) :=
  key.entries.foldlM (fun columns (name, ordinal) =>
    match markKey? name ordinal columns with
    | some marked => .ok marked
    | none => .error (.inTable table (.keyColumnMissing name))) columns

/-- The table that the catalog's columns, key positions and foreign key rows describe. -/
def assemble (name : TableName) (columns : List Column) (key : KeyOrdinals)
    (rows : List ReferenceRow) : Except Error Table := do
  if columns.isEmpty then throw (.inTable name .noColumns)
  let marked ← markKeys name (columns.map Column.normalized) key
  let foreignKeys ← ForeignKey.grouped name rows
  ofColumns name marked foreignKeys

end Table

end SchemaCatalog
