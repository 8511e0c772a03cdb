import SchemaCatalog.TableName
/-!
# What can go wrong

Each cause of failure is a constructor with the data it is about; the wording is given once, by
`message`. A catalog that contradicts itself or the model is an `Inconsistency`, most of them a
`TableFault` of one table.
-/

namespace SchemaCatalog

/-- What keeps a table out of the model. -/
inductive TableFault where
  /-- A fault told in words. -/
  | told (text : String)
  | noColumns
  | duplicateColumn (name : String)
  /-- An identity column is filled by the engine, so it has no default. -/
  | identityDefault (name : String)
  /-- A concurrency token is written by the engine, so it is computed. -/
  | tokenNotComputed (name : String)
  /-- The key positions that occur, in increasing order, are not `0, 1, …`. -/
  | keyOrdinals (ordinals : List UInt64)
  /-- A foreign key starts from a column that the table does not have. -/
  | unknownForeignColumn (parent : TableName) (column : String)
  /-- The primary key names a column that the table does not have. -/
  | keyColumnMissing (name : String)
  /-- The rows of one constraint refer to different tables. -/
  | mixedParents (constraint : String) (first stray : TableName)
  /-- The declared type calls a column generated and the engine does not. -/
  | strayMarker (column : String) (hidden : Int64)
  /-- A reference without a column finds no key column of the parent at its position. -/
  | noImplicitParent (parent : String) (position : Int64)
deriving DecidableEq, Repr

/-- A list of numbers in brackets. -/
def bracketed (ns : List UInt64) : String :=
  "[" ++ ", ".intercalate (ns.map fun n => toString n.toNat) ++ "]"

/-- The fault in words. -/
def TableFault.message : TableFault → String
  | .told text => text
  | .noColumns => "table has no columns"
  | .duplicateColumn name => s!"duplicate column {name}"
  | .identityDefault name => s!"identity column {name} carries a default"
  | .tokenNotComputed name => s!"concurrency token {name} is not computed"
  | .keyOrdinals ordinals =>
    s!"primary key ordinals {bracketed ordinals} are not contiguous from 0"
  | .unknownForeignColumn parent column =>
    s!"foreign key to {parent.text} uses unknown column {column}"
  | .keyColumnMissing name => s!"primary key column {name} not found"
  | .mixedParents constraint first stray =>
    s!"foreign key {constraint} references both {first.text} and {stray.text}"
  | .strayMarker column hidden =>
    s!"column {column} declares GENERATED ALWAYS but hidden = {hidden.toInt}"
  | .noImplicitParent parent position =>
    s!"foreign key to {parent} has no explicit column and the parent has no primary-key column at position {position.toInt}"

/-- A catalog state that the model cannot represent. -/
inductive Inconsistency where
  /-- An inconsistency told in words. -/
  | told (text : String)
  /-- A foreign key without a pair of columns. -/
  | emptyForeignKey (parent : TableName)
  /-- Catalogs count positions from one. -/
  | ordinalNotOneBased (query column : String) (ordinal : Int64)
  | inTable (table : TableName) (fault : TableFault)
deriving DecidableEq, Repr

/-- The inconsistency in words. -/
def Inconsistency.message : Inconsistency → String
  | .told text => text
  | .emptyForeignKey parent => s!"foreign key referencing {parent.text} has no column pairs"
  | .ordinalNotOneBased query column ordinal =>
    s!"{query}.{column}: ordinal {ordinal.toInt} is not one-based"
  | .inTable table fault => s!"{table.text}: {fault.message}"

/-- Why an operation on a catalog failed. -/
inductive Error where
  | connection (text : String)
  | query (text : String)
  | driver (text : String)
  /-- A catalog column holds a value of a kind that was not asked for. -/
  | typeMismatch (query column expected found : String)
  /-- A catalog query has no column of that name. -/
  | missingColumn (query column : String)
  | inconsistent (what : Inconsistency)
  | configuration (text : String)
  | io (text : String)
  | serialization (text : String)
  | notSupported (text : String)
  | cancelled
deriving DecidableEq, Repr

namespace Error

/-- An error about one table. -/
def inTable (table : TableName) (fault : TableFault) : Error :=
  .inconsistent (.inTable table fault)

/-- The error in words. -/
def message : Error → String
  | .connection text => s!"Connection error: {text}"
  | .query text => s!"Query error: {text}"
  | .driver text => s!"Driver error: {text}"
  | .typeMismatch name column expected found =>
    s!"Catalog type mismatch in {name}.{column}: expected {expected}, found {found}"
  | .missingColumn name column => s!"Catalog column {column} missing from {name} result"
  | .inconsistent what => s!"Catalog consistency violation: {what.message}"
  | .configuration text => s!"Configuration error: {text}"
  | .io text => s!"IO error: {text}"
  | .serialization text => s!"Serialization error: {text}"
  | .notSupported text => s!"Not supported: {text}"
  | .cancelled => "Cancelled"

/-- The catalog itself is at fault, not the way to it. -/
def isCatalogError : Error → Bool
  | .typeMismatch .. | .missingColumn .. | .inconsistent _ => true
  | _ => false

end Error

end SchemaCatalog
