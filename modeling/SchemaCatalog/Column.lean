import SchemaCatalog.Text.Case
import SchemaCatalog.Text.Word
/-!
# Columns

A column of a table as the model describes it, and the rules that every column read from a catalog
goes through before it enters a table. Engines spell types in many ways; the model keeps one
spelling: upper case, no blanks at the ends, and the declared length in parentheses if there is one.
-/

namespace SchemaCatalog

/-- The model's spelling of a type that the engine calls `name`. -/
def typeName (name : String) (length? : Option Int64) : String :=
  let bare := Text.upper (Text.trim name)
  match length? with
  | some length => s!"{bare}({length.toInt})"
  | none => bare

/-- One column of a table. -/
structure Column where
  /-- The name exactly as the catalog spells it. -/
  name : String
  /-- The type in upper case, with the declared length in parentheses if there is one. -/
  dataType : String
  nullable : Bool := true
  /-- The default expression as the catalog gives it. -/
  default? : Option String := none
  /-- The position in the primary key, counted from zero. -/
  keyOrdinal? : Option UInt64 := none
  /-- The engine computes the value. -/
  isComputed : Bool := false
  /-- The engine fills in the value of a new row. -/
  isIdentity : Bool := false
  /-- The engine changes the value whenever the row is written. -/
  isConcurrencyToken : Bool := false
deriving DecidableEq, Repr

namespace Column

/-- The column belongs to the primary key. -/
def isPrimaryKey (c : Column) : Bool :=
  c.keyOrdinal?.isSome

/-- A statement that inserts a row may give the column a value. -/
def isInsertable (c : Column) : Bool :=
  !c.isComputed && !c.isIdentity

/-- A statement that updates a row may give the column a value. -/
def isUpdatable (c : Column) : Bool :=
  !c.isComputed && !c.isIdentity

/-- The column as the model keeps it: an identity column loses its default, and a concurrency token
counts as computed. -/
def normalized (c : Column) : Column :=
  { c with
    default? := if c.isIdentity then none else c.default?
    isComputed := c.isComputed || c.isConcurrencyToken }

/-- The column at the given position of the primary key. -/
def withKeyOrdinal (c : Column) (ordinal : UInt64) : Column :=
  { c with keyOrdinal? := some ordinal }

end Column

end SchemaCatalog
