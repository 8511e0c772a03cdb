import SchemaCatalog.Error
import SchemaCatalog.SortedSet
/-!
# Foreign keys

A foreign key pairs columns of its table with columns of a parent table. The pairs form a set, so
neither their order nor a repetition counts, and there is at least one of them.
-/

namespace SchemaCatalog

/-- A column of the referring table and the column of the parent that it refers to. -/
structure ColumnPair where
  foreign : String
  primary : String
deriving DecidableEq, Repr

namespace ColumnPair

/-- Pairs are ordered by the referring column, then by the parent's. -/
instance : Ord ColumnPair := ⟨compareLex (compareOn foreign) (compareOn primary)⟩

instance : Std.TransOrd ColumnPair :=
  inferInstanceAs (Std.TransCmp (compareLex (compareOn foreign) (compareOn primary)))

instance : Std.LawfulEqOrd ColumnPair where
  eq_of_compare {s t} h := by
    have h : compareLex (compareOn foreign) (compareOn primary) s t = .eq := h
    simp only [compareLex, compareOn, Ordering.then_eq_eq] at h
    have hf := Std.LawfulEqOrd.eq_of_compare h.1
    have hp := Std.LawfulEqOrd.eq_of_compare h.2
    cases s; cases t; simp_all

end ColumnPair

/-- One foreign key, of one column or several. -/
structure ForeignKey where
  /-- The table referred to. -/
  parent : TableName
  pairs : SortedSet ColumnPair
deriving DecidableEq

namespace ForeignKey

/-- Foreign keys are ordered by parent, then by their pairs. -/
instance : Ord ForeignKey := ⟨compareLex (compareOn parent) (compareOn pairs)⟩

instance : Std.TransOrd ForeignKey :=
  inferInstanceAs (Std.TransCmp (compareLex (compareOn parent) (compareOn pairs)))

instance : Std.LawfulEqOrd ForeignKey where
  eq_of_compare {s t} h := by
    have h : compareLex (compareOn parent) (compareOn pairs) s t = .eq := h
    simp only [compareLex, compareOn, Ordering.then_eq_eq] at h
    have hp := Std.LawfulEqOrd.eq_of_compare h.1
    have hs := Std.LawfulEqOrd.eq_of_compare h.2
    cases s; cases t; simp_all

/-- The foreign key with the given pairs, of which there must be one. -/
def ofPairs (parent : TableName) (pairs : List ColumnPair) : Except Error ForeignKey :=
  if pairs.isEmpty then .error (.inconsistent (.emptyForeignKey parent))
  else .ok ⟨parent, SortedSet.ofList pairs⟩

/-- The key has more than one pair. -/
def isComposite (k : ForeignKey) : Bool :=
  k.pairs.size > 1

/-- The referring columns in the order of the pairs. -/
def foreignColumns (k : ForeignKey) : List String :=
  k.pairs.toList.map (·.foreign)

/-- The names of the referring columns run together. -/
def sortKey (k : ForeignKey) : String :=
  String.join k.foreignColumns

end ForeignKey

end SchemaCatalog
