/-!
# Names of tables

A table is known by its schema and its name within it. Names are compared exactly and ordered by
code point, the schema first.
-/

namespace SchemaCatalog

/-- A table's name together with its schema. -/
structure TableName where
  schema : String
  name : String
deriving DecidableEq, Repr, Inhabited

namespace TableName

/-- The name as it is written in messages. -/
def text (t : TableName) : String :=
  s!"{t.schema}.{t.name}"

/-- Names are ordered by schema, then by name. -/
instance : Ord TableName := ⟨compareLex (compareOn schema) (compareOn name)⟩

instance : Std.TransOrd TableName :=
  inferInstanceAs (Std.TransCmp (compareLex (compareOn schema) (compareOn name)))

instance : Std.LawfulEqOrd TableName where
  eq_of_compare {s t} h := by
    have h : compareLex (compareOn schema) (compareOn name) s t = .eq := h
    simp only [compareLex, compareOn, Ordering.then_eq_eq] at h
    have hs := Std.LawfulEqOrd.eq_of_compare h.1
    have hn := Std.LawfulEqOrd.eq_of_compare h.2
    cases s; cases t; simp_all

end TableName

end SchemaCatalog
