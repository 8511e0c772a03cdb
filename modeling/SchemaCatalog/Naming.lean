/-!
# Names of parameters

Every engine spells the parameters of a statement in its own way: what stands in the text of the
statement, and the name under which the value is bound. Parameters are numbered from zero.
-/

namespace SchemaCatalog

/-- How parameters are spelled. -/
structure Naming where
  /-- The name under which the value is bound. -/
  parameterName : UInt64 → String
  /-- What stands for the parameter in the statement. -/
  token : UInt64 → String

namespace Naming

/-- Names that are a sign and the position counted from one. -/
def counted (sign : String) : Naming where
  parameterName i := s!"{sign}{(i + 1).toNat}"
  token i := s!"{sign}{(i + 1).toNat}"

/-- `$1`, `$2`, … -/
def postgres : Naming := counted "$"

/-- `@P1`, `@P2`, … -/
def sqlServer : Naming := counted "@P"

/-- `:p0`, `:p1`, … for values bound as `p0`, `p1`, … -/
def sqlite : Naming where
  parameterName i := s!"p{i.toNat}"
  token i := s!":p{i.toNat}"

/-- The parameters from `start` on, as many as asked for; none where their numbers would pass the
last one of sixty-four bits. -/
def indices (start count : UInt64) : List UInt64 :=
  if start + count < start then []
  else (List.range count.toNat).map fun i => start + UInt64.ofNat i

/-- The parameters from `start` on as a list in a statement. -/
def placeholders (naming : Naming) (start count : UInt64) : String :=
  ", ".intercalate ((indices start count).map naming.token)

end Naming

end SchemaCatalog
