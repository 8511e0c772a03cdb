import SchemaCatalog.Lookup
import SchemaCatalog.Text.Case
/-!
# Settings

What is configured: the connection to a database and what to extract from it. A connection has a
few fields of its own and any number of named parameters; asked for by name, a parameter comes
before a field.
-/

namespace SchemaCatalog

/-- How to reach a database. -/
structure ConnectionSettings where
  /-- The identifier of the engine. -/
  driver : String := ""
  /-- Empty for a database in a file. -/
  host : String := ""
  /-- Zero for the engine's own port. -/
  port : UInt16 := 0
  /-- The name of the database, or the path of its file. -/
  database? : Option String := none
  username? : Option String := none
  password? : Option String := none
  params : Lookup String String := Lookup.empty

namespace ConnectionSettings

/-- A SQLite database in a file. -/
def ofFile (path : String) : ConnectionSettings :=
  { driver := "sqlite", database? := some path }

/-- A database of a server. -/
def ofServer (driver host : String) (port : UInt16) (database username : String) :
    ConnectionSettings :=
  { driver, host, port, database? := some database, username? := some username }

/-- The settings with one more parameter, in place of an earlier one of the same name. -/
def withParam (s : ConnectionSettings) (name value : String) : ConnectionSettings :=
  { s with params := s.params.insert name value }

/-- The field of that name. -/
def field? (s : ConnectionSettings) (name : String) : Option String :=
  if name = "host" then (if s.host.isEmpty then none else some s.host)
  else if name = "database" || name = "path" then s.database?
  else if name = "username" || name = "user" then s.username?
  else if name = "password" then s.password?
  else none

/-- The parameter of that name, or else the field. -/
def string? (s : ConnectionSettings) (name : String) : Option String :=
  s.params.find? name <|> s.field? name

/-- The text says yes. -/
def isAffirmative (value : String) : Bool :=
  ["true", "1", "yes"].any fun word => Text.eqIgnoringCase value.toList word.toList

/-- The parameter of that name is set and says yes. -/
def flag (s : ConnectionSettings) (name : String) : Bool :=
  (s.params.find? name).any isAffirmative

/-- The port, or the given one if there is none. -/
def portOr (s : ConnectionSettings) (default : UInt16) : UInt16 :=
  if s.port = 0 then default else s.port

end ConnectionSettings

/-- What to extract. -/
structure ExtractOptions where
  /-- The schemas whose tables are wanted; all of them if the list is empty. -/
  schemas : List String := []
  /-- Tables are given the engine's row version as a column, where the engine has one. -/
  concurrencyColumn : Bool := false
deriving DecidableEq, Repr

/-- All that is configured. -/
structure Settings where
  connection : ConnectionSettings
  extract : ExtractOptions

end SchemaCatalog
