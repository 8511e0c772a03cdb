import SchemaCatalog.Postgres.Extraction
import SchemaCatalog.Sqlite.Extraction
import SchemaCatalog.SqlServer.Extraction
/-!
# Engines

The database engines whose catalogs can be read. Each has a short name by which it is chosen, a name
for people, and its ways to spell parameters and to find tables.
-/

namespace SchemaCatalog

/-- A database engine. -/
inductive Engine where
  | postgres
  | sqlServer
  | sqlite
deriving DecidableEq, Repr

namespace Engine

/-- The name by which the engine is chosen. -/
def id : Engine → String
  | postgres => "postgres"
  | sqlServer => "mssql"
  | sqlite => "sqlite"

/-- The name of the engine in data. -/
def dataName : Engine → String
  | postgres => "postgres"
  | sqlServer => "sqlserver"
  | sqlite => "sqlite"

/-- The name of the engine for people. -/
def displayName : Engine → String
  | postgres => "PostgreSQL"
  | sqlServer => "SQL Server"
  | sqlite => "SQLite"

/-- The port on which a server listens unless told otherwise. -/
def defaultPort? : Engine → Option Nat
  | postgres => some 5432
  | sqlServer => some 1433
  | sqlite => none

/-- The engine's spelling of parameters. -/
def naming : Engine → Naming
  | postgres => .postgres
  | sqlServer => .sqlServer
  | sqlite => .sqlite

/-- The tables that the options ask for. -/
def tables : Engine → ExtractOptions → Naming → TableStream
  | postgres => Postgres.tables
  | sqlServer => SqlServer.tables
  | sqlite => Sqlite.tables

/-- All engines in the order of their identifiers. -/
def all : List Engine := [sqlServer, postgres, sqlite]

/-- The first of the engines that has this identifier. -/
def ofId? (engines : List Engine) (id : String) : Option Engine :=
  engines.find? (·.id == id)

/-- The engine that data call by this name. -/
def ofDataName? (name : String) : Option Engine :=
  all.find? (·.dataName == name)

end Engine

end SchemaCatalog
