import SchemaCatalog.Cancellation
import SchemaCatalog.Engine
import SchemaCatalog.Postgres.Connection
import SchemaCatalog.SqlServer.Connection
import SchemaCatalog.Sqlite.Database
/-!
# From settings to tables

The settings name an engine, the engine is connected, and its tables are extracted. Connecting stops
where a server would have to be reached: this library has no network of its own.
-/

namespace SchemaCatalog

/-- A source that was connected. It does not look at the token of the run. -/
abbrev Connected := RowSource (Token × Unit) (List (Except Error Row))

/-- The error for a server, which is out of reach. -/
def outOfReach (e : Engine) (host : String) (port : UInt16) : Error :=
  .notSupported s!"connecting to {e.displayName} at {host}:{port.toNat}"

namespace Engine

/-- Connects as the settings say. -/
def connect (h : Host) (s : ConnectionSettings) : Engine → Except Error Connected
  | postgres => do
    let target ← (Postgres.target h s).mapError (·.toError)
    throw (outOfReach postgres target.host target.port)
  | sqlServer => do
    let target ← (SqlServer.target s).mapError (·.toError)
    throw (outOfReach sqlServer target.host target.port)
  | sqlite => do
    match s.string? "path" with
    | some path => Sqlite.openDatabase h path (s.flag "read_only")
    | none => throw (.configuration
        "SQLite requires 'path' or 'database'. Example: database = \"/path/to/app.db\"")

end Engine

/-- The files that connecting may look at. -/
def ConnectionSettings.files (h : Host) (s : ConnectionSettings) : List String :=
  (s.string? "sslrootcert").toList ++
    (s.string? "path").toList.flatMap (Sqlite.filesAt h)

/-- The engines that may be asked for, in the order of their identifiers. -/
structure Registry where
  engines : List Engine

namespace Registry

/-- All engines. -/
def full : Registry := ⟨Engine.all⟩

/-- No engines. -/
def empty : Registry := ⟨[]⟩

/-- The engine of that identifier is registered. -/
def has (r : Registry) (id : String) : Bool :=
  (Engine.ofId? r.engines id).isSome

/-- The engine that the settings name. -/
def engineFor (r : Registry) (s : ConnectionSettings) : Except Error Engine :=
  match Engine.ofId? r.engines s.driver with
  | some e => .ok e
  | none =>
    let available := ", ".intercalate (r.engines.map Engine.id)
    .error (.configuration s!"unknown driver '{s.driver}' (available: {available})")

/-- The tables of the database that the settings name, in the order of their names. The run stops
between rows once the token is cancelled. -/
def extract (r : Registry) (h : Host) (token : Token) (s : ConnectionSettings)
    (options : ExtractOptions) : Except Error (List Table) := do
  let engine ← r.engineFor s
  let source ← engine.connect h s
  ((engine.tables options engine.naming).collect source.cancellable (token, ())).1

end Registry

end SchemaCatalog
