import SchemaCatalog.Error
import SchemaCatalog.Settings
/-!
# Connections to SQL Server

Where and as whom to connect, and what can go wrong with a connection.
-/

namespace SchemaCatalog.SqlServer

/-- What can go wrong with a connection to SQL Server. -/
inductive Fault where
  | connectionFailed (text : String)
  | authenticationFailed (text : String)
  | queryFailed (text : String)
  | typeConversion (text : String)
  /-- A value of the wire protocol does not convert. -/
  | wireConversion (text : String)
  | io (text : String)
deriving DecidableEq, Repr

namespace Fault

/-- The fault in words. -/
def message : Fault → String
  | connectionFailed text => s!"Connection failed: {text}"
  | authenticationFailed text => s!"Authentication failed: {text}"
  | queryFailed text => s!"Query execution failed: {text}"
  | typeConversion text => s!"Type conversion error: {text}"
  | wireConversion text => s!"Tiberius error: Conversion error: {text}"
  | io text => s!"IO error: {text}"

/-- The fault as an error: of the connection, of a query, or of the conversion of values. -/
def toError (f : Fault) : Error :=
  match f with
  | connectionFailed _ | authenticationFailed _ | io _ => .connection f.message
  | queryFailed _ | wireConversion _ => .query f.message
  | typeConversion _ => .driver f.message

end Fault

/-- Where and as whom to connect. -/
structure Target where
  host : String
  port : UInt16
  database? : Option String
  username : String
  password : String
  /-- Any certificate of the server will do. -/
  trustsCertificate : Bool

/-- What the settings say. The server only lets in users with a name. -/
def target (s : ConnectionSettings) : Except Fault Target :=
  match s.string? "username" with
  | none =>
    .error (.authenticationFailed "a username is required for SQL Server authentication")
  | some username => .ok {
      host := (s.string? "host").getD "localhost"
      port := s.portOr 1433
      database? := s.string? "database"
      username
      password := (s.string? "password").getD ""
      trustsCertificate := s.flag "trust_cert" }

end SchemaCatalog.SqlServer
