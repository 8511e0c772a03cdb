import SchemaCatalog.Engine
import SchemaCatalog.Json.Record
import SchemaCatalog.Settings
/-!
# Settings in JSON

Engines, options and connection settings are written in full. When they are read, every member may
be missing and then has its usual value.
-/

namespace SchemaCatalog

namespace Engine

/-- The engine by its name in data. -/
def toJson (e : Engine) : Json := .string e.dataName

end Engine

namespace ExtractOptions

/-- The options as an object. -/
def toJson (o : ExtractOptions) : Json :=
  .object [
    ("schemas", .array (o.schemas.map .string)),
    ("concurrency_column", .bool o.concurrencyColumn)]

end ExtractOptions

namespace ConnectionSettings

/-- The settings as an object. -/
def toJson (s : ConnectionSettings) : Json :=
  .object [
    ("driver", .string s.driver),
    ("host", .string s.host),
    ("port", .int s.port.toNat),
    ("database", Json.ofOption .string s.database?),
    ("username", Json.ofOption .string s.username?),
    ("password", Json.ofOption .string s.password?),
    ("params", .object (s.params.entries.map fun (name, value) => (name, .string value)))]

end ConnectionSettings

namespace Json.Reader

/-- An engine: its name, or an object whose one member has that name and is null. -/
def engine : Reader Engine := do
  match ← peek with
  | some '{' =>
    char '{'
    let name ← string
    char ':'
    let e ← named name
    word "null"
    char '}'
    pure e
  | _ => named (← string)
where
  named (name : String) : Reader Engine :=
    match Engine.ofDataName? name with
    | some e => pure e
    | none => fail .malformed

/-- Options that were read, with the names of those that have been. -/
structure OptionsDraft where
  schemas : Option (List String) := none
  concurrencyColumn : Option Bool := none

namespace OptionsDraft

/-- The members of options in the order of the array form. -/
def members : List (Member OptionsDraft) := [
  (Member.place "schemas" (·.schemas) (fun d x => { d with schemas := some x })
    (array string)).trailing,
  (Member.place "concurrency_column" (·.concurrencyColumn)
    (fun d x => { d with concurrencyColumn := some x }) bool).trailing]

/-- The options with what was not read as usual. -/
def finish (d : OptionsDraft) : ExtractOptions where
  schemas := d.schemas.getD []
  concurrencyColumn := d.concurrencyColumn.getD false

end OptionsDraft

/-- Options of an extraction. -/
def options : Reader ExtractOptions :=
  record OptionsDraft.members {} fun d => .ok d.finish

/-- Named texts; a name that repeats has its last text. -/
def texts : Reader (Lookup String String) :=
  object (fun acc name => do
    char ':'
    let value ← string
    pure (acc.insert name value)) Lookup.empty

/-- The members of connection settings read so far. -/
structure ConnectionDraft where
  driver : Option String := none
  host : Option String := none
  port : Option UInt16 := none
  database? : Option (Option String) := none
  username? : Option (Option String) := none
  password? : Option (Option String) := none
  params : Option (Lookup String String) := none

namespace ConnectionDraft

/-- The number of a port. -/
def portNumber : Reader UInt16 := do
  let n ← int 0 65535
  pure (UInt16.ofNat n.toNat)

/-- The members of connection settings in the order of the array form. -/
def members : List (Member ConnectionDraft) :=
  [ Member.place "driver" (·.driver) (fun d x => { d with driver := some x }) string,
    .place "host" (·.host) (fun d x => { d with host := some x }) string,
    .place "port" (·.port) (fun d x => { d with port := some x }) portNumber,
    .place "database" (·.database?) (fun d x => { d with database? := some x }) (optional string),
    .place "username" (·.username?) (fun d x => { d with username? := some x }) (optional string),
    .place "password" (·.password?) (fun d x => { d with password? := some x }) (optional string),
    .place "params" (·.params) (fun d x => { d with params := some x }) texts ].map Member.trailing

/-- The settings with what was not read as usual. -/
def finish (d : ConnectionDraft) : ConnectionSettings where
  driver := d.driver.getD ""
  host := d.host.getD ""
  port := d.port.getD 0
  database? := d.database?.join
  username? := d.username?.join
  password? := d.password?.join
  params := d.params.getD Lookup.empty

end ConnectionDraft

/-- Connection settings. -/
def connection : Reader ConnectionSettings :=
  record ConnectionDraft.members {} fun d => .ok d.finish

end Json.Reader

end SchemaCatalog
