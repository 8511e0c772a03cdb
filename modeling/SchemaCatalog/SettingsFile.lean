import SchemaCatalog.Error
import SchemaCatalog.Host
import SchemaCatalog.Settings
import SchemaCatalog.Text.Utf8
import SchemaCatalog.Toml.Document
/-!
# Settings in a file

Settings are kept in a TOML document with a table for the connection, which must be there, and one
for the options. What is missing has its usual value, and what is not known is passed over. A table
may also be given as the list of its values in their order.
-/

namespace SchemaCatalog.SettingsFile

open Toml (Node Members)

/-- The name under which a date stands where a table is wanted: as the only member. -/
def dateName : String := "$__toml_private_datetime"

/-- The text that the value is. -/
def text? : Node → Option String
  | .string s => some s
  | _ => none

/-- The truth value that the value is. -/
def boolean? : Node → Option Bool
  | .boolean b => some b
  | _ => none

/-- The number of a port that the value is. -/
def port? : Node → Option UInt16
  | .integer n => if 0 ≤ n && n ≤ 65535 then some (UInt16.ofNat n.toNat) else none
  | _ => none

/-- The list that the value is. -/
def items? : Node → Option (List Node)
  | .array items => some items
  | .tables elements => some (elements.map (.table .headed))
  | _ => none

/-- The members that the value has. -/
def members? : Node → Option Members
  | .table _ ms => some ms
  | .datetime text => some [(dateName, .string text)]
  | _ => none

/-- The members of a value that is a table, or the list of the values of the named members. -/
def record? (names : List String) (v : Node) : Option Members :=
  members? v <|> (items? v).map fun items => names.zip items

/-- What a member is, or the usual value if it is missing. -/
def memberOr {α : Type} (ms : Members) (name : String) (usual : α) (read : Node → Option α) :
    Option α :=
  match ms.find? name with
  | some v => read v
  | none => some usual

/-- The texts that the members are, by name. -/
def texts? (v : Node) : Option (Lookup String String) := do
  let pairs ← (← members? v).mapM fun (name, member) => (text? member).map (name, ·)
  pure (Lookup.ofList pairs)

/-- The connection that the value describes. -/
def connection? (v : Node) : Option ConnectionSettings := do
  let ms ← record? ["driver", "host", "port", "database", "username", "password", "params"] v
  let driver ← memberOr ms "driver" "" text?
  let host ← memberOr ms "host" "" text?
  let port ← memberOr ms "port" 0 port?
  let database? ← memberOr ms "database" none fun v => some <$> text? v
  let username? ← memberOr ms "username" none fun v => some <$> text? v
  let password? ← memberOr ms "password" none fun v => some <$> text? v
  let params ← memberOr ms "params" Lookup.empty texts?
  pure { driver, host, port, database?, username?, password?, params }

/-- The options that the value describes. -/
def options? (v : Node) : Option ExtractOptions := do
  let ms ← record? ["schemas", "concurrency_column"] v
  let schemas ← memberOr ms "schemas" [] fun v => do (← items? v).mapM text?
  let concurrencyColumn ← memberOr ms "concurrency_column" false boolean?
  pure { schemas, concurrencyColumn }

/-- The settings of a document. -/
def settings? (document : Members) : Option Settings := do
  let connection ← connection? (← document.find? "connection")
  let extract ← memberOr document "extract" {} options?
  pure { connection, extract }

/-- The settings that a text describes. -/
def read (text : String) : Except Error Settings :=
  match Toml.document? text with
  | none => .error (.configuration "the text is not a TOML document")
  | some document =>
    match settings? document with
    | none => .error (.configuration "the document does not describe a connection")
    | some settings => .ok settings

/-- The settings in the file of the given path, where `content` is what reading it gave: its bytes,
or why there are none. -/
def load (path : String) (content : Except FileFault (List UInt8)) : Except Error Settings :=
  let unreadable (reason : String) : Error := .configuration s!"failed to read {path}: {reason}"
  match content with
  | .error fault => .error (unreadable fault.message)
  | .ok bytes =>
    match Text.Utf8.decode bytes with
    | .error _ => .error (unreadable "stream did not contain valid UTF-8")
    | .ok text => read text

end SchemaCatalog.SettingsFile
