import SchemaCatalog.Host
import SchemaCatalog.RowSource
import SchemaCatalog.Sqlite.Address
/-!
# SQLite databases

A database is in memory or in a file. This library opens the former, which begins empty, and files
that are created; any other file is reported as one that cannot be opened.
-/

namespace SchemaCatalog.Sqlite

/-- An empty database, in which every statement of an extraction finds nothing. -/
def emptyDatabase {σ : Type} : RowSource σ (List (Except Error Row)) where
  driverName := "sqlite"
  start _ s := (.ok [], s)
  answers := .ofList

/-- The path as it is opened: a leading `~/` is the user's directory, and a path that does not lead
from the root leads from the working directory. A `file:` address is left as it is. -/
def resolve (host : Host) (path : String) : Except Error String :=
  if path.startsWith "file:" then .ok path
  else if path.startsWith "~/" then
    .ok (Host.join host.workingDirectory
      (Host.join host.home (String.ofList (path.toList.drop 2))))
  else if path.startsWith "~" then
    .error (.configuration "User-specific home directories (~user) are not supported")
  else .ok (Host.join host.workingDirectory path)

/-- The address of a path. Only that of a `file:` address is read as one. -/
def addressOf (path : String) : Except AddressFault Address :=
  if path.startsWith "file:" then Address.ofChars (path.toList.drop 5)
  else .ok ⟨Text.Utf8.encode path, []⟩

/-- The place of the file. -/
def placeOf (host : Host) (a : Address) : String :=
  host.place (Text.Utf8.decodeLossy a.path)

/-- The file whose owner the new file is to have. -/
def modelFile? (a : Address) : Option String :=
  (a.find? "modeof").map Text.Utf8.decodeLossy

/-- The database is in memory, or in a file that has no name and is gone when it is closed. -/
def isEphemeral (a : Address) (access : Access) (system : String) : Bool :=
  access == .memory || system == "memdb" ||
    [[], Text.Utf8.encode ":memory:"].contains a.path

/-- Why the file cannot be opened, if it cannot. A directory can be opened as long as nothing is
written, and then fails to be read; the root is refused at once. -/
def openFault? (host : Host) (path : String) (access : Access) (a : Address) : Option String :=
  let place := placeOf host a
  let refused := some s!"unable to open database file: {path}"
  if place = "/" then refused
  else if (modelFile? a).any host.isMissing then some "disk I/O error"
  else match access with
    | .read => if host.isDirectory place then some "disk I/O error" else refused
    | .create =>
      if host.isMissing place && host.isDirectory (Host.parent place) then none else refused
    | _ => refused

/-- Why the database cannot be opened, if it cannot. -/
def fault? (host : Host) (path : String) (start : Access) : Option String :=
  if path.toList.contains '\x00' then
    let index := ((Text.Utf8.encode path).takeWhile (· != 0)).length
    some s!"nul byte found in provided data at position: {index}"
  else
    let found := do
      let a ← addressOf path
      let access ← a.access start
      let system ← a.system
      pure (if isEphemeral a access system then none else openFault? host path access a)
    match found with
    | .ok fault? => fault?
    | .error fault => some fault.message

/-- The files that opening the database of that path looks at. -/
def filesAt (host : Host) (path : String) : List String :=
  match (resolve host path).toOption.bind fun path => (addressOf path).toOption with
  | some a => [placeOf host a, Host.parent (placeOf host a)] ++ (modelFile? a).toList
  | none => []

/-- Opens the database of that path. -/
def openDatabase {σ : Type} (host : Host) (path : String) (readOnly : Bool) :
    Except Error (RowSource σ (List (Except Error Row))) :=
  if path = ":memory:" then .ok emptyDatabase
  else do
    let resolved ← resolve host path
    match fault? host resolved (if readOnly then .read else .write) with
    | none => pure emptyDatabase
    | some fault =>
      throw (.connection s!"Failed to open SQLite database at '{resolved}': {fault}")

end SchemaCatalog.Sqlite
