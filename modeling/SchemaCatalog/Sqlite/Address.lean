import SchemaCatalog.Text.Hex
import SchemaCatalog.Text.Utf8
/-!
# Addresses of databases

A `file:` address has a path and options. Bytes may be written as a percent sign and two hexadecimal
digits; the byte zero ends the part in which it stands. The options decide how the database is
accessed, and the address is refused if they are wrong.
-/

namespace SchemaCatalog.Sqlite

/-- How a database is accessed. -/
inductive Access where
  | read
  | write
  /-- Written, and created if it is not there. -/
  | create
  /-- Kept in memory. -/
  | memory
deriving DecidableEq, Repr

/-- Why an address is refused. -/
inductive AddressFault where
  | authority (name : String)
  | unknownMode (kind value : String)
  | forbiddenMode (value : String)
  | unknownSystem (name : String)
deriving DecidableEq, Repr

/-- The fault in words. -/
def AddressFault.message : AddressFault → String
  | authority name => s!"invalid uri authority: {name}"
  | unknownMode kind value => s!"no such {kind} mode: {value}"
  | forbiddenMode value => s!"access mode not allowed: {value}"
  | unknownSystem name => s!"no such vfs: {name}"

namespace Access

/-- The access that an option names. -/
def ofText? (text : String) : Option Access :=
  if text = "ro" then some read
  else if text = "rw" then some write
  else if text = "rwc" then some create
  else if text = "memory" then some memory
  else none

/-- An access may be exchanged for one that can do no more. In memory everything can be done, and
everyone may go there. -/
def allows : Access → Access → Bool
  | _, memory | memory, _ | create, _ | _, read | write, write => true
  | _, _ => false

end Access

/-- A path and options, both decoded. -/
structure Address where
  path : List UInt8
  options : List (List UInt8 × List UInt8)
deriving DecidableEq, Repr

namespace Address

/-- The bytes that a part of an address stands for. -/
def decodePart : List Char → List UInt8
  | [] => []
  | '%' :: a :: b :: rest =>
    match Text.Hex.decode? [a, b] with
    | some [byte] => if byte == 0 then [] else byte :: decodePart rest
    | _ => Text.Utf8.encodeChar '%' ++ decodePart (a :: b :: rest)
  | c :: rest => Text.Utf8.encodeChar c ++ decodePart rest

/-- The option that a part stands for: its name ends at an equals sign. One without a name is none. -/
def option? (part : List Char) : Option (List UInt8 × List UInt8) :=
  let name := part.takeWhile (· != '=')
  match decodePart name with
  | [] => none
  | n => some (n, decodePart (part.drop (name.length + 1)))

/-- What comes after the authority, which may only be the machine itself. -/
def afterAuthority : List Char → Except AddressFault (List Char)
  | '/' :: '/' :: rest =>
    let authority := String.ofList (rest.takeWhile (· != '/'))
    if authority = "" || authority = "localhost" then .ok (rest.dropWhile (· != '/'))
    else .error (.authority authority)
  | rest => .ok rest

/-- Reads an address without the `file:` at its beginning. What follows a number sign does not count. -/
def ofChars (cs : List Char) : Except AddressFault Address := do
  let cs := (← afterAuthority cs).takeWhile (· != '#')
  let path := cs.takeWhile (· != '?')
  let parts := (cs.drop (path.length + 1)).splitOn '&'
  pure ⟨decodePart path, parts.filterMap option?⟩

/-- The value of the first option of that name. -/
def find? (a : Address) (name : String) : Option (List UInt8) :=
  a.options.lookup (Text.Utf8.encode name)

/-- The access after an option. -/
def accessAfter (access : Access) (name value : List UInt8) : Except AddressFault Access :=
  let text := Text.Utf8.decodeLossy value
  if name == Text.Utf8.encode "mode" then
    match Access.ofText? text with
    | none => .error (.unknownMode "access" text)
    | some wanted => if access.allows wanted then .ok wanted else .error (.forbiddenMode text)
  else if name == Text.Utf8.encode "cache" then
    if text = "shared" || text = "private" then .ok access else .error (.unknownMode "cache" text)
  else .ok access

/-- The access after all options. -/
def access (a : Address) (start : Access) : Except AddressFault Access :=
  a.options.foldlM (fun access (name, value) => accessAfter access name value) start

/-- The systems that can hold files. -/
def systems : List String := ["unix", "unix-none", "unix-dotfile", "unix-excl", "memdb"]

/-- The system that holds the file: the one that is named last. -/
def system (a : Address) : Except AddressFault String :=
  match a.options.reverse.lookup (Text.Utf8.encode "vfs") with
  | none => .ok "unix"
  | some value =>
    let name := Text.Utf8.decodeLossy value
    if systems.contains name then .ok name else .error (.unknownSystem name)

end Address

end SchemaCatalog.Sqlite
