import SchemaCatalog.Error
import SchemaCatalog.Host
import SchemaCatalog.Settings
import SchemaCatalog.Text.Case
/-!
# Connections to PostgreSQL

Where and as whom to connect, how strictly the connection is to be protected, and the certificate of
an authority that is trusted besides the usual ones.
-/

namespace SchemaCatalog.Postgres

/-! ## Protection -/

/-- What can go wrong with the protection of a connection. -/
inductive TlsFault where
  | unsupportedMode (mode : String)
  | unreadableCertificate (path reason : String)
  | invalidCertificate (text : String)
  | misconfigured (text : String)
deriving DecidableEq, Repr

namespace TlsFault

/-- The fault in words. -/
def message : TlsFault → String
  | unsupportedMode mode =>
    s!"Unsupported sslmode '{mode}' (expected disable, prefer, require or verify-full)"
  | unreadableCertificate path reason => s!"Failed to load CA certificate from {path}: {reason}"
  | invalidCertificate text => s!"Invalid CA certificate format: {text}"
  | misconfigured text => s!"TLS configuration error: {text}"

/-- The fault as an error: of the settings if the mode is unknown, else of the connection. -/
def toError (f : TlsFault) : Error :=
  match f with
  | unsupportedMode _ => .configuration f.message
  | _ => .connection f.message

end TlsFault

/-- How strictly the server is asked for encryption. -/
inductive Encryption where
  | never
  | ifOffered
  | always
deriving DecidableEq, Repr

/-- How a connection is protected. -/
inductive SslMode where
  | disable
  | prefer
  /-- Encrypted, with any certificate of the server. -/
  | require
  /-- Encrypted, with the server's certificate and name checked. -/
  | verifyFull
deriving DecidableEq, Repr

namespace SslMode

/-- The mode that the text calls for, in any case of its letters. -/
def ofText (text : String) : Except TlsFault SslMode :=
  let mode := Text.lower text
  if mode = "disable" then .ok disable
  else if mode = "allow" || mode = "prefer" then .ok prefer
  else if mode = "require" then .ok require
  else if mode = "verify-full" || mode = "verify_full" then .ok verifyFull
  else .error (.unsupportedMode mode)

/-- What the mode asks of the server. -/
def encryption : SslMode → Encryption
  | disable => .never
  | prefer => .ifOffered
  | require => .always
  | verifyFull => .always

/-- The connection may come to be encrypted. -/
def usesTls (m : SslMode) : Bool :=
  m.encryption != .never

end SslMode

/-- The certificate of the trusted authority can be had, if one is named. -/
def checkCertificate (host : Host) (path? : Option String) : Except TlsFault Unit :=
  match path? with
  | none => .ok ()
  | some path =>
    if path.isEmpty then .ok ()
    else match host.readFault? path with
      | some fault => .error (.unreadableCertificate path fault.message)
      | none => .ok ()

/-! ## The target of a connection -/

/-- Where and as whom to connect. -/
structure Target where
  host : String
  port : UInt16
  database : String
  username? : Option String
  password? : Option String
  sslMode : SslMode

/-- What the settings say. The mode is settled first; the certificate of a trusted authority is only
looked for if the connection may be encrypted. -/
def target (h : Host) (s : ConnectionSettings) : Except TlsFault Target := do
  let sslMode ← match s.string? "sslmode" with
    | some text => SslMode.ofText text
    | none => pure .prefer
  if sslMode.usesTls then checkCertificate h (s.string? "sslrootcert")
  pure {
    host := (s.string? "host").getD "localhost"
    port := s.portOr 5432
    database := (s.string? "database").getD "postgres"
    username? := s.string? "username"
    password? := s.string? "password"
    sslMode }

end SchemaCatalog.Postgres
