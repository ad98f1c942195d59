/-!
# Failures

Everything that can go wrong in a session or a fleet, as causes: `Failure.message` puts a failure
into words, `Failure.causes` lists what lies behind it, and two predicates say whether a failure
ends a session and whether trying again may help.
-/

namespace ProxyFleet

/-- What is wrong with the TLS settings or the files that they name. -/
inductive TlsFailure
  /-- TLS is on but no authority is configured. -/
  | noAuthority
  /-- There is a certificate without a key. -/
  | noKey
  /-- There is a key without a certificate. -/
  | noCertificate
  /-- The certificate of the authority cannot be read. -/
  | unreadableAuthority (path cause : String)
  /-- The certificate of the client cannot be read. -/
  | unreadableCertificate (path cause : String)
  /-- The private key of the client cannot be read. -/
  | unreadableKey (path cause : String)
  /-- A file has no PEM block. -/
  | notPem (path : String)
deriving DecidableEq, Repr

namespace TlsFailure

def message : TlsFailure → String
  | noAuthority => "TLS is enabled but CA certificate path is not configured"
  | noKey => "Client certificate is configured but private key path is not"
  | noCertificate => "Client private key is configured but certificate path is not"
  | unreadableAuthority path cause => "Failed to read CA certificate at " ++ path ++ ": " ++ cause
  | unreadableCertificate path cause => "Failed to read certificate at " ++ path ++ ": " ++ cause
  | unreadableKey path cause => "Failed to read private key at " ++ path ++ ": " ++ cause
  | notPem path => "File " ++ path ++ " does not contain a PEM block"

/-- What lies behind the failure. -/
def causes : TlsFailure → List String
  | unreadableAuthority _ cause => [cause]
  | unreadableCertificate _ cause => [cause]
  | unreadableKey _ cause => [cause]
  | _ => []

end TlsFailure

/-- A reason why an operation failed. -/
inductive Failure
  /-- The configuration cannot be read. -/
  | config (reason : String) (cause : Option String)
  /-- A value is outside its range, perhaps that of a named field. -/
  | validation (reason : String) (field : Option String)
  /-- No connection comes about. -/
  | dial (address reason : String) (cause : Option String)
  /-- A request cannot be sent. -/
  | send (typeUrl reason : String)
  /-- The stream of responses failed. -/
  | receive (reason : String) (cause : Option String)
  /-- The session is closed. -/
  | closed
  /-- A resource cannot be decoded. -/
  | decode (typeUrl reason : String)
  /-- The metadata of a node cannot be represented. -/
  | metadata (reason : String) (cause : Option String)
  /-- An operation took too long. -/
  | timeout (operation : String) (millis : Nat)
  /-- The TLS settings are wrong. -/
  | tls (failure : TlsFailure)
  /-- The system refused an operation. -/
  | io (activity cause : String)
deriving DecidableEq, Repr

namespace Failure

def message : Failure → String
  | config reason _ => "Configuration error: " ++ reason
  | validation reason _ => "Validation error: " ++ reason
  | dial address reason _ => "Failed to connect to " ++ address ++ ": " ++ reason
  | send typeUrl reason => "Failed to send " ++ typeUrl ++ " request: " ++ reason
  | receive reason _ => "Stream receive failed: " ++ reason
  | closed => "Session closed"
  | decode typeUrl reason => "Failed to decode " ++ typeUrl ++ " resource: " ++ reason
  | metadata reason _ => "Invalid node metadata: " ++ reason
  | timeout operation millis =>
    "Operation timed out: " ++ operation ++ " after " ++ toString millis ++ "ms"
  | tls failure => failure.message
  | io activity _ => "I/O error: " ++ activity

/-- What lies behind the failure, nearest first. -/
def causes : Failure → List String
  | config _ cause => cause.toList
  | dial _ _ cause => cause.toList
  | receive _ cause => cause.toList
  | metadata _ cause => cause.toList
  | tls failure => failure.causes
  | io _ cause => [cause]
  | _ => []

/-- The field whose value is refused. -/
def field? : Failure → Option String
  | validation _ field => field
  | _ => none

def isTerminal : Failure → Bool
  | receive .. => true
  | closed => true
  | _ => false

/-- Whether a new attempt may succeed. -/
def isRetryable : Failure → Bool
  | dial .. => true
  | receive .. => true
  | closed => true
  | timeout .. => true
  | io .. => true
  | _ => false

/-! ## Failures that come from elsewhere -/

/-- A failed operation of the system of which no more is known. -/
def ofSystem (cause : String) : Failure := .io "I/O operation failed" cause

/-- Metadata that cannot be written as a document. -/
def ofUnwritable (cause : String) : Failure :=
  .metadata "metadata is not representable as JSON" (some cause)

/-- A configuration document with a mistake. -/
def ofDocument (cause : String) : Failure :=
  .config "Configuration file could not be parsed" (some cause)

/-- A failed connection of which only the reason is known. -/
def ofTransport (reason : String) : Failure := .dial "" reason (some reason)

end Failure

/-! ## Statuses of remote calls -/

/-- The outcome that the other side gives for a call. -/
structure Status where
  code : Int
  text : String
deriving DecidableEq, Repr

namespace Status

/-- Whether the call succeeded. -/
def isSuccess (s : Status) : Bool := s.code == 0

/-- The names of the outcomes, by number. -/
def codeNames : List String := [
  "Ok", "Cancelled", "Unknown", "InvalidArgument", "DeadlineExceeded", "NotFound",
  "AlreadyExists", "PermissionDenied", "ResourceExhausted", "FailedPrecondition", "Aborted",
  "OutOfRange", "Unimplemented", "Internal", "Unavailable", "DataLoss", "Unauthenticated"]

/-- The name of the outcome; a number without a name is that of an unknown outcome. -/
def codeName (s : Status) : String :=
  if s.code < 0 then "Unknown" else codeNames.getD s.code.toNat "Unknown"

/-- The failure of a stream that ended with the status. -/
def toFailure (s : Status) : Failure :=
  .receive (s.codeName ++ ": " ++ s.text) (some s.text)

end Status

end ProxyFleet
