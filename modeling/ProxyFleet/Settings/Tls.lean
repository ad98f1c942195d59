import ProxyFleet.Failure
import ProxyFleet.Files.Basic

/-!
# Settings of encryption

Which files hold the certificates of an encrypted connection, and what is in them. A certificate of
the client and its key come together or not at all.
-/

namespace ProxyFleet

/-- Where the credentials of an encrypted connection are. -/
structure TlsSettings where
  /-- The file with the certificates of the authority. -/
  authorityPath : String
  /-- The file with the certificate of the client. -/
  certificatePath : Option String
  /-- The file with the key of the client. -/
  keyPath : Option String
  /-- The name that the other side must have in its certificate. -/
  serverName : Option String
deriving DecidableEq

/-- The credentials of an encrypted connection, as their files have them. -/
structure TlsCredentials where
  /-- The certificates of the authority. -/
  authority : String
  /-- The certificate and the key of the client. -/
  client : Option (String × String)
  /-- The name that the other side must have in its certificate. -/
  serverName : Option String

namespace TlsSettings

/-- Refuses a certificate without a key and a key without a certificate. -/
def checkPairing (s : TlsSettings) : Except Failure Unit :=
  match s.certificatePath, s.keyPath with
  | some _, none => .error (.tls .noKey)
  | none, some _ => .error (.tls .noCertificate)
  | _, _ => .ok ()

/-- How a block begins. -/
def blockStart : String := "-----BEGIN"

/-- Whether characters have others somewhere, one after the other. -/
def hasInside (expected : List Char) : List Char → Bool
  | [] => expected.isEmpty
  | c :: rest => expected.isPrefixOf (c :: rest) || hasInside expected rest

def hasBlock (text : String) : Bool := hasInside blockStart.toList text.toList

/-- The text of a file that must have a block, or the cause why there is none. -/
def readBlocks (files : Files) (path : String) : Except String String :=
  match files.readText path with
  | .error fault => .error fault.message
  | .ok text => if hasBlock text then .ok text else .error (TlsFailure.notPem path).message

/-- The text of a file; a failure names the purpose of the file. -/
def readFor (files : Files) (unreadable : String → String → TlsFailure) (path : String) :
    Except Failure String :=
  match readBlocks files path with
  | .ok text => .ok text
  | .error cause => .error (.tls (unreadable path cause))

/-- Reads the credentials: first the authority, then the certificate, then the key. -/
def credentials (s : TlsSettings) (files : Files) : Except Failure TlsCredentials := do
  s.checkPairing
  let authority ← readFor files .unreadableAuthority s.authorityPath
  match s.certificatePath, s.keyPath with
  | some certificatePath, some keyPath =>
    let certificate ← readFor files .unreadableCertificate certificatePath
    let key ← readFor files .unreadableKey keyPath
    .ok { authority, client := some (certificate, key), serverName := s.serverName }
  | _, _ => .ok { authority, client := none, serverName := s.serverName }

end TlsSettings

end ProxyFleet
