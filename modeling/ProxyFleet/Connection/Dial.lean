import ProxyFleet.Address.Uri
import ProxyFleet.Settings.Basic
import ProxyFleet.Settings.Pem

/-!
# Dialing a control plane

What has to be in order before a connection is attempted: the settings, the form of the address, and
the credentials. Whether anybody answers is up to the network, which is given as a function.
-/

namespace ProxyFleet

/-- What the network says to an attempt to connect: the cause why there is no connection, if so. -/
abbrev Network := String → Option String

/-- The network in which nobody answers. -/
def Network.silent : Network := fun _ ↦ some "Connection refused (os error 111)"

namespace Dial

def failure (address reason : String) : Failure := .dial address reason (some reason)

/-- Whether credentials can be used for an encrypted connection. -/
def areUsable (c : TlsCredentials) : Bool :=
  Pem.hasCertificate c.authority
    && (match c.client with
      | none => true
      | some (certificate, key) => Pem.hasCertificate certificate && Pem.hasKey key)
    && c.serverName ≠ some ""

/-- Loads the credentials, if there are any, and refuses unusable ones. -/
def prepareTls (s : Settings) (files : Files) : Except Failure Unit :=
  match s.tls with
  | none => .ok ()
  | some tls => do
    let credentials ← tls.credentials files
    if areUsable credentials then .ok ()
    else .error (failure s.address "invalid TLS configuration")

/-- Connects: first the form of the address counts, then the credentials, then who answers. -/
def dial (s : Settings) (files : Files) (network : Network) : Except Failure Unit :=
  if Uri.isWellFormed s.address then do
    prepareTls s files
    match network s.address with
    | none => .ok ()
    | some cause => .error (.dial s.address "connection failed" (some cause))
  else .error (failure s.address "invalid address")

/-- The failure of a stream that the control plane does not open. -/
def refusal (address : String) (status : Status) : Failure :=
  .dial address ("failed to open ADS stream: " ++ status.text) none

/-- Checks the settings and connects. -/
def connect (s : Settings) (files : Files) (network : Network) : Except Failure Unit := do
  s.check
  dial s files network

end Dial

end ProxyFleet
