import ProxyFleet.Address.Ip
import ProxyFleet.Node.Identity
import ProxyFleet.Session.Message
import ProxyFleet.Settings.Tls
import ProxyFleet.Validation

/-!
# Settings

What a fleet of sessions is told: where the control plane is, who the proxies claim to be, how
sessions behave and how many there are. Every value has a default, and `Settings.check` says whether
the values are in their ranges and fit together.
-/

namespace ProxyFleet

/-- What is logged, and how. -/
structure LoggingSettings where
  /-- Which messages are logged, unless the environment says otherwise. -/
  level : String := "info"
  /-- Whether each message is an object on a line of its own. -/
  json : Bool := false

/-- How many sessions there are, and how they come back. -/
structure FleetSettings where
  sessions : Nat := 1
  /-- The seconds that a session may take for its first clusters and listeners. -/
  convergenceSeconds : Nat := 30
  /-- The first delay before a session comes back, in milliseconds. -/
  firstDelayMillis : Nat := 200
  /-- The greatest delay before a session comes back, in milliseconds. -/
  maxDelayMillis : Nat := 10000

/-- A sidecar at a private address. -/
def Identity.standard : Identity where
  role := .sidecar
  ip := "10.0.0.1"
  workload := "adsc"
  namespaceName := "default"
  metadata := []

/-- What a fleet of sessions is told. -/
structure Settings where
  /-- Where the control plane is, with the scheme. -/
  address : String := "http://127.0.0.1:15010"
  /-- Who the proxies claim to be. -/
  identity : Identity := .standard
  /-- How sessions talk to the control plane. -/
  mode : Mode := .complete
  /-- Whether sessions keep what they receive. -/
  keepsStore : Bool := false
  /-- How many events a session keeps for those who wait. -/
  eventBuffer : Nat := 100
  /-- The seconds that a connection may take. -/
  connectSeconds : Nat := 10
  /-- The credentials of an encrypted connection. -/
  tls : Option TlsSettings := none
  /-- What is logged. -/
  logging : LoggingSettings := {}
  /-- How many sessions there are. -/
  fleet : FleetSettings := {}

namespace Settings

/-! ## Values in their ranges -/

/-- The fault of a field unless a condition holds. -/
def demand (field : String) (holds : Bool) (message : String) : List (String × FieldFaults) :=
  if holds then [] else [(field, .value [some message])]

/-- The faults of the fields inside a field, if there are any. -/
def inside (field : String) (faults : List (String × FieldFaults)) : List (String × FieldFaults) :=
  if faults.isEmpty then [] else [(field, .nested faults)]

/-- Whether a number lies in a range. -/
def within (least greatest n : Nat) : Bool := least ≤ n && n ≤ greatest

def identityFaults (i : Identity) : List (String × FieldFaults) :=
  demand "ip" (IpAddress.parse? i.ip).isSome "IP must be a valid IPv4 or IPv6 address"
    ++ demand "workload" (i.workload ≠ "") "Workload cannot be empty"
    ++ demand "namespace" (i.namespaceName ≠ "") "Namespace cannot be empty"

def loggingFaults (l : LoggingSettings) : List (String × FieldFaults) :=
  demand "level" (l.level ≠ "") "Log level cannot be empty"

def fleetFaults (f : FleetSettings) : List (String × FieldFaults) :=
  demand "sessions" (within 1 100000 f.sessions) "Sessions must be between 1 and 100000"
    ++ demand "convergence_timeout_seconds" (1 ≤ f.convergenceSeconds)
      "Convergence timeout must be at least 1 second"
    ++ demand "reconnect_initial_delay_ms" (1 ≤ f.firstDelayMillis)
      "Reconnect delay must be at least 1ms"
    ++ demand "reconnect_max_delay_ms" (1 ≤ f.maxDelayMillis)
      "Reconnect max delay must be at least 1ms"

/-- The faults of single values. -/
def faults (s : Settings) : List (String × FieldFaults) :=
  demand "address" (s.address ≠ "") "Address cannot be empty"
    ++ inside "identity" (identityFaults s.identity)
    ++ demand "event_buffer" (within 1 10000 s.eventBuffer) "Event buffer must be between 1 and 10000"
    ++ demand "connect_timeout_seconds" (within 1 300 s.connectSeconds)
      "Connect timeout must be between 1 and 300 seconds"
    ++ inside "logging" (loggingFaults s.logging)
    ++ inside "fleet" (fleetFaults s.fleet)

/-! ## Values that fit together -/

def hasScheme (scheme : String) (s : Settings) : Bool := scheme.toList.isPrefixOf s.address.toList

def isSecure (s : Settings) : Bool := s.hasScheme "https://"

/-- Refuses an address without a scheme. -/
def checkScheme (s : Settings) : Except Failure Unit :=
  if s.hasScheme "http://" || s.isSecure then .ok ()
  else .error (.validation "Address must start with 'http://' or 'https://'" (some "address"))

/-- Refuses credentials that do not fit the address or each other. -/
def checkTls (s : Settings) : Except Failure Unit :=
  match s.tls with
  | none => .ok ()
  | some tls =>
    if s.isSecure then tls.checkPairing
    else .error (.validation "TLS settings require an 'https://' address" (some "tls"))

/-- Refuses a first delay beyond the greatest one. -/
def checkDelays (s : Settings) : Except Failure Unit :=
  if s.fleet.firstDelayMillis ≤ s.fleet.maxDelayMillis then .ok ()
  else
    .error (.validation "Reconnect initial delay cannot exceed the maximum delay"
      (some "fleet.reconnect_initial_delay_ms"))

/-- Refuses values out of their ranges, all at once, and then values that do not fit together. -/
def check (s : Settings) : Except Failure Unit :=
  if s.faults.isEmpty then do
    s.checkScheme
    s.checkTls
    s.checkDelays
  else .error (FieldFaults.toFailure s.faults)

end Settings

end ProxyFleet
