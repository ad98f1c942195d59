import ProxyFleet.Json.Reader
import ProxyFleet.Settings.Basic
import ProxyFleet.Text.Blank

/-!
# Settings from the environment

Every setting has a variable. White space around a value does not count, and a variable whose value
is blank or no text counts as missing.
-/

namespace ProxyFleet

/-- The values of the variables that are set, as bytes. -/
abbrev Environment := String → Option (List UInt8)

namespace Environment

def text? (env : Environment) (variableName : String) : Option String :=
  (env variableName).bind fun bytes ↦ String.fromUTF8? ⟨bytes.toArray⟩

def value? (env : Environment) (variableName : String) : Option String :=
  ((env.text? variableName).map Text.trim).filter (· ≠ "")

/-- The name of the variable of a setting. -/
def named (setting : String) : String := "FLOWPLANE_ADSC_" ++ setting

def setting? (env : Environment) (setting : String) : Option String := env.value? (named setting)

/-! ## Numbers and truth values -/

/-- Why a value cannot be read. -/
inductive ValueFault
  /-- The value is no truth value. -/
  | notBool
  /-- The value has a character that is no digit. -/
  | badDigit
  /-- The number does not fit 64 bits. -/
  | tooLarge

def ValueFault.message : ValueFault → String
  | notBool => "provided string was not `true` or `false`"
  | badDigit => "invalid digit found in string"
  | tooLarge => "number too large to fit in target type"

/-- The bound of numbers. -/
def maxNumber : Nat := UInt64.size - 1

/-- The number of digits behind those read before. Whether the next character is a digit counts
before the size of the number. -/
def readDigits : Nat → List Char → Except ValueFault Nat
  | n, [] => .ok n
  | n, c :: rest =>
    match Json.digit? c with
    | none => .error .badDigit
    | some d => if maxNumber < n * 10 + d then .error .tooLarge else readDigits (n * 10 + d) rest

/-- Reads a number, with or without a plus sign. -/
def readNumber (text : String) : Except ValueFault Nat :=
  match text.toList with
  | ['+'] => .error .badDigit
  | '+' :: digits => readDigits 0 digits
  | digits => readDigits 0 digits

def readBool : String → Except ValueFault Bool
  | "true" => .ok true
  | "false" => .ok false
  | _ => .error .notBool

/-- The value of a setting as a reader has it, or a default if the variable is missing. -/
def readOr {α : Type} (env : Environment) (setting : String) (reader : String → Except ValueFault α)
    (default : α) : Except Failure α :=
  match env.setting? setting with
  | none => .ok default
  | some text =>
    match reader text with
    | .ok value => .ok value
    | .error fault =>
      .error (.config ("Invalid value for " ++ named setting ++ ": " ++ fault.message) none)

/-! ## Settings -/

def saysYes (text : String) : Bool := Text.lower (Text.trim text) ∈ ["1", "true", "yes", "on"]

/-- The credentials of an encrypted connection, if it is on. -/
def tls (env : Environment) : Except Failure (Option TlsSettings) :=
  if ((env.text? (named "TLS_ENABLED")).map saysYes).getD false then
    match env.setting? "TLS_CA_PATH" with
    | none => .error (.tls .noAuthority)
    | some authorityPath => do
      let settings : TlsSettings := {
        authorityPath
        certificatePath := env.setting? "TLS_CERT_PATH"
        keyPath := env.setting? "TLS_KEY_PATH"
        serverName := env.setting? "TLS_DOMAIN" }
      settings.checkPairing
      .ok (some settings)
  else .ok none

def role (env : Environment) (default : Role) : Except Failure Role :=
  match env.setting? "NODE_TYPE" with
  | none => .ok default
  | some text => Role.parse text

/-- The metadata of the proxies, an object. -/
def metadata (env : Environment) : Except Failure (List (String × Json)) :=
  match env.setting? "METADATA" with
  | none => .ok []
  | some text =>
    match Json.parse text with
    | .ok (.object entries) => .ok entries
    | .ok _ => .error (.validation "Metadata must be a JSON object" (some (named "METADATA")))
    | .error e => .error (.config (named "METADATA" ++ " is not valid JSON") (some (e.message text)))

/-- The mode of a session that is incremental or not. -/
def modeOf (incremental : Bool) : Mode := if incremental then .incremental else .complete

/-- Who the proxies claim to be. -/
def identity (env : Environment) : Except Failure Identity := do
  let standard := Identity.standard
  let role ← env.role standard.role
  let metadata ← env.metadata
  .ok {
    role
    ip := (env.setting? "IP").getD standard.ip
    workload := (env.setting? "WORKLOAD").getD standard.workload
    namespaceName := (env.setting? "NAMESPACE").getD standard.namespaceName
    metadata }

/-- What is logged. -/
def logging (env : Environment) : Except Failure LoggingSettings := do
  let standard : LoggingSettings := {}
  let json ← env.readOr "LOG_JSON" readBool standard.json
  .ok { level := (env.setting? "LOG_LEVEL").getD standard.level, json }

/-- How many sessions there are. -/
def fleet (env : Environment) : Except Failure FleetSettings := do
  let standard : FleetSettings := {}
  let sessions ← env.readOr "SESSIONS" readNumber standard.sessions
  let convergenceSeconds ←
    env.readOr "CONVERGENCE_TIMEOUT_SECONDS" readNumber standard.convergenceSeconds
  let firstDelayMillis ← env.readOr "RECONNECT_INITIAL_MS" readNumber standard.firstDelayMillis
  let maxDelayMillis ← env.readOr "RECONNECT_MAX_MS" readNumber standard.maxDelayMillis
  .ok { sessions, convergenceSeconds, firstDelayMillis, maxDelayMillis }

/-- The settings that an environment gives, checked. -/
def settings (env : Environment) : Except Failure Settings := do
  let standard : Settings := {}
  let incremental ← env.readOr "DELTA" readBool false
  let keepsStore ← env.readOr "STORE_RESPONSES" readBool standard.keepsStore
  let eventBuffer ← env.readOr "EVENT_BUFFER" readNumber standard.eventBuffer
  let connectSeconds ← env.readOr "CONNECT_TIMEOUT_SECONDS" readNumber standard.connectSeconds
  let tls ← env.tls
  let identity ← env.identity
  let logging ← env.logging
  let fleet ← env.fleet
  let settings : Settings := {
    address := (env.setting? "ADDRESS").getD standard.address
    identity, mode := modeOf incremental, keepsStore, eventBuffer, connectSeconds, tls, logging, fleet }
  settings.check
  .ok settings

end Environment

end ProxyFleet
