import ProxyFleet.Number.Shortest
import ProxyFleet.Settings.Environment
import ProxyFleet.Text.Quoted
import ProxyFleet.Toml.Document

/-!
# Settings from documents

A configuration document gives values to settings by their names; what it does not name keeps its
default, and what it names beyond is passed over. A group of settings may also be a list of values
in the order of the settings. Without a document the settings come from the environment.
-/

namespace ProxyFleet

/-! ## Documents as metadata -/

/-- The key under which a moment stands where there are no moments. -/
def momentKey : String := "$__toml_private_datetime"

namespace Toml

/-- The number of a double, or the value that is none. -/
def jsonOfDouble (d : Double) : Json := if d.isFinite then .number (.double d) else .null

mutual

/-- The value as a document without moments. -/
def toJson : Toml → Json
  | string value => .string value
  | integer value => .number (.integer value)
  | float value => jsonOfDouble value
  | bool value => .bool value
  | moment text => .object [(momentKey, .string text)]
  | array items => .array (toJsons items)
  | table entries => Json.ofEntries (toJsonEntries entries)

/-- The values of a list. -/
def toJsons : List (Placed Toml) → List Json
  | [] => []
  | ⟨value, _⟩ :: rest => toJson value :: toJsons rest

/-- The values of a table under their keys. -/
def toJsonEntries : List (String × Placed Toml) → List (String × Json)
  | [] => []
  | (key, ⟨value, _⟩) :: rest => (key, toJson value) :: toJsonEntries rest

end

/-- A value in words, as something that was not expected. -/
def describe : Toml → String
  | string value => "string " ++ Text.quoted value
  | integer value => "integer `" ++ toString value ++ "`"
  | float value => "floating point `" ++ value.text ++ "`"
  | bool value => "boolean `" ++ toString value ++ "`"
  | moment _ => "map"
  | array _ => "sequence"
  | table _ => "map"

end Toml

namespace SettingsDocument

/-! ## Single values -/

/-- Why a value does not suit a setting. -/
inductive Misfit
  /-- The value is of another kind than expected. -/
  | wrongKind (value : Toml) (expected : String)
  | negative (value : Int) (expected : String)
  /-- The setting has no default and no value. -/
  | missing (setting : String)
  /-- The list has no value for a setting without a default. -/
  | tooShort (length : Nat) (expected : String)
  /-- The word is none of those expected. -/
  | noWord (word : String) (expected : List String)
  /-- Neither a word nor a table stands for one of several words. -/
  | noChoice
  /-- Not exactly one key stands for one of several words. -/
  | notOneKey (found : String)
  /-- Something stands behind a key that only stands for a word. -/
  | notVoid (found : String)

namespace Misfit

/-- Words between which there is a choice. -/
def alternatives (words : List String) : String :=
  " or ".intercalate (words.map fun word ↦ "`" ++ word ++ "`")

def message : Misfit → String
  | wrongKind value expected => "invalid type: " ++ value.describe ++ ", expected " ++ expected
  | negative value expected =>
    "invalid value: integer `" ++ toString value ++ "`, expected " ++ expected
  | missing setting => "missing field `" ++ setting ++ "`"
  | tooShort length expected => "invalid length " ++ toString length ++ ", expected " ++ expected
  | noWord word expected => "unknown variant `" ++ word ++ "`, expected " ++ alternatives expected
  | noChoice => "wanted string or table"
  | notOneKey found => "wanted exactly 1 element, " ++ found
  | notVoid found => "expected " ++ found

end Misfit

/-- A value that does not suit a setting, and where it stands as far as that is known. -/
structure MisfitError where
  /-- Why it does not suit. -/
  misfit : Misfit
  /-- Where it stands. -/
  span : Option Span := none

/-- What makes a setting of a value. -/
abbrev Reading (α : Type) := Toml → Except MisfitError α

/-- A value that does not suit. -/
def fail {α : Type} (misfit : Misfit) (span : Option Span := none) : Except MisfitError α :=
  .error ⟨misfit, span⟩

/-- The outcome for a value at a place: a misfit lies there unless it is known better. -/
def located {α : Type} (span : Option Span) : Except MisfitError α → Except MisfitError α
  | .ok a => .ok a
  | .error e => .error { e with span := e.span.or span }

/-- What a text makes. -/
def string (expected : String) : Reading String
  | .string value => .ok value
  | value => fail (.wrongKind value expected)

def text : Reading String := string "a string"

def path : Reading String := string "path string"

def bool : Reading Bool
  | .bool value => .ok value
  | value => fail (.wrongKind value "a boolean")

def nat (expected : String) : Reading Nat
  | .integer value => if 0 ≤ value then .ok value.toNat else fail (.negative value expected)
  | value => fail (.wrongKind value expected)

/-- A number of things. -/
def count : Reading Nat := nat "usize"

def duration : Reading Nat := nat "u64"

/-- The role of a word. -/
def roleOfWord (word : String) : Except MisfitError Role :=
  match Role.ofWord? word with
  | some role => .ok role
  | none => fail (.noWord word [Role.sidecar.word, Role.router.word])

/-- Refuses anything but an empty table or list. -/
def void : Placed Toml → Except MisfitError Unit
  | ⟨.table [], _⟩ => .ok ()
  | ⟨.array [], _⟩ => .ok ()
  | ⟨.table _, place⟩ => fail (.notVoid "empty table") place.value
  | ⟨.array _, place⟩ => fail (.notVoid "empty table") place.value
  | ⟨value, place⟩ => fail (.notVoid ("table, found " ++ value.kindName)) place.value

/-- A role: its word, or that word as the one key of a table with nothing behind it. -/
def role : Reading Role
  | .string word => roleOfWord word
  | .table [(word, behind)] => do
    let role ← located behind.place.key (roleOfWord word)
    void behind
    .ok role
  | .table [] => fail (.notOneKey "found 0 elements")
  | .table _ => fail (.notOneKey "more than 1 element")
  | _ => fail .noChoice

/-- Metadata: a table, as which a moment counts. -/
def metadata : Reading (List (String × Json)) := fun value ↦
  match value.toJson with
  | .object entries => .ok entries
  | _ => fail (.wrongKind value "a map")

/-! ## Groups of settings -/

structure Setting (S : Type) where
  /-- What it is called. -/
  name : String
  /-- How a value changes the group. -/
  change : Toml → Except MisfitError (S → S)

/-- A setting with a value of some kind. -/
def setting {S α : Type} (name : String) (reading : Reading α) (put : α → S → S) : Setting S :=
  ⟨name, fun value ↦ (reading value).map put⟩

/-- A group with a setting changed. -/
def Setting.apply {S : Type} (setting : Setting S) (value : Placed Toml) (group : S) :
    Except MisfitError S :=
  (located value.place.span? (setting.change value.value)).map (· group)

/-- A group of settings: a table, or a list of values in the order of the settings. What has no
value keeps the one that it has, and what is called otherwise is passed over. -/
def group {S : Type} (expected : String) (settings : List (Setting S)) (standard : S) : Reading S
  | .table entries =>
    entries.foldlM
      (fun group (key, value) ↦
        match settings.find? (·.name = key) with
        | none => .ok group
        | some setting => setting.apply value group)
      standard
  | .array items =>
    (settings.zip items).foldlM (fun group (setting, value) ↦ setting.apply value group) standard
  | .moment _ => .ok standard
  | value => fail (.wrongKind value expected)

/-- Refuses a group without a value for its first setting. -/
def firstGiven (name expected : String) : Toml → Except MisfitError Unit
  | .table entries =>
    if (entries.lookup name).isSome then .ok () else fail (.missing name)
  | .moment _ => fail (.missing name)
  | .array [] => fail (.tooShort 0 expected)
  | _ => .ok ()

/-- Who the proxies claim to be. -/
def identity : Reading Identity :=
  group "struct IdentityConfig"
    [setting "node_type" role fun role s ↦ { s with role },
      setting "ip" text fun ip s ↦ { s with ip },
      setting "workload" text fun workload s ↦ { s with workload },
      setting "namespace" text fun namespaceName s ↦ { s with namespaceName },
      setting "metadata" metadata fun metadata s ↦ { s with metadata }]
    .standard

/-- The credentials of an encrypted connection. -/
def tls : Reading TlsSettings := fun value ↦ do
  let settings ←
    group "struct ClientTlsSettings"
      [setting "ca_cert_path" path fun authorityPath s ↦ { s with authorityPath },
        setting "client_cert_path" path fun path s ↦ { s with certificatePath := some path },
        setting "client_key_path" path fun path s ↦ { s with keyPath := some path },
        setting "domain_name" text fun name s ↦ { s with serverName := some name }]
      { authorityPath := "", certificatePath := none, keyPath := none, serverName := none } value
  firstGiven "ca_cert_path" "struct ClientTlsSettings with 4 elements" value
  .ok settings

/-- What is logged. -/
def logging : Reading LoggingSettings :=
  group "struct LoggingConfig"
    [setting "level" text fun level s ↦ { s with level },
      setting "json" bool fun json s ↦ { s with json }]
    {}

/-- How many sessions there are. -/
def fleet : Reading FleetSettings :=
  group "struct FleetConfig"
    [setting "sessions" count fun sessions s ↦ { s with sessions },
      setting "convergence_timeout_seconds" duration fun n s ↦ { s with convergenceSeconds := n },
      setting "reconnect_initial_delay_ms" duration fun n s ↦ { s with firstDelayMillis := n },
      setting "reconnect_max_delay_ms" duration fun n s ↦ { s with maxDelayMillis := n }]
    {}

/-- All settings. -/
def settings : Reading Settings :=
  group "struct AdscConfig"
    [setting "address" text fun address s ↦ { s with address },
      setting "identity" identity fun identity s ↦ { s with identity },
      setting "delta" bool fun incremental s ↦ { s with mode := Environment.modeOf incremental },
      setting "store_responses" bool fun keepsStore s ↦ { s with keepsStore },
      setting "event_buffer" count fun eventBuffer s ↦ { s with eventBuffer },
      setting "connect_timeout_seconds" duration fun n s ↦ { s with connectSeconds := n },
      setting "tls" tls fun tls s ↦ { s with tls := some tls },
      setting "logging" logging fun logging s ↦ { s with logging },
      setting "fleet" fleet fun fleet s ↦ { s with fleet }]
    {}

end SettingsDocument

namespace Settings

def ofDocument (text : String) : Except Failure Settings :=
  match Toml.parse text with
  | .error e => .error (.ofDocument (e.message text))
  | .ok document =>
    match SettingsDocument.settings document with
    | .error e =>
      .error (.ofDocument ((e.span.getD ⟨[], []⟩).complaint text e.misfit.message))
    | .ok settings => .ok settings

/-- The settings of a document, checked. -/
def parse (text : String) : Except Failure Settings := do
  let settings ← ofDocument text
  settings.check
  .ok settings

/-- The settings of a file, checked. -/
def ofFile (files : Files) (path : String) : Except Failure Settings :=
  match files.readText path with
  | .error fault => .error (.io ("reading configuration file " ++ path) fault.message)
  | .ok text => parse text

/-- The settings of the file that the environment names, or else of the environment itself. -/
def load (env : Environment) (files : Files) : Except Failure Settings :=
  match env.setting? "CONFIG" with
  | some path => ofFile files path
  | none => env.settings

end Settings

end ProxyFleet
