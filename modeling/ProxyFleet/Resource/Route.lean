import ProxyFleet.Resource.Payload

/-!
# Route configurations, secrets and extension configurations

The kinds of resources that other resources name.

Of route configurations are left out, among others, the headers to add and remove and the settings
of single filters; of virtual hosts, everything but the name; of secrets that are certificates, keys
of tickets or rules for certificates, all that is in them; and of a source of data, the directory
that is watched. The oneofs are complete, so whatever comes last replaces what came before it.
-/

namespace ProxyFleet

open Wire (Bytes Field Schema)

structure VirtualHost where
  name : String
deriving DecidableEq

namespace VirtualHost

/-- How a virtual host is encoded. -/
def schema : Schema VirtualHost where
  name := "VirtualHost"
  empty := ⟨""⟩
  fields := [.text 1 "name" (·.name) fun v m ↦ { m with name := v }]

end VirtualHost

structure RouteConfiguration where
  name : String
  virtualHosts : List VirtualHost
deriving DecidableEq

namespace RouteConfiguration

/-- How a route configuration is encoded. -/
def schema : Schema RouteConfiguration where
  name := "RouteConfiguration"
  empty := ⟨"", []⟩
  fields := [
    .text 1 "name" (·.name) fun v m ↦ { m with name := v },
    .messages 2 "virtual_hosts" VirtualHost.schema (·.virtualHosts)
      fun v m ↦ { m with virtualHosts := v }]

end RouteConfiguration

/-- Where data are to be found. -/
inductive DataSpecifier
  | file (path : String)
  | bytes (value : Bytes)
  | inline (text : String)
  | environment (variableName : String)
deriving DecidableEq

namespace DataSpecifier

def file? : DataSpecifier → Option String
  | file path => some path
  | _ => none

def bytes? : DataSpecifier → Option Bytes
  | bytes value => some value
  | _ => none

def inline? : DataSpecifier → Option String
  | inline text => some text
  | _ => none

def environment? : DataSpecifier → Option String
  | environment variableName => some variableName
  | _ => none

end DataSpecifier

structure DataSource where
  specifier : Option DataSpecifier
deriving DecidableEq

namespace DataSource

/-- How a data source is encoded. -/
def schema : Schema DataSource where
  name := "DataSource"
  empty := ⟨none⟩
  fields := [
    .chosenText 1 "specifier" (·.specifier.bind DataSpecifier.file?)
      fun v m ↦ { m with specifier := some (.file v) },
    .chosenBytes 2 "specifier" (·.specifier.bind DataSpecifier.bytes?)
      fun v m ↦ { m with specifier := some (.bytes v) },
    .chosenText 3 "specifier" (·.specifier.bind DataSpecifier.inline?)
      fun v m ↦ { m with specifier := some (.inline v) },
    .chosenText 4 "specifier" (·.specifier.bind DataSpecifier.environment?)
      fun v m ↦ { m with specifier := some (.environment v) }]

end DataSource

/-- A secret that is not bound to a protocol. -/
structure GenericSecret where
  source : Option DataSource
deriving DecidableEq

namespace GenericSecret

/-- How such a secret is encoded. -/
def schema : Schema GenericSecret where
  name := "GenericSecret"
  empty := ⟨none⟩
  fields := [
    .message 1 "secret" DataSource.schema (·.source) fun v m ↦ { m with source := some v }]

end GenericSecret

/-- What a secret can be. Only of a generic one is it said what is in it. -/
inductive SecretContent
  | certificate
  | ticketKeys
  | validation
  | generic (secret : GenericSecret)
deriving DecidableEq

namespace SecretContent

def certificate? : SecretContent → Option Unit
  | certificate => some ()
  | _ => none

def ticketKeys? : SecretContent → Option Unit
  | ticketKeys => some ()
  | _ => none

def validation? : SecretContent → Option Unit
  | validation => some ()
  | _ => none

def generic? : SecretContent → Option GenericSecret
  | generic secret => some secret
  | _ => none

end SecretContent

structure Secret where
  name : String
  content : Option SecretContent
deriving DecidableEq

namespace Secret

/-- How a secret is encoded. Error texts write the name of its oneof, a reserved word, with a mark
in front. -/
def schema : Schema Secret where
  name := "Secret"
  empty := ⟨"", none⟩
  fields := [
    .text 1 "name" (·.name) fun v m ↦ { m with name := v },
    .message 2 "r#type" (.blank "TlsCertificate") (·.content.bind SecretContent.certificate?)
      fun _ m ↦ { m with content := some .certificate },
    .message 3 "r#type" (.blank "TlsSessionTicketKeys") (·.content.bind SecretContent.ticketKeys?)
      fun _ m ↦ { m with content := some .ticketKeys },
    .message 4 "r#type" (.blank "CertificateValidationContext")
      (·.content.bind SecretContent.validation?)
      fun _ m ↦ { m with content := some .validation },
    .message 5 "r#type" GenericSecret.schema (·.content.bind SecretContent.generic?)
      fun v m ↦ { m with content := some (.generic v) }]

end Secret

structure ExtensionConfiguration where
  /-- The name under which filters ask for it. -/
  name : String
  config : Option Payload
deriving DecidableEq

namespace ExtensionConfiguration

/-- How the configuration of an extension is encoded. -/
def schema : Schema ExtensionConfiguration where
  name := "TypedExtensionConfig"
  empty := ⟨"", none⟩
  fields := [
    .text 1 "name" (·.name) fun v m ↦ { m with name := v },
    .message 2 "typed_config" Payload.schema (·.config) fun v m ↦ { m with config := some v }]

end ExtensionConfiguration

end ProxyFleet
