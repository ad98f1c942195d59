import ProxyFleet.Resource.Route
import ProxyFleet.Resource.Listener

/-!
# Configurations that name other resources

Two messages inside a listener name further resources: the connection manager names a route
configuration and configurations of extensions, and the context of a TLS server names secrets.

Of connection managers are left out, among others, tracing, access logs, time limits and the options
of single protocols; of references to routes and secrets, where these are to be asked for; of scoped
routes, how the scope is found; of the rules for certificates, those that are in place; and of TLS
contexts, the certificates that are in place, the protocols and the options of servers. In one of
these bytes may be broken: then the message is read here, and names what it names, where a decoder
that knows the field refuses it, and it names nothing. The oneofs are complete.
-/

namespace ProxyFleet

open Wire (Field Schema)

/-! ## The connection manager -/

structure HttpFilter where
  name : String
  config : Option FilterConfig
  /-- Whether a proxy that does not know the filter may leave it out. -/
  isOptional : Bool
deriving DecidableEq

namespace HttpFilter

def schema : Schema HttpFilter where
  name := "HttpFilter"
  empty := ⟨"", none, false⟩
  fields := [
    .text 1 "name" (·.name) fun v m ↦ { m with name := v },
    .message 4 "config_type" Payload.schema (·.config.bind FilterConfig.typed?)
      fun v m ↦ { m with config := some (.typed v) },
    .message 5 "config_type" (.blank "ExtensionConfigSource")
      (·.config.bind FilterConfig.discovered?)
      fun _ m ↦ { m with config := some .discovered },
    .flag 6 "is_optional" (·.isOptional) fun v m ↦ { m with isOptional := v }]

end HttpFilter

structure DiscoveredRoute where
  /-- The name under which it is asked for. -/
  name : String
deriving DecidableEq

namespace DiscoveredRoute

def schema : Schema DiscoveredRoute where
  name := "Rds"
  empty := ⟨""⟩
  fields := [.text 2 "route_config_name" (·.name) fun v m ↦ { m with name := v }]

end DiscoveredRoute

/-- Routes that are chosen by a scope of the request. -/
structure ScopedRoutes where
  name : String
deriving DecidableEq

namespace ScopedRoutes

def schema : Schema ScopedRoutes where
  name := "ScopedRoutes"
  empty := ⟨""⟩
  fields := [.text 1 "name" (·.name) fun v m ↦ { m with name := v }]

end ScopedRoutes

inductive RouteSource
  | discovered (route : DiscoveredRoute)
  | inPlace (routes : RouteConfiguration)
  | byScope (routes : ScopedRoutes)
deriving DecidableEq

namespace RouteSource

def discovered? : RouteSource → Option DiscoveredRoute
  | discovered route => some route
  | _ => none

def inPlace? : RouteSource → Option RouteConfiguration
  | inPlace routes => some routes
  | _ => none

def byScope? : RouteSource → Option ScopedRoutes
  | byScope routes => some routes
  | _ => none

end RouteSource

/-- The network filter that handles requests. -/
structure ConnectionManager where
  /-- Which protocols are spoken. -/
  codec : UInt32
  statName : String
  routes : Option RouteSource
  httpFilters : List HttpFilter
deriving DecidableEq

namespace ConnectionManager

def typeUrl : String :=
  "type.googleapis.com/" ++
    "envoy.extensions.filters.network.http_connection_manager.v3.HttpConnectionManager"

def schema : Schema ConnectionManager where
  name := "HttpConnectionManager"
  empty := ⟨0, "", none, []⟩
  fields := [
    .enum 1 "codec_type" (·.codec) fun v m ↦ { m with codec := v },
    .text 2 "stat_prefix" (·.statName) fun v m ↦ { m with statName := v },
    .message 3 "route_specifier" DiscoveredRoute.schema (·.routes.bind RouteSource.discovered?)
      fun v m ↦ { m with routes := some (.discovered v) },
    .message 4 "route_specifier" RouteConfiguration.schema (·.routes.bind RouteSource.inPlace?)
      fun v m ↦ { m with routes := some (.inPlace v) },
    .messages 5 "http_filters" HttpFilter.schema (·.httpFilters)
      fun v m ↦ { m with httpFilters := v },
    .message 31 "route_specifier" ScopedRoutes.schema (·.routes.bind RouteSource.byScope?)
      fun v m ↦ { m with routes := some (.byScope v) }]

end ConnectionManager

/-! ## The context of a TLS server -/

structure SecretReference where
  /-- The name under which it is asked for. -/
  name : String
deriving DecidableEq

namespace SecretReference

def schema : Schema SecretReference where
  name := "SdsSecretConfig"
  empty := ⟨""⟩
  fields := [.text 1 "name" (·.name) fun v m ↦ { m with name := v }]

end SecretReference

/-- Rules for certificates of which a part comes from the control plane. -/
structure CombinedValidation where
  /-- The part that comes from the control plane. -/
  secret : Option SecretReference
deriving DecidableEq

namespace CombinedValidation

def schema : Schema CombinedValidation where
  name := "CombinedCertificateValidationContext"
  empty := ⟨none⟩
  fields := [
    .message 2 "validation_context_sds_secret_config" SecretReference.schema (·.secret)
      fun v m ↦ { m with secret := some v }]

end CombinedValidation

structure CertificateProvider where
  /-- The name of what it provides. -/
  name : String
  plugin : Option ExtensionConfiguration
deriving DecidableEq

namespace CertificateProvider

def schema : Schema CertificateProvider where
  name := "CertificateProvider"
  empty := ⟨"", none⟩
  fields := [
    .text 1 "name" (·.name) fun v m ↦ { m with name := v },
    .message 2 "config" ExtensionConfiguration.schema (·.plugin)
      fun v m ↦ { m with plugin := some v }]

end CertificateProvider

/-- A plugin of the proxy that provides certificates. -/
structure CertificateProviderInstance where
  instanceName : String
  /-- The name of what it provides. -/
  certificateName : String
deriving DecidableEq

namespace CertificateProviderInstance

def schema : Schema CertificateProviderInstance where
  name := "CertificateProviderInstance"
  empty := ⟨"", ""⟩
  fields := [
    .text 1 "instance_name" (·.instanceName) fun v m ↦ { m with instanceName := v },
    .text 2 "certificate_name" (·.certificateName) fun v m ↦ { m with certificateName := v }]

end CertificateProviderInstance

/-- Where the rules for the certificates of the other side come from. -/
inductive ValidationSource
  /-- They are here. -/
  | inPlace
  /-- From the control plane. -/
  | discovered (secret : SecretReference)
  /-- In part from the control plane. -/
  | combined (rules : CombinedValidation)
  /-- From a plugin. -/
  | provider (plugin : CertificateProvider)
  /-- From a plugin of the proxy. -/
  | providerInstance (plugin : CertificateProviderInstance)
deriving DecidableEq

namespace ValidationSource

def inPlace? : ValidationSource → Option Unit
  | inPlace => some ()
  | _ => none

def discovered? : ValidationSource → Option SecretReference
  | discovered secret => some secret
  | _ => none

def combined? : ValidationSource → Option CombinedValidation
  | combined rules => some rules
  | _ => none

def provider? : ValidationSource → Option CertificateProvider
  | provider plugin => some plugin
  | _ => none

def providerInstance? : ValidationSource → Option CertificateProviderInstance
  | providerInstance plugin => some plugin
  | _ => none

end ValidationSource

/-- What the contexts of TLS servers and clients share. -/
structure CommonTls where
  /-- The certificates that come from the control plane. -/
  certificates : List SecretReference
  /-- Where the rules for the certificates of the other side come from. -/
  validation : Option ValidationSource
deriving DecidableEq

namespace CommonTls

def schema : Schema CommonTls where
  name := "CommonTlsContext"
  empty := ⟨[], none⟩
  fields := [
    .message 3 "validation_context_type" (.blank "CertificateValidationContext")
      (·.validation.bind ValidationSource.inPlace?)
      fun _ m ↦ { m with validation := some .inPlace },
    .messages 6 "tls_certificate_sds_secret_configs" SecretReference.schema (·.certificates)
      fun v m ↦ { m with certificates := v },
    .message 7 "validation_context_type" SecretReference.schema
      (·.validation.bind ValidationSource.discovered?)
      fun v m ↦ { m with validation := some (.discovered v) },
    .message 8 "validation_context_type" CombinedValidation.schema
      (·.validation.bind ValidationSource.combined?)
      fun v m ↦ { m with validation := some (.combined v) },
    .message 10 "validation_context_type" CertificateProvider.schema
      (·.validation.bind ValidationSource.provider?)
      fun v m ↦ { m with validation := some (.provider v) },
    .message 12 "validation_context_type" CertificateProviderInstance.schema
      (·.validation.bind ValidationSource.providerInstance?)
      fun v m ↦ { m with validation := some (.providerInstance v) }]

end CommonTls

structure DownstreamTls where
  /-- The part that it shares with the context of a client. -/
  common : Option CommonTls
deriving DecidableEq

namespace DownstreamTls

def typeUrl : String :=
  "type.googleapis.com/envoy.extensions.transport_sockets.tls.v3.DownstreamTlsContext"

def schema : Schema DownstreamTls where
  name := "DownstreamTlsContext"
  empty := ⟨none⟩
  fields := [
    .message 1 "common_tls_context" CommonTls.schema (·.common)
      fun v m ↦ { m with common := some v }]

end DownstreamTls

end ProxyFleet
