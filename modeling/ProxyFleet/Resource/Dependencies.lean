import ProxyFleet.NameSet
import ProxyFleet.Resource.Basic
import ProxyFleet.Resource.Filter

/-!
# Resources that resources need

Listeners name route configurations, secrets and configurations of extensions, and clusters name
endpoint assignments. The names are collected as sets, so neither order nor repetition of the
resources matters. A nested configuration that cannot be decoded names nothing.

On the wire an empty name would ask for everything. Listeners are never taken to name one.
-/

namespace ProxyFleet

structure ListenerNeeds where
  routes : NameSet
  secrets : NameSet
  extensions : NameSet
deriving DecidableEq

/-- The names of a list that are not empty. -/
def properNames (names : List String) : List String := names.filter (· ≠ "")

/-! ## Names in one message -/

namespace ConnectionManager

/-- The route configuration that the connection manager asks for, if any. -/
def routeNames (m : ConnectionManager) : List String :=
  ((m.routes.bind RouteSource.discovered?).map (·.name)).toList

/-- The filters whose configuration comes from the control plane. -/
def extensionNames (m : ConnectionManager) : List String :=
  (m.httpFilters.filter (·.config = some .discovered)).map (·.name)

end ConnectionManager

namespace NetworkFilter

/-- The connection manager that the filter is, if it is one that can be decoded. -/
def connectionManager? (f : NetworkFilter) : Option ConnectionManager :=
  match f.config with
  | some (.typed config) =>
    if config.typeUrl = ConnectionManager.typeUrl then
      (ConnectionManager.schema.decode config.value).toOption
    else none
  | _ => none

/-- The route configurations that the filter asks for. -/
def routeNames (f : NetworkFilter) : List String :=
  match f.connectionManager? with
  | some m => m.routeNames
  | none => []

/-- The configurations of extensions that the filter asks for: its own, or those of the filters
that it holds. -/
def extensionNames (f : NetworkFilter) : List String :=
  if f.config = some .discovered then [f.name]
  else
    match f.connectionManager? with
    | some m => m.extensionNames
    | none => []

end NetworkFilter

/-- Names of secrets that are at hand without being asked for. -/
def localSecrets : List String := ["", "ROOTCA", "default"]

namespace ValidationSource

/-- The secrets that the rules ask for. -/
def secretNames : ValidationSource → List String
  | discovered secret => [secret.name]
  | combined rules => (rules.secret.map (·.name)).toList
  | _ => []

end ValidationSource

namespace TransportSocket

/-- The context of a TLS server that the socket has, if it is one that can be decoded. -/
def serverTls? (s : TransportSocket) : Option DownstreamTls :=
  match s.config with
  | some config =>
    if config.typeUrl = DownstreamTls.typeUrl then
      (DownstreamTls.schema.decode config.value).toOption
    else none
  | none => none

/-- The secrets that the socket names. -/
def secretNames (s : TransportSocket) : List String :=
  match s.serverTls?.bind (·.common) with
  | some common =>
    common.certificates.map (·.name) ++
      (match common.validation with
        | some rules => rules.secretNames
        | none => [])
  | none => []

end TransportSocket

/-! ## Names in a batch of resources -/

/-- The names that all filter chains of the listeners give together. -/
def namesInChains (listeners : List Listener) (names : FilterChain → List String) : List String :=
  listeners.flatMap fun l ↦ l.chains.flatMap names

/-- What a batch of listeners needs. -/
def listenerNeeds (listeners : List Listener) : ListenerNeeds where
  routes := .ofList (properNames
    (namesInChains listeners fun chain ↦ chain.filters.flatMap (·.routeNames)))
  secrets := .ofList ((namesInChains listeners fun chain ↦
    chain.socket.toList.flatMap (·.secretNames)).filter (· ∉ localSecrets))
  extensions := .ofList (properNames
    (namesInChains listeners fun chain ↦ chain.filters.flatMap (·.extensionNames)))

/-- The endpoint assignments that a batch of clusters needs. -/
def endpointNames (clusters : List Cluster) : NameSet := .ofList (clusters.filterMap (·.endpointName?))

def clustersIn (resources : List Resource) : List Cluster := resources.filterMap (·.cluster?)

def listenersIn (resources : List Resource) : List Listener := resources.filterMap (·.listener?)

/-- The subscriptions that a complete batch of resources of a kind gives rise to. -/
def derivedSubscriptions (kind : ResourceKind) (resources : List Resource) :
    List (ResourceKind × NameSet) :=
  match kind with
  | .listener =>
    let needs := listenerNeeds (listenersIn resources)
    [(.route, needs.routes), (.secret, needs.secrets), (.extension, needs.extensions)]
  | .cluster => [(.endpoint, endpointNames (clustersIn resources))]
  | _ => []

end ProxyFleet
