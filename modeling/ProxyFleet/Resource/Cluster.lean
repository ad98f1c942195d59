import ProxyFleet.Resource.Payload

/-!
# Clusters and their endpoints

A cluster finds its endpoints in one of several ways. One that finds them by discovery subscribes to
the endpoint assignment of its service name, or of its own name when it has none.

Of clusters are left out, among others, the time to connect, the assignment in place, health checks,
circuit breakers, transport sockets, metadata, the settings of each single way of balancing load,
and all settings common to these but one; of the source of endpoints, where it is to be asked; and
of assignments, the endpoints themselves, their localities and weights, and the policy.
-/

namespace ProxyFleet

open Wire (Field Schema)

/-- The service under which a cluster finds its endpoints. -/
structure EndpointSource where
  /-- The name of the service, empty when it is that of the cluster. -/
  serviceName : String
deriving DecidableEq

namespace EndpointSource

def schema : Schema EndpointSource where
  name := "EdsClusterConfig"
  empty := ⟨""⟩
  fields := [.text 2 "service_name" (·.serviceName) fun v m ↦ { m with serviceName := v }]

end EndpointSource

/-- A way of finding endpoints that an extension provides. -/
structure CustomDiscovery where
  name : String
  config : Option Payload
deriving DecidableEq

namespace CustomDiscovery

def schema : Schema CustomDiscovery where
  name := "CustomClusterType"
  empty := ⟨"", none⟩
  fields := [
    .text 1 "name" (·.name) fun v m ↦ { m with name := v },
    .message 2 "typed_config" Payload.schema (·.config) fun v m ↦ { m with config := some v }]

end CustomDiscovery

/-- How a cluster finds its endpoints. -/
inductive ClusterDiscovery
  /-- In one of the standard ways, by its number. -/
  | standard (way : UInt32)
  | custom (extension : CustomDiscovery)
deriving DecidableEq

namespace ClusterDiscovery

/-- The number of the way in which endpoints come from the control plane. -/
def endpointService : UInt32 := 3

def standard? : ClusterDiscovery → Option UInt32
  | standard way => some way
  | custom _ => none

def custom? : ClusterDiscovery → Option CustomDiscovery
  | standard _ => none
  | custom extension => some extension

end ClusterDiscovery

/-- A share of a hundred. -/
structure Percent where
  value : Double
deriving DecidableEq, BEq

namespace Percent

def schema : Schema Percent where
  name := "Percent"
  empty := ⟨.zero⟩
  fields := [.double 1 "value" (·.value) fun v m ↦ { m with value := v }]

end Percent

/-- Settings for every way of balancing load. -/
structure BalancingSettings where
  /-- The share of endpoints that have to be healthy. -/
  panicThreshold : Option Percent
deriving DecidableEq, BEq

namespace BalancingSettings

def schema : Schema BalancingSettings where
  name := "CommonLbConfig"
  empty := ⟨none⟩
  fields := [.message 1 "healthy_panic_threshold" Percent.schema (·.panicThreshold)
    fun v m ↦ { m with panicThreshold := some v }]

end BalancingSettings

/-- A cluster of endpoints to which proxies pass requests on. -/
structure Cluster where
  name : String
  /-- Where it finds its endpoints if they come from the control plane. -/
  endpointSource : Option EndpointSource
  balancing : UInt32
  statName : String
  discovery : Option ClusterDiscovery
  /-- More about how load is balanced. -/
  balancingSettings : Option BalancingSettings
deriving DecidableEq, BEq

namespace Cluster

def schema : Schema Cluster where
  name := "Cluster"
  empty := ⟨"", none, 0, "", none, none⟩
  fields := [
    .text 1 "name" (·.name) fun v m ↦ { m with name := v },
    .chosenEnum 2 "cluster_discovery_type" (·.discovery.bind ClusterDiscovery.standard?)
      fun v m ↦ { m with discovery := some (.standard v) },
    .message 38 "cluster_discovery_type" CustomDiscovery.schema
      (·.discovery.bind ClusterDiscovery.custom?)
      fun v m ↦ { m with discovery := some (.custom v) },
    .message 3 "eds_cluster_config" EndpointSource.schema (·.endpointSource)
      fun v m ↦ { m with endpointSource := some v },
    .enum 6 "lb_policy" (·.balancing) fun v m ↦ { m with balancing := v },
    .message 27 "common_lb_config" BalancingSettings.schema (·.balancingSettings)
      fun v m ↦ { m with balancingSettings := some v },
    .text 28 "alt_stat_name" (·.statName) fun v m ↦ { m with statName := v }]

def usesEndpointService (c : Cluster) : Bool :=
  c.discovery == some (.standard ClusterDiscovery.endpointService)

/-- The endpoint assignment that the cluster needs: its service name if it has one, and else its
own name. A cluster that finds its endpoints in another way needs none. -/
def endpointName? (c : Cluster) : Option String :=
  if c.usesEndpointService then
    match c.endpointSource with
    | some source => some (if source.serviceName = "" then c.name else source.serviceName)
    | none => some c.name
  else none

end Cluster

structure LocalityEndpoints where
  priority : UInt32
deriving DecidableEq

namespace LocalityEndpoints

def schema : Schema LocalityEndpoints where
  name := "LocalityLbEndpoints"
  empty := ⟨0⟩
  fields := [.word 5 "priority" (·.priority) fun v m ↦ { m with priority := v }]

end LocalityEndpoints

/-- The endpoints of one cluster or service. -/
structure EndpointAssignment where
  /-- The name under which clusters ask for it. -/
  clusterName : String
  /-- The endpoints by locality. -/
  localities : List LocalityEndpoints
deriving DecidableEq

namespace EndpointAssignment

def schema : Schema EndpointAssignment where
  name := "ClusterLoadAssignment"
  empty := ⟨"", []⟩
  fields := [
    .text 1 "cluster_name" (·.clusterName) fun v m ↦ { m with clusterName := v },
    .messages 2 "endpoints" LocalityEndpoints.schema (·.localities)
      fun v m ↦ { m with localities := v }]

end EndpointAssignment

end ProxyFleet
