import ProxyFleet.Resource.Payload

/-!
# Listeners

A listener has filter chains, and a chain has filters and perhaps a transport socket. A filter is
configured in place or asks the control plane for its configuration.

Of listeners are left out, among others, the address, the filters that come before a chain is
chosen, the direction of traffic, the access log and metadata; of chains, what they match, their
time limits and metadata; and of a configuration that comes from the control plane, all that is in
it.
-/

namespace ProxyFleet

open Wire (Field Schema)

inductive FilterConfig
  /-- The configuration is here. -/
  | typed (config : Payload)
  /-- The configuration comes from the control plane, under the name of the filter. -/
  | discovered
deriving DecidableEq

namespace FilterConfig

def typed? : FilterConfig → Option Payload
  | typed config => some config
  | discovered => none

def discovered? : FilterConfig → Option Unit
  | typed _ => none
  | discovered => some ()

end FilterConfig

structure NetworkFilter where
  name : String
  config : Option FilterConfig
deriving DecidableEq

namespace NetworkFilter

def schema : Schema NetworkFilter where
  name := "Filter"
  empty := ⟨"", none⟩
  fields := [
    .text 1 "name" (·.name) fun v m ↦ { m with name := v },
    .message 4 "config_type" Payload.schema (·.config.bind FilterConfig.typed?)
      fun v m ↦ { m with config := some (.typed v) },
    .message 5 "config_type" (.blank "ExtensionConfigSource")
      (·.config.bind FilterConfig.discovered?)
      fun _ m ↦ { m with config := some .discovered }]

end NetworkFilter

/-- The lower end of a filter chain. -/
structure TransportSocket where
  name : String
  config : Option Payload
deriving DecidableEq

namespace TransportSocket

def schema : Schema TransportSocket where
  name := "TransportSocket"
  empty := ⟨"", none⟩
  fields := [
    .text 1 "name" (·.name) fun v m ↦ { m with name := v },
    .message 3 "config_type" Payload.schema (·.config) fun v m ↦ { m with config := some v }]

end TransportSocket

/-- The filters through which the connections of a listener pass. -/
structure FilterChain where
  filters : List NetworkFilter
  socket : Option TransportSocket
  name : String
deriving DecidableEq

namespace FilterChain

def schema : Schema FilterChain where
  name := "FilterChain"
  empty := ⟨[], none, ""⟩
  fields := [
    .messages 3 "filters" NetworkFilter.schema (·.filters) fun v m ↦ { m with filters := v },
    .message 6 "transport_socket" TransportSocket.schema (·.socket)
      fun v m ↦ { m with socket := some v },
    .text 7 "name" (·.name) fun v m ↦ { m with name := v }]

end FilterChain

structure Listener where
  name : String
  /-- The filter chains among which a connection is matched. -/
  filterChains : List FilterChain
  /-- The filter chain of a connection that none of these matches. -/
  defaultChain : Option FilterChain
  statName : String
deriving DecidableEq

namespace Listener

def schema : Schema Listener where
  name := "Listener"
  empty := ⟨"", [], none, ""⟩
  fields := [
    .text 1 "name" (·.name) fun v m ↦ { m with name := v },
    .messages 3 "filter_chains" FilterChain.schema (·.filterChains)
      fun v m ↦ { m with filterChains := v },
    .message 25 "default_filter_chain" FilterChain.schema (·.defaultChain)
      fun v m ↦ { m with defaultChain := some v },
    .text 28 "stat_prefix" (·.statName) fun v m ↦ { m with statName := v }]

/-- All filter chains, the default one last. -/
def chains (l : Listener) : List FilterChain := l.filterChains ++ l.defaultChain.toList

end Listener

end ProxyFleet
