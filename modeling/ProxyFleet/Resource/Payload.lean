import ProxyFleet.Wire.Schema

/-!
# Payloads and their envelope

A payload is an encoded message together with the type URL that says what it is. The envelope gives
a payload a version, a name and further names.
-/

namespace ProxyFleet

open Wire (Bytes Field Schema)

/-- An encoded message and the type URL that names its type. -/
structure Payload where
  typeUrl : String
  value : Bytes
deriving DecidableEq

namespace Payload

def schema : Schema Payload where
  name := "Any"
  empty := ⟨"", []⟩
  fields := [
    .text 1 "type_url" (·.typeUrl) fun v m ↦ { m with typeUrl := v },
    .bytes 2 "value" (·.value) fun v m ↦ { m with value := v }]

end Payload

/-- A payload with what the sender notes on its outside. -/
structure Envelope where
  version : String
  body : Option Payload
  name : String
  aliases : List String
deriving DecidableEq

namespace Envelope

def typeUrl : String := "type.googleapis.com/envoy.service.discovery.v3.Resource"

def schema : Schema Envelope where
  name := "Resource"
  empty := ⟨"", none, "", []⟩
  fields := [
    .text 1 "version" (·.version) fun v m ↦ { m with version := v },
    .message 2 "resource" Payload.schema (·.body) fun v m ↦ { m with body := some v },
    .text 3 "name" (·.name) fun v m ↦ { m with name := v },
    .texts 4 "aliases" (·.aliases) fun v m ↦ { m with aliases := v }]

end Envelope

end ProxyFleet
