import ProxyFleet.Failure
import ProxyFleet.Json.Value
import ProxyFleet.Text.Lowercase

/-!
# The identity of a proxy

Who a session claims to be: its role, its address, its workload and its namespace, together with
metadata.
-/

namespace ProxyFleet

inductive Role
  /-- It accompanies one workload. -/
  | sidecar
  /-- It routes between workloads. -/
  | router
deriving DecidableEq, Repr

namespace Role

def word : Role → String
  | sidecar => "sidecar"
  | router => "router"

def ofWord? : String → Option Role
  | "sidecar" => some sidecar
  | "router" => some router
  | _ => none

/-- Reads a role from its word, in whatever case. -/
def parse (text : String) : Except Failure Role :=
  let word := Text.lower text
  match ofWord? word with
  | some role => .ok role
  | none =>
    .error (.validation
      ("Unknown node type '" ++ word ++ "', expected 'sidecar' or 'router'") (some "node_type"))

end Role

/-- Who a session claims to be. -/
structure Identity where
  /-- What the proxy does. -/
  role : Role
  ip : String
  workload : String
  namespaceName : String
  /-- Further values, in order of key. -/
  metadata : List (String × Json)

namespace Identity

/-- The text by which a control plane tells proxies apart. -/
def nodeId (i : Identity) : String :=
  i.role.word ++ "~" ++ i.ip ++ "~" ++ i.workload ++ "." ++ i.namespaceName ++ "~" ++ i.namespaceName
    ++ ".svc.cluster.local"

/-- The identity with other metadata, which must be an object. -/
def withMetadata (i : Identity) : Json → Except Failure Identity
  | .object entries => .ok { i with metadata := entries }
  | other => .error (.metadata ("metadata must be an object, got " ++ other.describe) none)

/-- The identity with one more value in its metadata. -/
def insertMetadata (i : Identity) (key : String) (value : Json) : Identity :=
  { i with metadata := Text.place (·.1) (key, value) i.metadata }

end Identity

end ProxyFleet
