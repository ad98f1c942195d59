import ProxyFleet.ResourceKind
import ProxyFleet.Resource.Cluster
import ProxyFleet.Resource.Listener
import ProxyFleet.Resource.Route

/-!
# Resources

A resource of one of the six kinds, with its kind and its name.

Messages have more fields than are listed with their types. Listed are those on which it depends
what a session asks for, and some of the others; each module says what it leaves out. The difference
shows in two places. What stands in a field that is not listed is skipped, also where it is no value
of the field and a decoder that knows the field would refuse the payload. And resources that differ
nowhere else are equal, although as whole messages they differ. Nothing that is said about the
sessions of any decoder table depends on the lists. What is said about the same resources is said of
any `Comparison`, and with more fields listed it would be proved as it is.
-/

namespace ProxyFleet

inductive Resource
  | cluster (c : Cluster)
  | listener (l : Listener)
  | route (r : RouteConfiguration)
  | endpoint (e : EndpointAssignment)
  | secret (s : Secret)
  | extension (x : ExtensionConfiguration)
deriving DecidableEq

namespace Resource

/-- The name under which the resource is asked for. -/
def name : Resource → String
  | cluster c => c.name
  | listener l => l.name
  | route r => r.name
  | endpoint e => e.clusterName
  | secret s => s.name
  | extension x => x.name

def kind : Resource → ResourceKind
  | cluster _ => .cluster
  | listener _ => .listener
  | route _ => .route
  | endpoint _ => .endpoint
  | secret _ => .secret
  | extension _ => .extension

def cluster? : Resource → Option Cluster
  | cluster c => some c
  | _ => none

def listener? : Resource → Option Listener
  | listener l => some l
  | _ => none

def encode : Resource → Wire.Bytes
  | cluster c => Cluster.schema.encode c
  | listener l => Listener.schema.encode l
  | route r => RouteConfiguration.schema.encode r
  | endpoint e => EndpointAssignment.schema.encode e
  | secret s => Secret.schema.encode s
  | extension x => ExtensionConfiguration.schema.encode x

def toPayload (r : Resource) : Payload := ⟨r.kind.typeUrl, r.encode⟩

/-- Reads the bytes of a resource of a kind. -/
def decode : ResourceKind → Wire.Bytes → Except Wire.Malformed Resource
  | .cluster, bytes => (Cluster.schema.decode bytes).map cluster
  | .listener, bytes => (Listener.schema.decode bytes).map listener
  | .route, bytes => (RouteConfiguration.schema.decode bytes).map route
  | .endpoint, bytes => (EndpointAssignment.schema.decode bytes).map endpoint
  | .secret, bytes => (Secret.schema.decode bytes).map secret
  | .extension, bytes => (ExtensionConfiguration.schema.decode bytes).map extension

end Resource

end ProxyFleet
