import ProxyFleet.NameSet
import ProxyFleet.ResourceKind
import ProxyFleet.Node.Basic
import ProxyFleet.Resource.Payload

/-!
# Requests and responses

The two modes in which a session talks to a control plane share their messages. In the complete
mode a response lists all resources of its kind and a request all wanted names; in the incremental
mode both list what is new and what is gone.
-/

namespace ProxyFleet

/-- How a session talks to a control plane. -/
inductive Mode
  /-- Every message tells the whole state of its kind. -/
  | complete
  /-- Every message tells what changed. -/
  | incremental
deriving DecidableEq, Repr

/-- A message from the control plane. -/
structure Response where
  typeUrl : String
  version : String
  /-- The mark by which the response is acknowledged. -/
  nonce : String
  /-- The resources; in the incremental mode one may come without its body. -/
  resources : List (Option Payload)
  /-- The names of resources that are gone, in the incremental mode. -/
  removed : List String := []

def Response.payloads (r : Response) : List Payload := r.resources.filterMap id

/-- What a request says, apart from who sends it. -/
structure Draft where
  /-- The type of the resources. -/
  typeUrl : String
  /-- The version that is acknowledged, in the complete mode. -/
  version : String := ""
  /-- The mark of the response that is acknowledged. -/
  nonce : String := ""
  /-- The wanted names: all of them in the complete mode, the new ones in the incremental mode. -/
  names : NameSet := .empty
  /-- The names that are no longer wanted, in the incremental mode. -/
  dropped : NameSet := .empty
deriving DecidableEq

/-- A message to the control plane. -/
structure Request where
  /-- What it says. -/
  draft : Draft
  /-- Who sends it, told in the first request only. -/
  node : Option Node

/-- The type of the resources that a request is about. -/
def Request.typeUrl (r : Request) : String := r.draft.typeUrl

namespace Mode

/-- The kinds of resources that a session asks for at its beginning. -/
def openingKinds : Mode → List ResourceKind
  | complete => [.cluster]
  | incremental => [.cluster, .listener]

/-- The requests that a session begins with: each asks for all resources of its kind. -/
def opening (m : Mode) : List Draft := m.openingKinds.map fun k ↦ { typeUrl := k.typeUrl }

/-- The acknowledgement of a response. The complete mode repeats the version and all wanted
names. -/
def ack (m : Mode) (r : Response) (names : NameSet) : Draft :=
  match m with
  | complete => { typeUrl := r.typeUrl, version := r.version, nonce := r.nonce, names := names }
  | incremental => { typeUrl := r.typeUrl, nonce := r.nonce }

end Mode

end ProxyFleet
