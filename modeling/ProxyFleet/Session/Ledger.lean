import ProxyFleet.Resource.Dependencies
import ProxyFleet.Session.Message
import ProxyFleet.Store.Basic
import ProxyFleet.Watch.Table

/-!
# What a session remembers

A ledger holds the subscriptions of a session, its store if it keeps one, and whether it has seen
clusters. `Ledger.digest` is the heart of a session: what a response changes in the ledger, and
which requests follow from it.
-/

namespace ProxyFleet

/-- What a session remembers. -/
structure Ledger where
  /-- What it is subscribed to. -/
  watches : WatchTable := .empty
  /-- The resources that came in, if it keeps them. -/
  store : Option Store := none
  /-- Whether a response with clusters was processed, in the complete mode. -/
  clustersSeen : Bool := false
deriving DecidableEq

namespace Ledger

/-- The ledger of a session that begins, with a store or without. -/
def new (keepsStore : Bool) : Ledger := { store := if keepsStore then some .empty else none }

/-- The store, empty if there is none. -/
def responses (l : Ledger) : Store := l.store.getD .empty

/-- Keeps exactly these resources of a kind. -/
def storeAll (l : Ledger) (k : ResourceKind) (resources : List Resource) : Ledger :=
  { l with store := l.store.map (·.replace k resources) }

/-- Keeps a resource. -/
def storeOne (l : Ledger) (r : Resource) : Ledger := { l with store := l.store.map (·.insert r) }

/-- The resource of a kind and a name that is kept. -/
def stored? (l : Ledger) (k : ResourceKind) (name : String) : Option Resource :=
  l.store.bind (·.find? k name)

/-- No longer keeps the resource of a kind and a name. -/
def forget (l : Ledger) (k : ResourceKind) (name : String) : Ledger :=
  { l with store := l.store.map (·.erase k name) }

/-- The ledger with other subscriptions. -/
def withWatches (l : Ledger) (w : WatchTable) : Ledger := { l with watches := w }

/-- Subscribes to all resources of the kinds that a session begins with. -/
def beginWatch (l : Ledger) (m : Mode) : Ledger :=
  l.withWatches (m.openingKinds.foldl (fun w k ↦ w.update k []) l.watches)

/-! ## The complete mode -/

/-- The subscriptions that a batch gives rise to and that differ from those before. -/
def changedSubscriptions (l : Ledger) (k : ResourceKind) (resources : List Resource) :
    List (ResourceKind × NameSet) :=
  (derivedSubscriptions k resources).filter fun (kind, names) ↦ l.watches.differs kind names.toList

/-- What a response of a kind changes in the complete mode. -/
def digestComplete (l : Ledger) (r : Response) (k : ResourceKind) (resources : List Resource) :
    Ledger × List Draft :=
  let changed := l.changedSubscriptions k resources
  let first := k = .cluster ∧ ¬ l.clustersSeen
  let watches := changed.foldl (fun w (kind, names) ↦ w.update kind names.toList) l.watches
  let watches := watches.recordAck k r.nonce r.version
  let watches := if first then watches.update .listener [] else watches
  let after : Ledger :=
    { l.storeAll k resources with
      watches := watches, clustersSeen := l.clustersSeen || k = .cluster }
  let subscriptions := changed.map fun (kind, names) ↦ { typeUrl := kind.typeUrl, names := names }
  let listeners : List Draft := if first then [{ typeUrl := ResourceKind.listener.typeUrl }] else []
  (after, subscriptions ++ [Mode.complete.ack r (watches.names k)] ++ listeners)

/-! ## The incremental mode -/

/-- The endpoint assignment that is no longer needed when a cluster is gone. One that is not kept
counts as one that needs the assignment of its own name. -/
def releasedEndpoint? (name : String) : Option Resource → Option String
  | some (.cluster c) => c.endpointName?
  | some _ => none
  | none => some name

/-- Forgets resources of a kind one after the other, and gathers the endpoint assignments that are
no longer needed. -/
def forgetAll (l : Ledger) (k : ResourceKind) : List String → Ledger × List String
  | [] => (l, [])
  | name :: rest =>
    let released := if k = .cluster then (releasedEndpoint? name (l.stored? k name)).toList else []
    let (l, more) := (l.forget k name).forgetAll k rest
    (l, released ++ more)

/-- The route configurations that a batch needs, listener by listener. -/
def routesWanted (resources : List Resource) : List String :=
  (listenersIn resources).flatMap fun listener ↦ (listenerNeeds [listener]).routes.toList

/-- The endpoint assignments that a batch needs, cluster by cluster. -/
def endpointsWanted (resources : List Resource) : List String :=
  (clustersIn resources).filterMap (·.endpointName?)

/-- A request that subscribes to names, if there are any. -/
def subscription (k : ResourceKind) (names : NameSet) : List Draft :=
  if names.isEmpty then [] else [{ typeUrl := k.typeUrl, names := names }]

/-- A request that drops names, if there are any. -/
def unsubscription (k : ResourceKind) (names : NameSet) : List Draft :=
  if names.isEmpty then [] else [{ typeUrl := k.typeUrl, dropped := names }]

/-- What a response of a kind changes in the incremental mode. -/
def digestIncremental (l : Ledger) (r : Response) (k : ResourceKind) (resources : List Resource) :
    Ledger × List Draft :=
  let (l, released) := (resources.foldl storeOne l).forgetAll k r.removed
  let watches := l.watches.recordAck k r.nonce r.version
  let (endpoints, watches) := watches.subscribe .endpoint (endpointsWanted resources)
  let (routes, watches) := watches.subscribe .route (routesWanted resources)
  let (dropped, watches) := watches.unsubscribe .endpoint released
  (l.withWatches watches,
    subscription .endpoint endpoints ++ subscription .route routes
      ++ unsubscription .endpoint dropped ++ [Mode.incremental.ack r .empty])

/-- What a response of a kind changes, given the resources of that kind that it brings, and the
requests that follow in their order. -/
def digest (l : Ledger) (m : Mode) (r : Response) (k : ResourceKind) (resources : List Resource) :
    Ledger × List Draft :=
  match m with
  | .complete => l.digestComplete r k resources
  | .incremental => l.digestIncremental r k resources

end Ledger

end ProxyFleet
