/-!
# Kinds of resources

The six kinds of discovery resources that a session subscribes to, the names under which they are
written, and `PerKind`, a table with one cell for each of them.
-/

namespace ProxyFleet

/-- A kind of discovery resource. -/
inductive ResourceKind
  /-- A cluster of endpoints to which proxies pass requests on. -/
  | cluster
  /-- A listener with its filter chains. -/
  | listener
  | route
  /-- The endpoints of one cluster. -/
  | endpoint
  /-- A secret, such as a certificate. -/
  | secret
  /-- The configuration of one extension. -/
  | extension
deriving DecidableEq, Repr

/-- The text that stands before every message name in a type URL. -/
def typeUrlHead : String := "type.googleapis.com/"

namespace ResourceKind

/-- All kinds, in the order in which answers list them. -/
def all : List ResourceKind := [cluster, listener, route, endpoint, secret, extension]

theorem mem_all (k : ResourceKind) : k ∈ all := by cases k <;> decide

/-- The type URL under which resources of this kind travel. -/
def typeUrl : ResourceKind → String
  | cluster => typeUrlHead ++ "envoy.config.cluster.v3.Cluster"
  | listener => typeUrlHead ++ "envoy.config.listener.v3.Listener"
  | route => typeUrlHead ++ "envoy.config.route.v3.RouteConfiguration"
  | endpoint => typeUrlHead ++ "envoy.config.endpoint.v3.ClusterLoadAssignment"
  | secret => typeUrlHead ++ "envoy.extensions.transport_sockets.tls.v3.Secret"
  | extension => typeUrlHead ++ "envoy.config.core.v3.TypedExtensionConfig"

/-- The customary abbreviation, as in "cluster discovery service". -/
def shortName : ResourceKind → String
  | cluster => "cds"
  | listener => "lds"
  | route => "rds"
  | endpoint => "eds"
  | secret => "sds"
  | extension => "ecds"

/-- The word for the kind in stored documents. -/
def keyword : ResourceKind → String
  | cluster => "cluster"
  | listener => "listener"
  | route => "routeconfiguration"
  | endpoint => "clusterloadassignment"
  | secret => "secret"
  | extension => "extensionconfig"

def position : ResourceKind → Nat
  | cluster => 0
  | listener => 1
  | route => 2
  | endpoint => 3
  | secret => 4
  | extension => 5

/-- The kind that travels under a type URL. -/
def ofTypeUrl? (url : String) : Option ResourceKind := all.find? (·.typeUrl == url)

/-- The kind that a text names, by its abbreviation or its type URL. -/
def ofText? (text : String) : Option ResourceKind :=
  all.find? fun k ↦ k.shortName == text || k.typeUrl == text

/-- The kind of a word in a stored document. -/
def ofKeyword? (word : String) : Option ResourceKind := all.find? (·.keyword == word)

theorem ofTypeUrl?_typeUrl (k : ResourceKind) : ofTypeUrl? k.typeUrl = some k := by
  cases k <;> decide

theorem typeUrl_of_ofTypeUrl? {url : String} {k : ResourceKind} (h : ofTypeUrl? url = some k) :
    k.typeUrl = url := by
  simpa using List.find?_some h

end ResourceKind

/-! ## Tables with one cell for each kind -/

universe u v

/-- One value for each kind of resource. -/
@[ext] structure PerKind (α : Type u) where
  cluster : α
  listener : α
  route : α
  endpoint : α
  secret : α
  extension : α
deriving DecidableEq

namespace PerKind

variable {α : Type u} {β : Type v}

/-- The table that holds the same value in every cell. -/
def const (a : α) : PerKind α := ⟨a, a, a, a, a, a⟩

instance [Inhabited α] : Inhabited (PerKind α) := ⟨const default⟩

def get (t : PerKind α) : ResourceKind → α
  | .cluster => t.cluster
  | .listener => t.listener
  | .route => t.route
  | .endpoint => t.endpoint
  | .secret => t.secret
  | .extension => t.extension

/-- The table with another value in the cell of one kind. -/
def set (t : PerKind α) (k : ResourceKind) (a : α) : PerKind α :=
  match k with
  | .cluster => { t with cluster := a }
  | .listener => { t with listener := a }
  | .route => { t with route := a }
  | .endpoint => { t with endpoint := a }
  | .secret => { t with secret := a }
  | .extension => { t with extension := a }

/-- The cells with their kinds, in the order of `ResourceKind.all`. -/
def toList (t : PerKind α) : List (ResourceKind × α) :=
  ResourceKind.all.map fun k ↦ (k, t.get k)

/-- The table that a function gives cell by cell. -/
def ofFn (f : ResourceKind → α) : PerKind α :=
  ⟨f .cluster, f .listener, f .route, f .endpoint, f .secret, f .extension⟩

@[simp] theorem get_const (a : α) (k : ResourceKind) : (const a).get k = a := by cases k <;> rfl

@[simp] theorem get_ofFn (f : ResourceKind → α) (k : ResourceKind) : (ofFn f).get k = f k := by
  cases k <;> rfl

@[simp] theorem get_set_self (t : PerKind α) (k : ResourceKind) (a : α) : (t.set k a).get k = a := by
  cases k <;> rfl

theorem get_set_of_ne (t : PerKind α) {j k : ResourceKind} (a : α) (h : j ≠ k) :
    (t.set k a).get j = t.get j := by
  cases k <;> cases j <;> simp_all [get, set]

theorem get_set (t : PerKind α) (j k : ResourceKind) (a : α) :
    (t.set k a).get j = if j = k then a else t.get j := by
  split
  · next h => subst h; exact get_set_self ..
  · next h => exact get_set_of_ne t a h

theorem ext_get {s t : PerKind α} (h : ∀ k, s.get k = t.get k) : s = t :=
  PerKind.ext (h .cluster) (h .listener) (h .route) (h .endpoint) (h .secret) (h .extension)

end PerKind

end ProxyFleet
