import ProxyFleet.NameSet
import ProxyFleet.ResourceKind

/-!
# What a session is subscribed to

For each kind of resource that was ever asked for or acknowledged, the names that are wanted and the
nonce and version of the last response. A kind without an entry wants no names.
-/

namespace ProxyFleet

/-- The subscription to one kind of resource. -/
structure Watch where
  /-- The wanted names; none means all. -/
  names : NameSet := .empty
  lastNonce : String := ""
  lastVersion : String := ""
deriving DecidableEq, Inhabited

/-- The subscriptions of a session. -/
structure WatchTable where
  /-- The subscription of each kind, if there is one. -/
  cells : PerKind (Option Watch)
deriving DecidableEq

namespace WatchTable

def empty : WatchTable := ⟨.const none⟩

instance : Inhabited WatchTable := ⟨empty⟩

def find? (t : WatchTable) (k : ResourceKind) : Option Watch := t.cells.get k

def names (t : WatchTable) (k : ResourceKind) : NameSet :=
  match t.find? k with
  | some w => w.names
  | none => .empty

/-- The table after a change to the subscription of a kind, which is begun if there is none. -/
def modify (t : WatchTable) (k : ResourceKind) (f : Watch → Watch) : WatchTable :=
  ⟨t.cells.set k (some (f ((t.find? k).getD {})))⟩

/-- Whether the listed names are, as a set, not exactly the wanted ones of a kind: there are more or
fewer of them, or one of them is not wanted. -/
def differs (t : WatchTable) (k : ResourceKind) (names : List String) : Bool :=
  let listed := NameSet.ofList names
  match t.find? k with
  | some w => listed.size ≠ w.names.size || listed.toList.any (· ∉ w.names)
  | none => !listed.isEmpty

/-- The table in which the wanted names of a kind are the listed ones. -/
def update (t : WatchTable) (k : ResourceKind) (names : List String) : WatchTable :=
  t.modify k fun w ↦ { w with names := .ofList names }

/-- Adds the listed names to the wanted ones, one after the other: which of them are new, and the
table with them. -/
def subscribe (t : WatchTable) (k : ResourceKind) (names : List String) : NameSet × WatchTable :=
  let sifted := NameSet.sift NameSet.add names (t.names k)
  (.ofList sifted.1, t.modify k fun w ↦ { w with names := sifted.2 })

/-- Takes the listed names out of the wanted ones, one after the other: which of them were wanted,
and the table without them. -/
def unsubscribe (t : WatchTable) (k : ResourceKind) (names : List String) : NameSet × WatchTable :=
  match t.find? k with
  | none => (.empty, t)
  | some w =>
    let sifted := NameSet.sift NameSet.remove names w.names
    (.ofList sifted.1, t.modify k fun w ↦ { w with names := sifted.2 })

/-- Notes the nonce and the version of a response. -/
def recordAck (t : WatchTable) (k : ResourceKind) (nonce version : String) : WatchTable :=
  t.modify k fun w ↦ { w with lastNonce := nonce, lastVersion := version }

end WatchTable

end ProxyFleet
