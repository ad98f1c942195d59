import ProxyFleet.NameMap
import ProxyFleet.Resource.Basic

/-!
# Resources that a session keeps

For each kind of which resources came in, the resources by name. A kind of which the last response
was empty is kept apart from one of which there never was a response.
-/

namespace ProxyFleet

/-- The resources of a session, by kind and name. -/
structure Store where
  /-- The resources of each kind, if there was any response of it. -/
  cells : PerKind (Option (NameMap Resource))
deriving DecidableEq

namespace Store

def empty : Store := ⟨.const none⟩

instance : Inhabited Store := ⟨empty⟩

/-- The resources of a kind; none if there was no response of it. -/
def entries (s : Store) (k : ResourceKind) : NameMap Resource := (s.cells.get k).getD .empty

def find? (s : Store) (k : ResourceKind) (name : String) : Option Resource := (s.entries k).find? name

def names (s : Store) (k : ResourceKind) : NameSet := (s.entries k).names

def count (s : Store) : Nat := ResourceKind.all.foldl (fun n k ↦ n + (s.entries k).size) 0

/-- Resources filed under their names; the last one of a name counts. -/
def byName (resources : List Resource) : NameMap Resource :=
  .ofList (resources.map fun r ↦ (r.name, r))

/-- The store in which the resources of a kind are exactly these. -/
def replace (s : Store) (k : ResourceKind) (resources : List Resource) : Store :=
  ⟨s.cells.set k (some (byName resources))⟩

/-- The store with a resource under its own kind and name. -/
def insert (s : Store) (r : Resource) : Store :=
  ⟨s.cells.set r.kind (some ((s.entries r.kind).insert r.name r))⟩

/-- The store without the resource of a kind and a name. -/
def erase (s : Store) (k : ResourceKind) (name : String) : Store :=
  ⟨s.cells.set k ((s.cells.get k).map (·.erase name))⟩

end Store

end ProxyFleet
