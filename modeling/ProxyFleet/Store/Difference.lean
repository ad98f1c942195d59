import ProxyFleet.Resource.Comparison
import ProxyFleet.Store.Basic

/-!
# Differences between stores

What one store has that another has not, what it lacks, and what differs under one name, kind by
kind. Kinds without a difference are left out, and a kind of which there was no response differs in
nothing from one without resources. Two stores that are the same are told apart from those.
-/

namespace ProxyFleet

/-- The differences of one kind of resource; all names are in order. -/
structure KindDifference where
  /-- Names that only the second store has. -/
  added : NameSet
  /-- Names that only the first store has. -/
  removed : NameSet
  /-- Names under which both stores have a resource, but not the same. -/
  changed : NameSet
deriving DecidableEq

namespace KindDifference

def isEmpty (d : KindDifference) : Bool :=
  d.added.isEmpty && d.removed.isEmpty && d.changed.isEmpty

/-- The differences between resources by name. -/
def between (c : Comparison) (old new : NameMap Resource) : KindDifference where
  added := new.names.diff old.names
  removed := old.names.diff new.names
  changed := new.names.filter fun name ↦
    (old.find? name).any fun existing ↦ (new.find? name).any fun r ↦ !c.same existing r

end KindDifference

/-- The differences between two stores: those of each kind that has any. -/
structure StoreDifference where
  cells : PerKind (Option KindDifference)
deriving DecidableEq

def StoreDifference.isEmpty (d : StoreDifference) : Bool := d.cells = .const none

/-- Whether two maps have the same names and the same under each of them. -/
def NameMap.sameBy (c : Comparison) (m n : NameMap Resource) : Bool :=
  m.names = n.names && m.entries.all fun e ↦ (n.find? e.1).any (c.same e.2)

namespace Store

/-- The differences that lead from the first store to the second. -/
def diff (c : Comparison) (old new : Store) : StoreDifference :=
  ⟨.ofFn fun k ↦
    let d := KindDifference.between c (old.entries k) (new.entries k)
    if d.isEmpty then none else some d⟩

/-- Whether two stores are the same. A kind without resources is not the same as one of which there
was no response. -/
def same (c : Comparison) (s t : Store) : Bool :=
  ResourceKind.all.all fun k ↦
    match s.cells.get k, t.cells.get k with
    | none, none => true
    | some m, some n => m.sameBy c n
    | _, _ => false

end Store

end ProxyFleet
