import ProxyFleet.NameSet

/-!
# Values filed under names

A finite map from names to values, kept as its list of entries in increasing order of name. The
main statements say what `find?` answers after each operation, and that two maps with the same
answers are equal.
-/

namespace ProxyFleet

universe u

/-- A finite map from names to values: its entries, in strictly increasing order of name. -/
structure NameMap (β : Type u) where
  /-- The entries, in increasing order of name. -/
  entries : List (String × β)
  /-- No name is repeated and all are in order. -/
  increasing : entries.Pairwise (·.1 < ·.1)

namespace NameMap

variable {β : Type u}

instance [DecidableEq β] : DecidableEq (NameMap β) := fun m n ↦
  if h : m.entries = n.entries then
    isTrue (by cases m; cases n; cases h; rfl)
  else
    isFalse fun e ↦ h (e ▸ rfl)

def empty : NameMap β := ⟨[], .nil⟩

instance : Inhabited (NameMap β) := ⟨empty⟩

def size (m : NameMap β) : Nat := m.entries.length

def names (m : NameMap β) : NameSet :=
  ⟨m.entries.map (·.1), List.pairwise_map.2 m.increasing⟩

def find? (m : NameMap β) (name : String) : Option β := m.entries.lookup name

/-- The map with a value filed under a name, in place of any before. -/
def insert (name : String) (value : β) (m : NameMap β) : NameMap β :=
  ⟨Text.place (·.1) (name, value) m.entries, Text.place_increasing m.increasing⟩

/-- The map without the entry of one name. -/
def erase (name : String) (m : NameMap β) : NameMap β :=
  ⟨m.entries.filter (·.1 ≠ name), m.increasing.filter _⟩

/-- The map of a list of entries; of two entries with one name the later counts. -/
def ofList (entries : List (String × β)) : NameMap β :=
  entries.foldl (fun m e ↦ m.insert e.1 e.2) empty

/-! ## What is found after an operation -/

@[simp] theorem find?_empty (name : String) : (empty : NameMap β).find? name = none := rfl

theorem lookup_eq_some_iff {name : String} {value : β} {l : List (String × β)}
    (h : l.Pairwise (·.1 < ·.1)) : l.lookup name = some value ↔ (name, value) ∈ l := by
  induction l with
  | nil => simp
  | cons y rest ih =>
    have ⟨hy, hrest⟩ := List.pairwise_cons.1 h
    rw [List.lookup_cons, List.mem_cons]
    by_cases hname : name = y.1
    · -- What comes behind has another name.
      have hother : (name, value) ∉ rest := fun hm ↦ Text.ne_of_lt (hy _ hm) hname
      rw [or_iff_left hother, beq_iff_eq.2 hname, Prod.ext_iff]
      simp [hname, eq_comm]
    · have hne : (name, value) ≠ y := fun e ↦ hname (congrArg (·.1) e)
      rw [beq_eq_false_iff_ne.2 hname]
      exact (ih hrest).trans (or_iff_right hne).symm

theorem find?_eq_some_iff {m : NameMap β} {name : String} {value : β} :
    m.find? name = some value ↔ (name, value) ∈ m.entries := lookup_eq_some_iff m.increasing

@[simp] theorem find?_insert {name x : String} {value : β} {m : NameMap β} :
    (m.insert name value).find? x = if x = name then some value else m.find? x := by
  ext v
  rw [find?_eq_some_iff, insert, Text.mem_place m.increasing, ← find?_eq_some_iff, Prod.mk.injEq]
  by_cases h : x = name <;> simp [h, eq_comm]

@[simp] theorem find?_erase {name x : String} {m : NameMap β} :
    (m.erase name).find? x = if x = name then none else m.find? x := by
  ext v
  rw [find?_eq_some_iff, erase, List.mem_filter, ← find?_eq_some_iff]
  by_cases h : x = name <;> simp [h]

theorem mem_names {m : NameMap β} {name : String} :
    name ∈ m.names ↔ ∃ value, m.find? name = some value := by
  simp only [find?_eq_some_iff]
  change name ∈ m.entries.map (·.1) ↔ _
  simp

@[ext] theorem ext_find? {m n : NameMap β} (h : ∀ name, m.find? name = n.find? name) : m = n := by
  have hentries : m.entries = n.entries :=
    Text.eq_of_mem_iff _ m.increasing n.increasing fun (name, value) ↦ by
      rw [← find?_eq_some_iff, ← find?_eq_some_iff, h]
  cases m
  cases n
  rw [mk.injEq]
  exact hentries

end NameMap

end ProxyFleet
