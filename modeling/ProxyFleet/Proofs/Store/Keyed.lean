import ProxyFleet.Proofs.Store.Lookup

/-!
# Resources under their own kinds and names

A store files resources by kind and name, and checks neither. One operation takes the kind from the
response, another takes it from the resource. `Ledger.WellKeyed` says that what is found under a
kind and a name is of that kind and has that name. Every operation keeps this, as long as the
resources that come in are of the kind of their response; what is kept under one kind and name then
is one resource, and to forget it touches no other.
-/

namespace ProxyFleet

/-- Of resources that are filed by name the last one of each name is found. -/
theorem Store.find?_byName (resources : List Resource) (name : String) :
    (byName resources).find? name = resources.reverse.find? (·.name = name) := by
  induction resources using List.reverseRecOn with
  | nil => rfl
  | append_singleton before r ih =>
    rw [find?_byName_concat, ih, List.reverse_append, List.reverse_singleton,
      List.singleton_append, List.find?_cons]
    by_cases h : r.name = name
    · rw [if_pos h.symm, decide_eq_true h]
    · rw [if_neg (Ne.symm h), decide_eq_false h]

namespace Ledger

/-- Whatever is kept is of the kind, and has the name, under which it is found. -/
def WellKeyed (l : Ledger) : Prop :=
  ∀ k name x, l.stored? k name = some x → x.kind = k ∧ x.name = name

/-- What is found of the resources that are gone, before each of them is forgotten. -/
def met (l : Ledger) (k : ResourceKind) : List String → List (String × Option Resource)
  | [] => []
  | name :: rest => (name, l.stored? k name) :: (l.forget k name).met k rest

/-- The endpoint assignments that are given up come from what is found. -/
theorem forgetAll_snd_eq_met (l : Ledger) (gone : List String) : (l.forgetAll .cluster gone).2 =
    (l.met .cluster gone).flatMap fun (name, found) ↦ (releasedEndpoint? name found).toList := by
  induction gone generalizing l with
  | nil => rfl
  | cons name rest ih =>
    rw [met, List.flatMap_cons, ← ih]
    rfl

theorem wellKeyed_new (keepsStore : Bool) : (new keepsStore).WellKeyed := by
  intro k name x h
  rw [stored?_new] at h
  cases h

theorem stored?_storeAll_self {l : Ledger} (hstore : l.store.isSome) (k : ResourceKind)
    (resources : List Resource) (name : String) :
    (l.storeAll k resources).stored? k name = resources.reverse.find? (·.name = name) := by
  obtain ⟨s, hs⟩ := Option.isSome_iff_exists.mp hstore
  rw [stored?, storeAll, hs, ← Store.find?_byName]
  exact (s.find?_replace resources).trans (if_pos rfl)

namespace WellKeyed

variable {l l' : Ledger} {k : ResourceKind} {name : String} {resources : List Resource}
variable (h : l.WellKeyed)

include h

theorem of_store_eq (hstore : l'.store = l.store) : l'.WellKeyed := by
  intro j other x hx
  rw [stored?, hstore] at hx
  exact h j other x hx

/-- All resources of a response are filed under its kind, so they must be of that kind. -/
theorem storeAll (hkind : ∀ x ∈ resources, x.kind = k) : (l.storeAll k resources).WellKeyed := by
  intro j other x hx
  rw [stored?, Ledger.storeAll, Option.bind_map, Option.bind_eq_some_iff] at hx
  obtain ⟨s, hs, hx⟩ := hx
  rw [Function.comp_apply, Store.find?_replace] at hx
  by_cases hj : j = k
  · rw [if_pos hj] at hx
    obtain ⟨hmem, hname⟩ := Store.mem_of_find?_byName hx
    exact ⟨(hkind x hmem).trans hj.symm, hname⟩
  · rw [if_neg hj] at hx
    refine h j other x ?_
    rw [stored?, hs]
    exact hx

theorem storeOne (r : Resource) : (l.storeOne r).WellKeyed := by
  intro j other x hx
  rcases eq_or_stored?_of_storeOne hx with ⟨-, hkeys⟩ | hbefore
  · exact hkeys
  · exact h j other x hbefore

theorem foldl_storeOne (resources : List Resource) :
    (resources.foldl Ledger.storeOne l).WellKeyed := by
  induction resources generalizing l with
  | nil => exact h
  | cons r rest ih => exact ih (h.storeOne r)

/-- To forget what is kept under a kind and a name is to forget the one resource of that kind and
name, and no other. -/
theorem stored?_forget_eq_some_iff {j : ResourceKind} {other : String} {x : Resource} :
    (l.forget k name).stored? j other = some x ↔
      l.stored? j other = some x ∧ ¬ (x.kind = k ∧ x.name = name) := by
  rw [stored?_forget]
  constructor
  · intro hx
    by_cases hgone : j = k ∧ other = name
    · rw [if_pos hgone] at hx
      cases hx
    · rw [if_neg hgone] at hx
      obtain ⟨rfl, rfl⟩ := h j other x hx
      exact ⟨hx, hgone⟩
  · rintro ⟨hx, hother⟩
    obtain ⟨rfl, rfl⟩ := h j other x hx
    rw [if_neg hother]
    exact hx

theorem forget (k : ResourceKind) (name : String) : (l.forget k name).WellKeyed := by
  intro j other x hx
  exact h j other x (h.stored?_forget_eq_some_iff.mp hx).1

theorem forgetAll (k : ResourceKind) (gone : List String) : (l.forgetAll k gone).1.WellKeyed := by
  induction gone generalizing l with
  | nil => exact h
  | cons name rest ih => exact ih (h.forget k name)

/-- Where clusters are gone, nothing but clusters of their names is found. -/
theorem met_cluster {gone : List String} {found : Option Resource}
    (hmet : (name, found) ∈ l.met .cluster gone) :
    found = none ∨ ∃ c : Cluster, found = some (.cluster c) ∧ c.name = name := by
  induction gone generalizing l with
  | nil => cases hmet
  | cons first rest ih =>
    rcases List.mem_cons.mp hmet with hfirst | hrest
    · obtain ⟨rfl, rfl⟩ := Prod.mk.inj hfirst
      cases hx : l.stored? .cluster name with
      | none => exact .inl rfl
      | some x =>
        obtain ⟨hkind, hname⟩ := h _ _ _ hx
        cases x with
        | cluster c => exact .inr ⟨c, rfl, hname⟩
        | _ => cases hkind
    · exact ih (h.forget .cluster first) hrest

theorem digest (m : Mode) (r : Response) (hkind : ∀ x ∈ resources, x.kind = k) :
    (l.digest m r k resources).1.WellKeyed := by
  cases m with
  | complete => exact (h.storeAll hkind).of_store_eq rfl
  | incremental => exact ((h.foldl_storeOne resources).forgetAll k r.removed).of_store_eq rfl

end WellKeyed

end Ledger

end ProxyFleet
