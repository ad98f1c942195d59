import Mathlib.Data.List.Induction
import ProxyFleet.Session.Ledger

/-!
# What a store keeps

What is found in a store after each of its operations, and the same for the store of a ledger, which
may be absent. A ledger without a store keeps nothing, so what an operation adds is found only where
there is one; what it finds was always put there.

Each operation is about one kind, and what it makes of that kind depends on nothing else. The last
section says so: a store is its `cell`s, and an operation is a change of one of them.
-/

namespace ProxyFleet

theorem NameMap.erase_of_find?_eq_none {β : Type*} {m : NameMap β} {name : String}
    (h : m.find? name = none) : m.erase name = m := by
  refine ext_find? fun other ↦ ?_
  rw [find?_erase]
  split
  · next hname => rw [hname, h]
  · rfl

namespace Store

variable (s : Store) {j k : ResourceKind} {name : String}

@[simp] theorem find?_empty : empty.find? k name = none := by
  rw [find?, entries, empty, PerKind.get_const]
  rfl

@[simp] theorem find?_insert (r : Resource) :
    (s.insert r).find? k name = if k = r.kind ∧ name = r.name then some r else s.find? k name := by
  rw [find?, entries, insert, PerKind.get_set]
  by_cases hk : k = r.kind
  · subst hk
    rw [if_pos rfl, Option.getD_some, NameMap.find?_insert, find?]
    simp
  · rw [if_neg hk, if_neg (fun h ↦ hk h.1), find?, entries]

@[simp] theorem find?_erase (gone : String) :
    (s.erase k gone).find? j name = if j = k ∧ name = gone then none else s.find? j name := by
  rw [find?, entries, erase, PerKind.get_set, find?, entries]
  by_cases hk : j = k
  · subst hk
    rw [if_pos rfl]
    cases s.cells.get j with
    | none => simp
    | some m => simp
  · rw [if_neg hk, if_neg (fun h ↦ hk h.1)]

variable {s} in
theorem erase_of_find?_eq_none (h : s.find? k name = none) : s.erase k name = s := by
  have hcell : (s.cells.get k).map (·.erase name) = s.cells.get k := by
    rw [find?, entries] at h
    cases hc : s.cells.get k with
    | none => rfl
    | some m =>
      rw [hc, Option.getD_some] at h
      exact congrArg some (NameMap.erase_of_find?_eq_none h)
  rw [erase, hcell]
  refine congrArg Store.mk (PerKind.ext_get fun j ↦ ?_)
  rw [PerKind.get_set]
  split
  · next hj => rw [hj]
  · rfl

@[simp] theorem find?_replace (resources : List Resource) :
    (s.replace k resources).find? j name =
      if j = k then (byName resources).find? name else s.find? j name := by
  rw [find?, entries, replace, PerKind.get_set]
  by_cases hk : j = k
  · rw [if_pos hk, if_pos hk, Option.getD_some]
  · rw [if_neg hk, if_neg hk, find?, entries]

theorem find?_byName_concat (resources : List Resource) (r : Resource) :
    (byName (resources ++ [r])).find? name =
      if name = r.name then some r else (byName resources).find? name := by
  rw [byName, List.map_append, NameMap.ofList, List.foldl_append]
  exact NameMap.find?_insert

theorem mem_of_find?_byName {resources : List Resource} {r : Resource}
    (h : (byName resources).find? name = some r) : r ∈ resources ∧ r.name = name := by
  induction resources using List.reverseRecOn with
  | nil => cases h
  | append_singleton resources x ih =>
    rw [find?_byName_concat] at h
    by_cases hx : name = x.name
    · rw [if_pos hx] at h
      cases h
      exact ⟨List.mem_append_right _ (List.mem_singleton_self _), hx.symm⟩
    · rw [if_neg hx] at h
      exact ⟨List.mem_append_left _ (ih h).1, (ih h).2⟩

/-- Of resources with different names each is filed under its own. -/
theorem find?_byName_eq_some_iff {resources : List Resource}
    (hunique : (resources.map (·.name)).Nodup) {r : Resource} :
    (byName resources).find? name = some r ↔ r ∈ resources ∧ r.name = name := by
  refine ⟨mem_of_find?_byName, ?_⟩
  rintro ⟨hr, rfl⟩
  induction resources using List.reverseRecOn with
  | nil => cases hr
  | append_singleton resources x ih =>
    rw [List.map_append, List.map_singleton, List.nodup_append] at hunique
    obtain ⟨hbefore, -, hne⟩ := hunique
    rw [find?_byName_concat]
    rcases List.mem_append.mp hr with hr | hr
    · have hx : r.name ≠ x.name :=
        hne r.name (List.mem_map_of_mem hr) x.name (List.mem_singleton_self _)
      rw [if_neg hx]
      exact ih hbefore hr
    · obtain rfl := List.mem_singleton.mp hr
      exact if_pos rfl

end Store

namespace Ledger

variable (l : Ledger) {j k : ResourceKind} {name : String}

@[simp] theorem stored?_new (keepsStore : Bool) : (new keepsStore).stored? k name = none := by
  cases keepsStore with
  | false => rfl
  | true => exact Store.find?_empty

theorem stored?_storeAll {resources : List Resource} {x : Resource}
    (h : (l.storeAll k resources).stored? j name = some x) :
    if j = k then x ∈ resources else l.stored? j name = some x := by
  rw [stored?, storeAll, Option.bind_map, Option.bind_eq_some_iff] at h
  obtain ⟨s, hs, h⟩ := h
  rw [Function.comp_apply, Store.find?_replace] at h
  split
  · next hj =>
    rw [if_pos hj] at h
    exact (Store.mem_of_find?_byName h).1
  · next hj =>
    rw [if_neg hj] at h
    rw [stored?, hs]
    exact h

variable {l}

theorem eq_or_stored?_of_storeOne {r x : Resource} (h : (l.storeOne r).stored? k name = some x) :
    (x = r ∧ x.kind = k ∧ x.name = name) ∨ l.stored? k name = some x := by
  rw [stored?, storeOne, Option.bind_map, Option.bind_eq_some_iff] at h
  obtain ⟨s, hs, h⟩ := h
  rw [Function.comp_apply, Store.find?_insert] at h
  split at h
  · next hsame =>
    obtain rfl := Option.some_inj.mp h
    exact .inl ⟨rfl, hsame.1.symm, hsame.2.symm⟩
  · rw [stored?, hs]
    exact .inr h

theorem stored?_forget (gone : String) :
    (l.forget k gone).stored? j name = if j = k ∧ name = gone then none else l.stored? j name := by
  rw [stored?, forget, stored?]
  cases l.store with
  | none => simp
  | some s => exact s.find?_erase gone

theorem forget_of_stored?_eq_none (h : l.stored? k name = none) : l.forget k name = l := by
  have hstore : l.store.map (·.erase k name) = l.store := by
    rw [stored?] at h
    cases hs : l.store with
    | none => rfl
    | some s =>
      rw [hs, Option.bind_some] at h
      exact congrArg some (Store.erase_of_find?_eq_none h)
  rw [forget, hstore]

variable (l)

/-- What is kept is what is found in the store, where a ledger without one has an empty one. -/
theorem stored?_eq_find?_responses : l.stored? k name = l.responses.find? k name := by
  rw [stored?, responses]
  cases l.store with
  | none => exact Store.find?_empty.symm
  | some s => rfl

variable {l}

theorem stored?_storeOne (hstore : l.store.isSome) (r : Resource) :
    (l.storeOne r).stored? k name =
      if k = r.kind ∧ name = r.name then some r else l.stored? k name := by
  obtain ⟨s, hs⟩ := Option.isSome_iff_exists.mp hstore
  rw [stored?, storeOne, stored?, hs]
  exact s.find?_insert r

theorem isSome_store_foldl_storeOne (resources : List Resource) :
    (resources.foldl storeOne l).store.isSome = l.store.isSome := by
  induction resources generalizing l with
  | nil => rfl
  | cons r rest ih => exact ih.trans Option.isSome_map

/-- Of resources that come in one after the other the last one of a kind and a name is kept. -/
theorem stored?_foldl_storeOne (hstore : l.store.isSome) (resources : List Resource) :
    (resources.foldl storeOne l).stored? k name =
      (resources.reverse.find? fun r ↦ k = r.kind ∧ name = r.name).or (l.stored? k name) := by
  induction resources using List.reverseRecOn with
  | nil => rfl
  | append_singleton resources r ih =>
    rw [List.foldl_append, List.foldl_cons, List.foldl_nil,
      stored?_storeOne ((isSome_store_foldl_storeOne resources).trans hstore), ih,
      List.reverse_append, List.reverse_singleton, List.singleton_append, List.find?_cons]
    by_cases h : k = r.kind ∧ name = r.name
    · rw [if_pos h, decide_eq_true h]
      rfl
    · rw [if_neg h, decide_eq_false h]

theorem isSome_store_forgetAll (gone : List String) :
    (l.forgetAll k gone).1.store.isSome = l.store.isSome := by
  induction gone generalizing l with
  | nil => rfl
  | cons first rest ih => exact ih.trans Option.isSome_map

theorem stored?_forgetAll (gone : List String) : (l.forgetAll k gone).1.stored? j name =
    if j = k ∧ name ∈ gone then none else l.stored? j name := by
  induction gone generalizing l with
  | nil => simp [forgetAll]
  | cons first rest ih =>
    refine ih.trans ?_
    rw [stored?_forget]
    by_cases hj : j = k <;> by_cases hfirst : name = first <;> simp [hj, hfirst]

/-! ## Kind by kind -/

variable (l)

/-- What is kept of a kind, if the ledger keeps anything. -/
def cell (k : ResourceKind) : Option (Option (NameMap Resource)) := l.store.map (·.cells.get k)

theorem stored?_eq_cell (k : ResourceKind) (name : String) :
    l.stored? k name = (l.cell k).bind fun c ↦ (c.getD .empty).find? name := by
  rw [stored?, cell]
  cases l.store <;> rfl

theorem store_eq_of_cell {l l' : Ledger} (h : ∀ k, l.cell k = l'.cell k) : l.store = l'.store := by
  simp only [cell] at h
  cases hs : l.store with
  | none =>
    have hnone := h .cluster
    rw [hs] at hnone
    exact (Option.map_eq_none_iff.mp hnone.symm).symm
  | some t =>
    rw [hs] at h
    obtain ⟨t', hs', -⟩ := Option.map_eq_some_iff.mp (h .cluster).symm
    rw [hs'] at h ⊢
    cases t
    cases t'
    exact congrArg (some ∘ Store.mk) (PerKind.ext_get fun k ↦ Option.some_inj.mp (h k))

variable (j k)

theorem cell_storeAll (resources : List Resource) : (l.storeAll k resources).cell j =
    (l.cell j).map fun c ↦ if j = k then some (Store.byName resources) else c := by
  rw [cell, cell, storeAll, Option.map_map, Option.map_map]
  exact Option.map_congr fun s _ ↦ PerKind.get_set ..

theorem cell_storeOne (x : Resource) : (l.storeOne x).cell j =
    (l.cell j).map fun c ↦ if j = x.kind then some ((c.getD .empty).insert x.name x) else c := by
  rw [cell, cell, storeOne, Option.map_map, Option.map_map]
  refine Option.map_congr fun s _ ↦ (PerKind.get_set ..).trans ?_
  by_cases h : j = x.kind
  · rw [if_pos h, Function.comp_apply, if_pos h, h]; rfl
  · rw [if_neg h, Function.comp_apply, if_neg h]

theorem cell_forget (name : String) : (l.forget k name).cell j =
    (l.cell j).map fun c ↦ if j = k then c.map (·.erase name) else c := by
  rw [cell, cell, forget, Option.map_map, Option.map_map]
  refine Option.map_congr fun s _ ↦ (PerKind.get_set ..).trans ?_
  by_cases h : j = k
  · rw [if_pos h, Function.comp_apply, if_pos h, h]
  · rw [if_neg h, Function.comp_apply, if_neg h]

end Ledger

end ProxyFleet
