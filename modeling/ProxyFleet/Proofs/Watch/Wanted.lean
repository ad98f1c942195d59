import Mathlib.Data.List.Perm.Subperm
import ProxyFleet.Watch.Table

/-!
# What the operations on subscriptions want

Each operation of a `WatchTable` through two views: `names`, in which a kind without an entry and
one that wants nothing are the same, and `wanted?`, which tells them apart. After this file nobody
opens an operation.

The names are one part of an entry. The others are that it is there, `begun`, and the `mark` of the
last response; an operation writes one part and begins the entry if there is none. A table is known
by the three parts.

`update` and `recordAck` begin an entry where there is none, `differs` looks at the names only. So
the first view is the one in which a subscription is compared with what resources need, and the
second the one in which it is compared with what was asked for on the wire.
-/

namespace ProxyFleet

@[simp] theorem NameSet.ofList_toList (s : NameSet) : NameSet.ofList s.toList = s := by
  ext x
  rw [NameSet.mem_ofList, NameSet.mem_toList]

theorem NameSet.isEmpty_iff {s : NameSet} : s.isEmpty = true ↔ s = .empty := by
  rw [isEmpty, List.isEmpty_iff]
  constructor
  · intro h
    ext x
    rw [← mem_toList, h]
    exact Iff.rfl
  · rintro rfl
    rfl

/-- Of two sets as large as each other, neither lies properly within the other. -/
theorem NameSet.eq_of_subset_of_size_eq {s t : NameSet} (hsubset : ∀ x ∈ s, x ∈ t)
    (hsize : s.size = t.size) : s = t := by
  have hnodup : s.toList.Nodup := Text.nodup_of_increasing id s.increasing
  have hperm : s.toList.Perm t.toList :=
    (hnodup.subperm hsubset).perm_of_length_le (Nat.le_of_eq hsize.symm)
  ext x
  exact hperm.mem_iff

namespace WatchTable

variable (t : WatchTable) (j k : ResourceKind)

/-- The wanted names of a kind, if there is a subscription to it. -/
def wanted? : Option NameSet := (t.find? k).map (·.names)

theorem names_eq_getD : t.names k = (t.wanted? k).getD .empty := by
  rw [names, wanted?]
  cases t.find? k <;> rfl

@[simp] theorem find?_empty : empty.find? k = none := PerKind.get_const _ k

@[simp] theorem wanted?_empty : empty.wanted? k = none := by rw [wanted?, find?_empty]; rfl

@[simp] theorem names_empty : empty.names k = .empty := by rw [names_eq_getD, wanted?_empty]; rfl

theorem find?_modify (f : Watch → Watch) :
    (t.modify k f).find? j = if j = k then some (f ((t.find? k).getD {})) else t.find? j :=
  PerKind.get_set ..

theorem names_eq_getD_find? : t.names k = ((t.find? k).getD {}).names := by
  rw [names]
  cases t.find? k <;> rfl

variable {t k} in
theorem names_of_none (hw : t.find? k = none) : t.names k = .empty := by rw [names, hw]

variable {t k} in
theorem names_of_some {w : Watch} (hw : t.find? k = some w) : t.names k = w.names := by
  rw [names, hw]

theorem names_modify_names (f : NameSet → NameSet) :
    (t.modify k fun w ↦ { w with names := f w.names }).names j =
      if j = k then f (t.names k) else t.names j := by
  rw [names_eq_getD_find?, find?_modify]
  by_cases h : j = k
  · rw [if_pos h, if_pos h, names_eq_getD_find?]; rfl
  · rw [if_neg h, if_neg h, ← names_eq_getD_find?]

/-! ## Entries and their names -/

@[simp] theorem wanted?_update (names : List String) :
    (t.update k names).wanted? j = if j = k then some (.ofList names) else t.wanted? j := by
  rw [wanted?, update, find?_modify]
  by_cases h : j = k
  · rw [if_pos h, if_pos h]; rfl
  · rw [if_neg h, if_neg h, wanted?]

/-- An acknowledgement leaves the names alone, but a kind without an entry gets one. -/
@[simp] theorem wanted?_recordAck (nonce version : String) :
    (t.recordAck k nonce version).wanted? j = if j = k then some (t.names k) else t.wanted? j := by
  rw [wanted?, recordAck, find?_modify]
  by_cases h : j = k
  · rw [if_pos h, if_pos h, names]
    cases t.find? k <;> rfl
  · rw [if_neg h, if_neg h, wanted?]

@[simp] theorem names_update (names : List String) :
    (t.update k names).names j = if j = k then .ofList names else t.names j := by
  rw [names_eq_getD, names_eq_getD, wanted?_update]
  by_cases h : j = k
  · rw [if_pos h, if_pos h]; rfl
  · rw [if_neg h, if_neg h]

@[simp] theorem names_recordAck (nonce version : String) :
    (t.recordAck k nonce version).names j = t.names j := by
  rw [names_eq_getD, wanted?_recordAck]
  by_cases h : j = k
  · rw [if_pos h, h]; rfl
  · rw [if_neg h, names_eq_getD]

/-- To count the listed names, and to look for each of them among the wanted ones, is to compare the
sets. -/
theorem differs_eq (names : List String) :
    t.differs k names = decide (NameSet.ofList names ≠ t.names k) := by
  rw [Bool.eq_iff_iff, decide_eq_true_iff]
  rcases hw : t.find? k with _ | w
  · rw [differs, hw, names_of_none hw, Bool.not_eq_true', ← Bool.not_eq_true, NameSet.isEmpty_iff]
  · rw [differs, hw, names_of_some hw, Bool.or_eq_true, decide_eq_true_iff, List.any_eq_true]
    constructor
    · rintro (hsize | ⟨x, hx, hout⟩) hsame
      · exact hsize (congrArg NameSet.size hsame)
      · exact of_decide_eq_true hout (hsame ▸ hx)
    · intro hother
      by_contra hneither
      obtain ⟨hsize, hinside⟩ := not_or.mp hneither
      refine hother (NameSet.eq_of_subset_of_size_eq ?_ (not_ne_iff.mp hsize))
      intro x hx
      by_contra hout
      exact hinside ⟨x, hx, decide_eq_true hout⟩

@[simp] theorem differs_eq_true_iff (names : List String) :
    t.differs k names = true ↔ NameSet.ofList names ≠ t.names k := by
  rw [differs_eq, decide_eq_true_iff]

/-! ## Names that come and go -/

variable {t j k}

theorem names_subscribe {names : List String} :
    (t.subscribe k names).2.names j =
      if j = k then (NameSet.sift NameSet.add names (t.names k)).2 else t.names j :=
  t.names_modify_names j k fun _ ↦ (NameSet.sift NameSet.add names (t.names k)).2

theorem mem_names_subscribe {names : List String} {x : String} :
    x ∈ (t.subscribe k names).2.names j ↔ x ∈ t.names j ∨ j = k ∧ x ∈ names := by
  rw [names_subscribe]
  by_cases h : j = k
  · subst h
    rw [if_pos rfl, NameSet.settles_add.mem_sift_snd]
    by_cases hx : x ∈ names <;> simp [hx]
  · simp [h]

theorem unsubscribe_of_none (hw : t.find? k = none) (names : List String) :
    t.unsubscribe k names = (.empty, t) := by
  rw [unsubscribe, hw]

theorem unsubscribe_of_some {w : Watch} (hw : t.find? k = some w) (names : List String) :
    t.unsubscribe k names =
      (.ofList (NameSet.sift NameSet.remove names w.names).1,
      t.modify k fun w' ↦ { w' with names := (NameSet.sift NameSet.remove names w.names).2 }) := by
  rw [unsubscribe, hw]

theorem mem_names_unsubscribe {names : List String} {x : String} :
    x ∈ (t.unsubscribe k names).2.names j ↔ x ∈ t.names j ∧ ¬(j = k ∧ x ∈ names) := by
  cases hw : t.find? k with
  | none =>
    -- A kind without an entry wants nothing, so there is nothing to take out.
    rw [unsubscribe_of_none hw]
    refine ⟨fun hx ↦ ⟨hx, ?_⟩, And.left⟩
    rintro ⟨rfl, -⟩
    rw [names_of_none hw] at hx
    exact NameSet.not_mem_empty x hx
  | some w =>
    rw [unsubscribe_of_some hw,
      t.names_modify_names j k fun _ ↦ (NameSet.sift NameSet.remove names w.names).2]
    by_cases h : j = k
    · subst h
      rw [if_pos rfl, NameSet.settles_remove.mem_sift_snd, names_of_some hw]
      by_cases hx : x ∈ names <;> simp [hx]
    · simp [h]

theorem mem_subscribe_fst {names : List String} {x : String} :
    x ∈ (t.subscribe k names).1 ↔ x ∈ names ∧ x ∉ t.names k := by
  rw [subscribe, NameSet.mem_ofList, NameSet.settles_add.mem_sift_fst, iff_true]

theorem unsubscribe_fst (names : List String) :
    (t.unsubscribe k names).1 = .ofList (NameSet.sift NameSet.remove names (t.names k)).1 := by
  cases hw : t.find? k with
  | none =>
    rw [unsubscribe_of_none hw, names_of_none hw]
    ext x
    rw [NameSet.mem_ofList, NameSet.settles_remove.mem_sift_fst]
    simp [NameSet.not_mem_empty]
  | some w => rw [unsubscribe_of_some hw, names_of_some hw]

theorem mem_unsubscribe_fst {names : List String} {x : String} :
    x ∈ (t.unsubscribe k names).1 ↔ x ∈ names ∧ x ∈ t.names k := by
  rw [unsubscribe_fst, NameSet.mem_ofList, NameSet.settles_remove.mem_sift_fst, iff_false, not_not]

theorem find?_subscribe_of_ne (h : j ≠ k) (names : List String) :
    (t.subscribe k names).2.find? j = t.find? j := by
  rw [subscribe, find?_modify, if_neg h]

theorem find?_unsubscribe_of_ne (h : j ≠ k) (names : List String) :
    (t.unsubscribe k names).2.find? j = t.find? j := by
  cases hw : t.find? k with
  | none => rw [unsubscribe_of_none hw]
  | some w => rw [unsubscribe_of_some hw, find?_modify, if_neg h]

/-! ## The parts of an entry -/

variable (t j k)

/-- Whether there is a subscription to a kind. -/
def begun : Bool := (t.find? k).isSome

/-- The nonce and the version of the last response of a kind, blank if there was none. -/
def mark : String × String :=
  (((t.find? k).getD {}).lastNonce, ((t.find? k).getD {}).lastVersion)

theorem ext_parts {t t' : WatchTable} (hbegun : ∀ k, t.begun k = t'.begun k)
    (hnames : ∀ k, t.names k = t'.names k) (hmark : ∀ k, t.mark k = t'.mark k) : t = t' := by
  have hfind : ∀ k, t.find? k = t'.find? k := by
    intro k
    have hb := hbegun k
    have hn := hnames k
    have hm := hmark k
    rw [begun, begun] at hb
    rw [names_eq_getD_find?, names_eq_getD_find?] at hn
    rw [mark, mark, Prod.mk.injEq] at hm
    cases hw : t.find? k with
    | none =>
      cases hw' : t'.find? k with
      | none => rfl
      | some w' => rw [hw, hw'] at hb; cases hb
    | some w =>
      cases hw' : t'.find? k with
      | none => rw [hw, hw'] at hb; cases hb
      | some w' =>
        rw [hw, hw'] at hn hm
        cases w
        cases w'
        cases hn
        cases hm.1
        cases hm.2
        rfl
  cases t
  cases t'
  exact congrArg mk (PerKind.ext_get hfind)

@[simp] theorem begun_modify (f : Watch → Watch) :
    (t.modify k f).begun j = (t.begun j || j = k) := by
  rw [begun, find?_modify]
  by_cases h : j = k
  · rw [if_pos h, decide_eq_true h, Bool.or_true]; rfl
  · rw [if_neg h, decide_eq_false h, Bool.or_false, begun]

@[simp] theorem begun_update (names : List String) :
    (t.update k names).begun j = (t.begun j || j = k) := begun_modify ..

@[simp] theorem begun_recordAck (nonce version : String) :
    (t.recordAck k nonce version).begun j = (t.begun j || j = k) := begun_modify ..

@[simp] theorem begun_subscribe (names : List String) :
    (t.subscribe k names).2.begun j = (t.begun j || j = k) := begun_modify ..

/-- Names are given up only where a subscription is, and it stays. -/
@[simp] theorem begun_unsubscribe (names : List String) :
    (t.unsubscribe k names).2.begun j = t.begun j := by
  cases hw : t.find? k with
  | none => rw [unsubscribe_of_none hw]
  | some w =>
    have hbegun : t.begun k = true := by rw [begun, hw]; rfl
    rw [unsubscribe_of_some hw, begun_modify]
    by_cases h : j = k
    · rw [h, hbegun, Bool.true_or]
    · rw [decide_eq_false h, Bool.or_false]

/-- What changes only the names leaves the marks alone. -/
theorem mark_modify_names (f : NameSet → NameSet) :
    (t.modify k fun w ↦ { w with names := f w.names }).mark j = t.mark j := by
  rw [mark, find?_modify]
  by_cases h : j = k
  · rw [if_pos h, h]; rfl
  · rw [if_neg h, mark]

@[simp] theorem mark_update (names : List String) : (t.update k names).mark j = t.mark j :=
  t.mark_modify_names j k fun _ ↦ .ofList names

@[simp] theorem mark_subscribe (names : List String) :
    (t.subscribe k names).2.mark j = t.mark j :=
  t.mark_modify_names j k fun _ ↦ (NameSet.sift NameSet.add names (t.names k)).2

@[simp] theorem mark_unsubscribe (names : List String) :
    (t.unsubscribe k names).2.mark j = t.mark j := by
  cases hw : t.find? k with
  | none => rw [unsubscribe_of_none hw]
  | some w =>
    rw [unsubscribe_of_some hw]
    exact t.mark_modify_names j k fun _ ↦ (NameSet.sift NameSet.remove names w.names).2

@[simp] theorem mark_recordAck (nonce version : String) :
    (t.recordAck k nonce version).mark j = if j = k then (nonce, version) else t.mark j := by
  rw [mark, recordAck, find?_modify]
  by_cases h : j = k
  · rw [if_pos h, if_pos h]; rfl
  · rw [if_neg h, if_neg h, mark]

variable {t k}

/-- Only wanted names are given up, so others may be listed or not. -/
theorem unsubscribe_congr {names names' : List String}
    (h : ∀ x ∈ t.names k, x ∈ names ↔ x ∈ names') :
    t.unsubscribe k names = t.unsubscribe k names' := by
  refine Prod.ext ?_ (ext_parts ?_ ?_ ?_)
  · ext x
    rw [mem_unsubscribe_fst, mem_unsubscribe_fst]
    exact and_congr_left (h x)
  · intro j
    rw [begun_unsubscribe, begun_unsubscribe]
  · intro j
    ext x
    rw [mem_names_unsubscribe, mem_names_unsubscribe]
    refine and_congr_right fun hx ↦ not_congr (and_congr_right ?_)
    rintro rfl
    exact h x hx
  · intro j
    rw [mark_unsubscribe, mark_unsubscribe]

end WatchTable

end ProxyFleet
