import Mathlib.Data.Option.Basic
import Mathlib.Logic.Basic
import Mathlib.Tactic.ByContra
import ProxyFleet.Proofs.Watch.Wanted
import ProxyFleet.Store.Difference

/-!
# What a difference says

A name is added, removed or changed in a difference if what is found under it in one map does not
agree with what is found in the other: it is in one of the three lists, and which one says in which
of the maps it is. Seen from the other side, what was added is removed.

So there is no difference just between stores that agree on each kind and name; a kind of which
there was no response agrees with one without resources. That is, two stores do not differ if they
are the same once they are `pruned` (`diff_exact`).

Whether two resources are the same is left to a comparison. It may find a resource not the same as
itself, and then a store with this resource differs from itself; but to agree is symmetric and
transitive, whatever the comparison.
-/

namespace ProxyFleet

namespace Comparison

variable {c : Comparison} {found found' found'' : Option Resource} {x y : Resource}

/-- Nothing is found in either place, or the same in both. -/
def Agree (c : Comparison) : Option Resource → Option Resource → Prop :=
  Option.Rel (c.same · · = true)

@[simp] theorem agree_none_none : c.Agree none none := .none

@[simp] theorem not_agree_none_some : ¬c.Agree none (some x) := Option.not_rel_none_some

@[simp] theorem not_agree_some_none : ¬c.Agree (some x) none := Option.not_rel_some_none

@[simp] theorem agree_some_some : c.Agree (some x) (some y) ↔ c.same x y = true :=
  Option.rel_some_some

theorem Agree.symm (h : c.Agree found found') : c.Agree found' found := by
  rcases h with hsame | _
  · exact .some (c.symm hsame)
  · exact .none

theorem Agree.trans (h : c.Agree found found') (h' : c.Agree found' found'') :
    c.Agree found found'' := by
  cases h with
  | some hsame =>
    cases h' with
    | some hsame' => exact .some (c.trans hsame hsame')
  | none => exact h'

theorem isSome_eq_of_agree (h : c.Agree found found') : found.isSome = found'.isSome := by
  rcases h with _ | _ <;> rfl

end Comparison

theorem NameMap.sameBy_iff {c : Comparison} {m n : NameMap Resource} :
    m.sameBy c n = true ↔ ∀ name, c.Agree (m.find? name) (n.find? name) := by
  rw [sameBy, Bool.and_eq_true, decide_eq_true_iff, List.all_eq_true]
  constructor
  · rintro ⟨hnames, hentries⟩ name
    rcases hm : m.find? name with _ | x
    · rcases hn : n.find? name with _ | y
      · exact .none
      · have hname : name ∈ m.names := hnames ▸ mem_names.2 ⟨y, hn⟩
        obtain ⟨x, hx⟩ := mem_names.1 hname
        rw [hm] at hx
        cases hx
    · obtain ⟨y, hn, hsame⟩ := (Option.any_eq_true ..).1
        (hentries (name, x) (find?_eq_some_iff.1 hm))
      rw [hn]
      exact .some hsame
  · intro h
    refine ⟨?_, fun (name, x) he ↦ ?_⟩
    · ext name
      rw [mem_names, mem_names, ← Option.isSome_iff_exists, ← Option.isSome_iff_exists,
        Comparison.isSome_eq_of_agree (h name)]
    · have hagree := h name
      rw [find?_eq_some_iff.2 he] at hagree
      rcases hn : n.find? name with _ | y
      · rw [hn] at hagree
        exact absurd hagree Comparison.not_agree_some_none
      · rw [hn, Comparison.agree_some_some] at hagree
        rw [Option.any_some]
        exact hagree

theorem NameMap.eq_empty_of_agree {c : Comparison} {m : NameMap Resource}
    (h : ∀ name, c.Agree none (m.find? name)) : m = .empty := by
  ext name x
  rw [find?_empty]
  refine iff_of_false (fun hx ↦ ?_) (Option.some_ne_none x).symm
  have hagree := h name
  rw [hx] at hagree
  exact Comparison.not_agree_none_some hagree

namespace KindDifference

variable {c : Comparison} {old new : NameMap Resource} {name : String}

theorem mem_added_between :
    name ∈ (between c old new).added ↔ old.find? name = none ∧ (new.find? name).isSome := by
  rw [between, NameSet.mem_diff, NameMap.mem_names, NameMap.mem_names]
  simp [Option.isSome_iff_exists, Option.eq_none_iff_forall_not_mem, and_comm]

theorem mem_removed_between :
    name ∈ (between c old new).removed ↔ (old.find? name).isSome ∧ new.find? name = none := by
  rw [between, NameSet.mem_diff, NameMap.mem_names, NameMap.mem_names]
  simp [Option.isSome_iff_exists, Option.eq_none_iff_forall_not_mem]

theorem mem_changed_between : name ∈ (between c old new).changed ↔
    ∃ x y, old.find? name = some x ∧ new.find? name = some y ∧ c.same x y = false := by
  rw [between, NameSet.mem_filter, NameMap.mem_names]
  rcases old.find? name with _ | x <;> rcases new.find? name with _ | y <;> simp

/-- Where what is found does not agree, one of the three lists has the name. -/
theorem mem_between_iff : ¬c.Agree (old.find? name) (new.find? name) ↔
    name ∈ (between c old new).added ∨ name ∈ (between c old new).removed ∨
      name ∈ (between c old new).changed := by
  rw [mem_added_between, mem_removed_between, mem_changed_between]
  rcases old.find? name with _ | x <;> rcases new.find? name with _ | y <;> simp

theorem isEmpty_iff {d : KindDifference} :
    d.isEmpty = true ↔ ∀ name, ¬(name ∈ d.added ∨ name ∈ d.removed ∨ name ∈ d.changed) := by
  have hnone : ∀ s : NameSet, s.isEmpty = true ↔ ∀ name, name ∉ s := by
    intro s
    rw [NameSet.isEmpty_iff]
    constructor
    · rintro rfl
      exact NameSet.not_mem_empty
    · intro h
      ext name
      exact iff_of_false (h name) (NameSet.not_mem_empty name)
  rw [isEmpty, Bool.and_eq_true, Bool.and_eq_true, hnone, hnone, hnone, ← forall_and, ← forall_and]
  refine forall_congr' fun name ↦ ?_
  rw [not_or, not_or, and_assoc]

theorem isEmpty_between : (between c old new).isEmpty = true ↔
    ∀ name, c.Agree (old.find? name) (new.find? name) := by
  rw [isEmpty_iff]
  refine forall_congr' fun name ↦ ?_
  rw [← mem_between_iff, not_not]

/-- A difference says exactly how one map differs from another. -/
structure Exact (c : Comparison) (d : KindDifference) (old new : NameMap Resource) : Prop where
  /-- Each list is in order, without repetition. -/
  ordered : ∀ names ∈ [d.added, d.removed, d.changed], names.toList.Pairwise (· < ·)
  /-- No name is in two lists. -/
  disjoint : [d.added, d.removed, d.changed].Pairwise fun s t ↦ ∀ name ∈ s, name ∉ t
  /-- Only the second map has what is added. -/
  added : ∀ name, name ∈ d.added ↔ old.find? name = none ∧ (new.find? name).isSome
  /-- Only the first map has what is removed. -/
  removed : ∀ name, name ∈ d.removed ↔ (old.find? name).isSome ∧ new.find? name = none
  /-- Both have what is changed, and not the same. -/
  changed : ∀ name, name ∈ d.changed ↔
    ∃ x y, old.find? name = some x ∧ new.find? name = some y ∧ c.same x y = false

theorem exact_between (c : Comparison) (old new : NameMap Resource) :
    (between c old new).Exact c old new where
  ordered names _ := names.increasing
  disjoint := by
    -- What is found in the two maps decides which list can have a name.
    have hadded : ∀ name ∈ (between c old new).added,
        name ∉ (between c old new).removed ∧ name ∉ (between c old new).changed := by
      intro name hname
      rw [mem_added_between] at hname
      rw [mem_removed_between, mem_changed_between, hname.1]
      simp
    have hremoved : ∀ name ∈ (between c old new).removed, name ∉ (between c old new).changed := by
      intro name hname
      rw [mem_removed_between] at hname
      rw [mem_changed_between, hname.2]
      simp
    simp only [List.pairwise_cons, List.mem_cons, List.not_mem_nil, or_false, forall_eq_or_imp,
      forall_eq]
    exact ⟨⟨fun name h ↦ (hadded name h).1, fun name h ↦ (hadded name h).2⟩, hremoved, by simp⟩
  added _ := mem_added_between
  removed _ := mem_removed_between
  changed _ := mem_changed_between

/-- The difference as it is seen from the other side. -/
def swap (d : KindDifference) : KindDifference :=
  { added := d.removed, removed := d.added, changed := d.changed }

@[simp] theorem isEmpty_swap (d : KindDifference) : d.swap.isEmpty = d.isEmpty := by
  rw [isEmpty, isEmpty, swap, Bool.and_comm d.removed.isEmpty]

theorem between_swap (c : Comparison) (old new : NameMap Resource) :
    between c new old = (between c old new).swap := by
  rw [swap, between, mk.injEq]
  refine ⟨rfl, rfl, ?_⟩
  ext name
  change name ∈ (between c new old).changed ↔ name ∈ (between c old new).changed
  rw [mem_changed_between, mem_changed_between]
  constructor
  · rintro ⟨x, y, hx, hy, hother⟩
    exact ⟨y, x, hy, hx, by rw [c.same_comm, hother]⟩
  · rintro ⟨x, y, hx, hy, hother⟩
    exact ⟨y, x, hy, hx, by rw [c.same_comm, hother]⟩

end KindDifference

/-- The differences say exactly how one store differs from another. -/
structure StoreDifference.Exact (c : Comparison) (d : StoreDifference) (old new : Store) :
    Prop where
  /-- The kinds that differ in something are those that have an entry. -/
  isSome_iff : ∀ k, (d.cells.get k).isSome ↔ ∃ name, ¬c.Agree (old.find? k name) (new.find? k name)
  /-- And the entry says in what. -/
  entry : ∀ k, ∀ e ∈ d.cells.get k, e.Exact c (old.entries k) (new.entries k)

/-- The differences as they are seen from the other side. -/
def StoreDifference.swap (d : StoreDifference) : StoreDifference :=
  ⟨.ofFn fun k ↦ (d.cells.get k).map KindDifference.swap⟩

namespace Store

variable (c : Comparison) (old new : Store)

theorem get_diff (k : ResourceKind) : (old.diff c new).cells.get k =
    if (KindDifference.between c (old.entries k) (new.entries k)).isEmpty then none
    else some (.between c (old.entries k) (new.entries k)) :=
  PerKind.get_ofFn ..

/-- A kind is left out of a difference just if what is found of it in both stores agrees. -/
theorem get_diff_eq_none_iff (k : ResourceKind) : (old.diff c new).cells.get k = none ↔
    ∀ name, c.Agree (old.find? k name) (new.find? k name) := by
  change _ ↔ ∀ name, c.Agree ((old.entries k).find? name) ((new.entries k).find? name)
  rw [get_diff, ← KindDifference.isEmpty_between]
  simp

variable {c old new} in
theorem isEmpty_diff :
    (old.diff c new).isEmpty = true ↔ ∀ k name, c.Agree (old.find? k name) (new.find? k name) := by
  rw [StoreDifference.isEmpty, decide_eq_true_iff]
  constructor
  · intro h k
    rw [← get_diff_eq_none_iff, h, PerKind.get_const]
  · intro h
    refine PerKind.ext_get fun k ↦ ?_
    rw [PerKind.get_const]
    exact (get_diff_eq_none_iff c old new k).mpr (h k)

theorem exact_diff : (old.diff c new).Exact c old new where
  isSome_iff k := by
    rw [Option.isSome_iff_ne_none, Ne, get_diff_eq_none_iff, not_forall]
  entry k e he := by
    rw [Option.mem_def, get_diff] at he
    split at he
    · cases he
    · cases he
      exact KindDifference.exact_between ..

theorem diff_swap : new.diff c old = (old.diff c new).swap := by
  refine congrArg StoreDifference.mk (PerKind.ext_get fun k ↦ ?_)
  change (new.diff c old).cells.get k = _
  rw [PerKind.get_ofFn, get_diff, get_diff, KindDifference.between_swap c (old.entries k),
    KindDifference.isEmpty_swap]
  split <;> rfl

/-- The store without the kinds of which there are no resources. -/
def pruned (s : Store) : Store := ⟨.ofFn fun k ↦ (s.cells.get k).filter (· ≠ .empty)⟩

theorem get_pruned (s : Store) (k : ResourceKind) :
    s.pruned.cells.get k = if s.entries k = .empty then none else some (s.entries k) := by
  rw [pruned, PerKind.get_ofFn, entries]
  cases s.cells.get k with
  | none => rfl
  | some m => by_cases hm : m = .empty <;> simp [hm]

variable {c old new} in
/-- Stores are the same if of each kind both keep the same, or there was no response in either. -/
theorem same_iff : old.same c new = true ↔
    ∀ k, Option.Rel (·.sameBy c · = true) (old.cells.get k) (new.cells.get k) := by
  rw [same, List.all_eq_true]
  constructor
  · intro h k
    have hkind := h k k.mem_all
    split at hkind
    · next hold hnew =>
      rw [hold, hnew]
      exact .none
    · next hold hnew =>
      rw [hold, hnew]
      exact .some hkind
    · cases hkind
  · intro h k _
    have hkind := h k
    generalize old.cells.get k = held, new.cells.get k = held' at hkind ⊢
    rcases hkind with hsame | _
    · exact hsame
    · rfl

variable {c old new} in
/-- Pruned stores are the same if what is found in the stores agrees. -/
theorem same_pruned_iff : old.pruned.same c new.pruned = true ↔
    ∀ k name, c.Agree (old.find? k name) (new.find? k name) := by
  rw [same_iff]
  refine forall_congr' fun k ↦ ?_
  change _ ↔ ∀ name, c.Agree ((old.entries k).find? name) ((new.entries k).find? name)
  rw [get_pruned, get_pruned]
  by_cases hold : old.entries k = .empty
  · rw [if_pos hold, hold]
    by_cases hnew : new.entries k = .empty
    · rw [if_pos hnew, hnew]
      exact iff_of_true .none fun _ ↦ .none
    · rw [if_neg hnew]
      exact iff_of_false Option.not_rel_none_some (mt NameMap.eq_empty_of_agree hnew)
  · rw [if_neg hold]
    by_cases hnew : new.entries k = .empty
    · rw [if_pos hnew, hnew]
      refine iff_of_false Option.not_rel_some_none fun h ↦ hold ?_
      exact NameMap.eq_empty_of_agree fun name ↦ (h name).symm
    · rw [if_neg hnew, Option.rel_some_some, NameMap.sameBy_iff]

/-- The difference between two stores is exact, whichever resources are held to be the same: a kind
has an entry if and only if something differs in it, and the entry lists in order, once and in one
list each, the names that only the second store has, those that only the first has, and those under
which both have something but not the same. From the other side it is the same with added and
removed exchanged. It is empty if and only if the stores are the same apart from kinds without
resources. -/
theorem diff_exact : (old.diff c new).Exact c old new ∧ new.diff c old = (old.diff c new).swap ∧
    ((old.diff c new).isEmpty = true ↔ old.pruned.same c new.pruned = true) := by
  refine ⟨exact_diff c old new, diff_swap c old new, ?_⟩
  rw [isEmpty_diff, same_pruned_iff]

end Store

end ProxyFleet
