import Mathlib.Algebra.Order.BigOperators.Group.List
import Mathlib.Algebra.Order.Group.Nat
import ProxyFleet.Fleet.Report
import ProxyFleet.Proofs.Store.Difference

/-!
# Reports do not depend on the order of outcomes

The slots of a fleet finish in any order, and a report takes the outcomes as they come. It counts
and adds up, which is the same in any order. Two of its parts look as if they were not. To see
whether all slots kept the same only the first store is compared with the others; but to differ in
nothing is symmetric and transitive, so no two stores differ if none differs from the first. (It
need not be reflexive, and a store is not compared with itself.) And the average is worked out on
seconds and nanoseconds apart, within their ranges; but as long as all the time together is a
duration, it is the average of the nanoseconds, rounded down.
-/

namespace ProxyFleet

namespace FleetReport

/-! ## Whether all stores are the same -/

section

variable {c : Comparison} {stores others : List Store}

theorem consistency_eq_none_iff : consistency c stores = none ↔ stores = [] := by
  cases stores with
  | nil => exact iff_of_true rfl rfl
  | cons first rest => exact iff_of_false (Option.some_ne_none _) (List.cons_ne_nil _ _)

/-- Neither of two stores has what the other has not, or not the same. -/
def SameEntries (c : Comparison) (s t : Store) : Prop :=
  (s.diff c t).isEmpty = true ∧ (t.diff c s).isEmpty = true

theorem SameEntries.symm {s t : Store} (h : SameEntries c s t) : SameEntries c t s := And.symm h

theorem sameEntries_iff {s t : Store} : SameEntries c s t ↔ (s.diff c t).isEmpty = true := by
  refine and_iff_left_of_imp fun h ↦ ?_
  rw [Store.isEmpty_diff] at h ⊢
  exact fun k name ↦ (h k name).symm

/-- If the first store differs from no other, no two stores differ: any two are compared by way of
the first. -/
theorem consistency_eq_some_true_iff :
    consistency c stores = some true ↔ stores ≠ [] ∧ stores.Pairwise (SameEntries c) := by
  cases stores with
  | nil => exact iff_of_false (Option.some_ne_none _).symm fun h ↦ h.1 rfl
  | cons first rest =>
    rw [consistency, Option.some_inj, List.all_eq_true, and_iff_right (List.cons_ne_nil _ _),
      List.pairwise_cons]
    simp only [sameEntries_iff]
    refine (and_iff_left_of_imp fun h ↦ ?_).symm
    refine List.pairwise_of_forall_mem_list fun s hs t ht ↦ ?_
    have hfirst := Store.isEmpty_diff.mp (h s hs)
    have hsecond := Store.isEmpty_diff.mp (h t ht)
    exact sameEntries_iff.mpr
      (Store.isEmpty_diff.mpr fun k name ↦ (hfirst k name).symm.trans (hsecond k name))

theorem consistency_perm (h : others.Perm stores) :
    consistency c others = consistency c stores := by
  have hempty : others = [] ↔ stores = [] := by
    rw [← List.perm_nil, ← List.perm_nil]
    exact ⟨h.symm.trans, h.trans⟩
  have hnone : consistency c others = none ↔ consistency c stores = none := by
    rw [consistency_eq_none_iff, consistency_eq_none_iff, hempty]
  have htrue : consistency c others = some true ↔ consistency c stores = some true := by
    rw [consistency_eq_some_true_iff, consistency_eq_some_true_iff, ne_eq, ne_eq, hempty,
      h.pairwise_iff SameEntries.symm]
  revert hnone htrue
  rcases consistency c others with _ | _ | _ <;> rcases consistency c stores with _ | _ | _ <;> simp

end

/-! ## Times -/

section

variable {times others : List Nat}

theorem total_perm (h : others.Perm times) : total others = total times :=
  h.foldl_eq' (fun _ _ _ _ _ ↦ Nat.add_right_comm ..) 0

theorem le_total_of_mem {nanos : Nat} (h : nanos ∈ times) : nanos ≤ total times := by
  have hle := List.le_sum_of_mem h
  rwa [List.sum_eq_foldl] at hle

theorem least_le_average {least : Nat} (h : times.min? = some least) :
    least ≤ total times / times.length := by
  have hle := List.le_sum_div_length_of_min?_eq_some_nat h
  rwa [List.sum_eq_foldl] at hle

theorem average_le_greatest {greatest : Nat} (h : times.max? = some greatest) :
    total times / times.length ≤ greatest := by
  have hle := List.sum_div_length_le_max_of_max?_eq_some_nat h
  rwa [List.sum_eq_foldl] at hle

theorem mapM_ofNanos? (h : ∀ nanos ∈ times, nanos < Duration.limit) :
    ∃ durations, times.mapM Duration.ofNanos? = some durations ∧
      durations.map Duration.toNanos = times := by
  induction times with
  | nil => exact ⟨[], rfl, rfl⟩
  | cons nanos rest ih =>
    obtain ⟨durations, hdurations, hrest⟩ := ih fun t ht ↦ h t (List.mem_cons_of_mem _ ht)
    have hnanos := Duration.map_toNanos_ofNanos? nanos
    rw [if_pos (h nanos List.mem_cons_self), Option.map_eq_some_iff] at hnanos
    obtain ⟨d, hd, hfirst⟩ := hnanos
    refine ⟨d :: durations, ?_, by rw [List.map_cons, hfirst, hrest]⟩
    rw [List.mapM_cons, hd, hdurations]
    rfl

/-- As long as all the time together is a duration and there are not too many times to count, the
average is that of the nanoseconds, rounded down. -/
theorem averageOf_eq (hne : times ≠ []) (hsum : total times < Duration.limit)
    (hlength : times.length < UInt32.size) :
    averageOf times = some (total times / times.length) := by
  have hrange : ∀ nanos ∈ times, nanos < Duration.limit := fun nanos hnanos ↦
    Nat.lt_of_le_of_lt (le_total_of_mem hnanos) hsum
  obtain ⟨durations, hdurations, htimes⟩ := mapM_ofNanos? hrange
  have hempty : ¬ times.isEmpty := mt List.isEmpty_iff.mp hne
  -- Their number is not cut off, so it is not zero either.
  have htoNat : (UInt32.ofNat times.length).toNat = times.length :=
    UInt32.toNat_ofNat_of_lt' hlength
  have hcount : UInt32.ofNat times.length ≠ 0 := by
    intro h
    rw [h] at htoNat
    exact hne (List.length_eq_zero_iff.mp htoNat.symm)
  have htotal : durations.foldl (· + ·.toNanos) 0 = total times := by
    rw [total, ← htimes, List.foldl_map]
  have hsum? := Duration.map_toNanos_sum? durations
  rw [htotal, if_pos hsum, Option.map_eq_some_iff] at hsum?
  obtain ⟨sum, hsum?, hnanos⟩ := hsum?
  have haverage := sum.map_toNanos_divide? hcount
  rw [hnanos, htoNat] at haverage
  rw [averageOf, if_neg hempty, hdurations]
  change (Duration.sum? durations).bind _ = _
  rw [hsum?, Option.bind_some, ← haverage]
  cases sum.divide? (.ofNat times.length) <;> rfl

theorem averageOf_perm (h : others.Perm times) (hsum : total times < Duration.limit)
    (hlength : times.length < UInt32.size) : averageOf others = averageOf times := by
  by_cases hne : times = []
  · rw [hne] at h ⊢
    rw [List.perm_nil.mp h]
  · have hne' : others ≠ [] := by
      rintro rfl
      exact hne (List.nil_perm.mp h)
    rw [averageOf_eq hne hsum hlength,
      averageOf_eq hne' ((total_perm h).symm ▸ hsum) (h.length_eq.symm ▸ hlength), total_perm h,
      h.length_eq]

theorem min?_perm (h : others.Perm times) : others.min? = times.min? := by
  refine Option.ext fun least ↦ ?_
  rw [List.min?_eq_some_iff, List.min?_eq_some_iff]
  simp only [h.mem_iff]

theorem max?_perm (h : others.Perm times) : others.max? = times.max? := by
  refine Option.ext fun greatest ↦ ?_
  rw [List.max?_eq_some_iff, List.max?_eq_some_iff]
  simp only [h.mem_iff]

end

/-! ## Reports -/

def times (outcomes : List SlotOutcome) : List Nat := outcomes.filterMap (·.convergence)

def stores (outcomes : List SlotOutcome) : List Store := outcomes.filterMap (·.kept)

/-- What a report says of outcomes, without regard to their order. -/
structure Summarizes (c : Comparison) (r : FleetReport) (outcomes : List SlotOutcome) : Prop where
  /-- The slots that converged are those that have a time. -/
  converged : r.converged = (times outcomes).length
  /-- There is nothing to compare if no slot kept a store. -/
  consistent_eq_none_iff : r.consistent = none ↔ ∀ o ∈ outcomes, o.kept = none
  /-- All is consistent if some slot kept a store and no two stores differ. -/
  consistent_eq_true_iff : r.consistent = some true ↔
    (∃ o ∈ outcomes, o.kept ≠ none) ∧
      (stores outcomes).Pairwise fun s t ↦
        (s.diff c t).isEmpty = true ∧ (t.diff c s).isEmpty = true
  /-- There are no times if no slot converged. -/
  absent : r.converged = 0 → r.least = none ∧ r.average = none ∧ r.greatest = none
  /-- Otherwise there are all three, in order, and the one between is all the time together divided
  by the slots that converged, rounded down. -/
  present : 0 < r.converged → ∃ least average greatest,
    r.least = some least ∧ r.average = some average ∧ r.greatest = some greatest ∧
      least ≤ average ∧ average ≤ greatest ∧ average = total (times outcomes) / r.converged

section

variable (c : Comparison) (sessions : Nat) {outcomes others : List SlotOutcome}

theorem stores_eq_nil_iff : stores outcomes = [] ↔ ∀ o ∈ outcomes, o.kept = none :=
  List.filterMap_eq_nil_iff

theorem length_times_le : (times outcomes).length ≤ outcomes.length := List.length_filterMap_le ..

theorem average_ofOutcomes (hcount : outcomes.length < UInt32.size)
    (hsum : total (times outcomes) < Duration.limit) (hne : times outcomes ≠ []) :
    (ofOutcomes c sessions outcomes).average =
      some (total (times outcomes) / (times outcomes).length) :=
  averageOf_eq hne hsum (Nat.lt_of_le_of_lt length_times_le hcount)

theorem summarizes_ofOutcomes (hcount : outcomes.length < UInt32.size)
    (hsum : total (times outcomes) < Duration.limit) :
    Summarizes c (ofOutcomes c sessions outcomes) outcomes where
  converged := rfl
  consistent_eq_none_iff := consistency_eq_none_iff.trans stores_eq_nil_iff
  consistent_eq_true_iff := by
    refine consistency_eq_some_true_iff.trans (and_congr_left' ?_)
    rw [ne_eq, ← stores, stores_eq_nil_iff]
    simp
  absent hnone := by
    have htimes : times outcomes = [] := List.length_eq_zero_iff.mp hnone
    rw [ofOutcomes, ← times, htimes]
    exact ⟨rfl, rfl, rfl⟩
  present hsome := by
    have hne : times outcomes ≠ [] := List.length_pos_iff.mp hsome
    obtain ⟨least, hleast⟩ := Option.isSome_iff_exists.mp (List.isSome_min?_of_ne_nil hne)
    obtain ⟨greatest, hgreatest⟩ := Option.isSome_iff_exists.mp (List.isSome_max?_of_ne_nil hne)
    exact ⟨least, _, greatest, hleast, average_ofOutcomes c sessions hcount hsum hne, hgreatest,
      least_le_average hleast, average_le_greatest hgreatest, rfl⟩

/-- As long as there are at most a hundred thousand outcomes, and all their times together are a
duration, their report is the same in whatever order they come. It says whether any slot kept a
store and whether any two stores differ, and if some slot converged, the least, the average and the
greatest time, where the average is exact but for rounding down and lies between the others. -/
theorem ofOutcomes_perm (hperm : others.Perm outcomes) (hcount : outcomes.length ≤ 100000)
    (hsum : total (times outcomes) < Duration.limit) :
    ofOutcomes c sessions others = ofOutcomes c sessions outcomes ∧
      Summarizes c (ofOutcomes c sessions outcomes) outcomes := by
  have hcount : outcomes.length < UInt32.size := Nat.lt_of_le_of_lt hcount (by decide)
  refine ⟨?_, summarizes_ofOutcomes c sessions hcount hsum⟩
  have htimes : (times others).Perm (times outcomes) := hperm.filterMap _
  have haverage : averageOf (times others) = averageOf (times outcomes) :=
    averageOf_perm htimes hsum (Nat.lt_of_le_of_lt length_times_le hcount)
  rw [ofOutcomes, ofOutcomes, ← times, ← times, ← stores, ← stores, mk.injEq]
  refine ⟨rfl, hperm.countP_eq _, htimes.length_eq, hperm.countP_eq _, total_perm (hperm.map _),
    min?_perm htimes, haverage, max?_perm htimes, consistency_perm (hperm.filterMap _)⟩

/-- Three slots that converged, one of them late, and two that gave up. -/
def lateSlots : List SlotOutcome :=
  [{ started := true, convergence := some 1000000000, kept := some .empty },
    { error := some "refused" },
    { started := true, reconnects := 2, convergence := some 1,
      kept := some (Store.empty.replace .cluster []) },
    { started := true, convergence := some 1 },
    .brokenDown]

/-- A third of a second is rounded down once, although its parts are divided apart; and a response
without resources is no difference. -/
theorem ofOutcomes_perm_lateSlots :
    ofOutcomes .ofMessages 5 lateSlots.reverse = ofOutcomes .ofMessages 5 lateSlots ∧
      (ofOutcomes .ofMessages 5 lateSlots.reverse).average = some 333333334 ∧
      (ofOutcomes .ofMessages 5 lateSlots.reverse).consistent = some true := by
  obtain ⟨hsame, hsummary⟩ := ofOutcomes_perm .ofMessages 5 (List.reverse_perm lateSlots)
    (by decide)
    (by decide)
  refine ⟨hsame, ?_, ?_⟩
  · obtain ⟨_, average, _, -, haverage, -, -, -, hexact⟩ := hsummary.present (by decide)
    rw [hsame, haverage, hexact]
    rfl
  · rw [hsame, hsummary.consistent_eq_true_iff]
    decide +kernel

end

end FleetReport

end ProxyFleet
