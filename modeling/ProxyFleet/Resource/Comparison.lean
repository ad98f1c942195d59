import ProxyFleet.Resource.Basic

/-!
# Comparing resources

Resources are compared message by message and field by field, and doubles as the numbers that they
are. So a resource with something in it that is no number is not the same as itself, and one that is
made of other bits may be the same.

A `Comparison` is what all of this comes to for those who only ask what is the same: it tells the
same from both sides, and what is the same as the same thing is the same. A message has more fields
than are listed with its type here, so resources may be the same here that differ as whole messages;
no more is used of a comparison than holds of that of whole messages too.
-/

namespace ProxyFleet

universe u

instance partialEquivBEqOption {α : Type u} [BEq α] [PartialEquivBEq α] :
    PartialEquivBEq (Option α) where
  symm {a b} h := by
    cases a <;> cases b <;> simp_all [BEq.comm]
  trans {a b c} h h' := by
    cases a <;> cases b <;> cases c <;> simp_all
    exact BEq.trans h h'

instance : PartialEquivBEq Percent where
  symm {p q} (h : (p.value == q.value) = true) := (BEq.symm h : (q.value == p.value) = true)
  trans {p q r} (h : (p.value == q.value) = true) (h' : (q.value == r.value) = true) :=
    (BEq.trans h h' : (p.value == r.value) = true)

instance : PartialEquivBEq BalancingSettings where
  symm {s t} (h : (s.panicThreshold == t.panicThreshold) = true) :=
    (BEq.symm h : (t.panicThreshold == s.panicThreshold) = true)
  trans {s t u} (h : (s.panicThreshold == t.panicThreshold) = true)
      (h' : (t.panicThreshold == u.panicThreshold) = true) :=
    (BEq.trans h h' : (s.panicThreshold == u.panicThreshold) = true)

namespace Cluster

/-- Only the settings of clusters can be the same without being equal, or not the same as
themselves. -/
theorem beq_iff {c d : Cluster} : (c == d) = true ↔
    { c with balancingSettings := none } = { d with balancingSettings := none } ∧
      (c.balancingSettings == d.balancingSettings) = true := by
  obtain ⟨⟩ := c
  obtain ⟨⟩ := d
  change (_ && _) = true ↔ _
  simp [and_assoc]

instance : PartialEquivBEq Cluster where
  symm h := by
    rw [beq_iff] at h ⊢
    exact ⟨h.1.symm, BEq.symm h.2⟩
  trans h h' := by
    rw [beq_iff] at h h' ⊢
    exact ⟨h.1.trans h'.1, BEq.trans h.2 h'.2⟩

end Cluster

namespace Resource

/-- Whether two resources are the same. Of the messages here only clusters have doubles in them. -/
def same : Resource → Resource → Bool
  | cluster c, cluster d => c == d
  | x, y => decide (x = y)

theorem same_iff {x y : Resource} : x.same y = true ↔
    (∃ c d, x = cluster c ∧ y = cluster d ∧ (c == d) = true) ∨ x.cluster? = none ∧ x = y := by
  cases x with
  | cluster c => cases y <;> simp [same, cluster?]
  | _ => simp [same, cluster?]

end Resource

/-- A way to compare resources, which need not find a resource the same as itself. -/
structure Comparison where
  /-- Whether two resources are the same. -/
  same : Resource → Resource → Bool
  symm : ∀ {x y}, same x y = true → same y x = true
  trans : ∀ {x y z}, same x y = true → same y z = true → same x z = true

namespace Comparison

/-- The comparison message by message. -/
def ofMessages : Comparison where
  same := Resource.same
  symm h := by
    rw [Resource.same_iff] at h ⊢
    rcases h with ⟨c, d, rfl, rfl, hsame⟩ | ⟨hnone, rfl⟩
    · exact .inl ⟨d, c, rfl, rfl, BEq.symm hsame⟩
    · exact .inr ⟨hnone, rfl⟩
  trans h h' := by
    rw [Resource.same_iff] at h h' ⊢
    rcases h with ⟨c, d, rfl, rfl, hsame⟩ | ⟨hnone, rfl⟩
    · rcases h' with ⟨_, e, hd, rfl, hsame'⟩ | ⟨hnone, rfl⟩
      · cases hd
        exact .inl ⟨c, e, rfl, rfl, BEq.trans hsame hsame'⟩
      · cases hnone
    · exact h'

theorem same_comm (c : Comparison) (x y : Resource) : c.same x y = c.same y x := by
  rw [Bool.eq_iff_iff]
  exact ⟨c.symm, c.symm⟩

end Comparison

end ProxyFleet
