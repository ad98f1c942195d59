import ProxyFleet.Proofs.Address.Text

/-!
# Addresses further on

To move an address is to add to its number. It succeeds as long as the sum is the number of an
address of the same version, and moving twice is moving once by both distances together.
-/

namespace ProxyFleet.IpAddress

/-- The bits of an address, of which each version has a number of its own. -/
def width : IpAddress → Nat
  | v4 _ => 32
  | v6 _ => 128

/-- The number of an address. -/
def toNat : IpAddress → Nat
  | v4 value => value.toNat
  | v6 value => value.toNat

/-- The number of the last address of the same version. -/
def last (a : IpAddress) : Nat := 2 ^ a.width - 1

theorem toNat_le_last (a : IpAddress) : a.toNat ≤ a.last := by
  cases a with
  | v4 value => exact Nat.le_sub_one_of_lt value.isLt
  | v6 value => exact Nat.le_sub_one_of_lt value.isLt

theorem offsetBits?_eq_some_iff {width n : Nat} {value sum : BitVec width} :
    offsetBits? n value = some sum ↔ sum.toNat = value.toNat + n := by
  simp only [offsetBits?, Option.ite_none_right_eq_some, Option.some_inj]
  constructor
  · rintro ⟨h, rfl⟩
    exact h
  · intro h
    have hsum : BitVec.ofNat width (value.toNat + n) = sum := by
      rw [← h, BitVec.ofNat_toNat, BitVec.setWidth_eq]
    exact ⟨hsum ▸ h, hsum⟩

theorem offset?_eq_some_iff {n : Nat} {a b : IpAddress} :
    a.offset? n = some b ↔ b.width = a.width ∧ b.toNat = a.toNat + n := by
  cases a <;> cases b <;> simp [offset?, offsetBits?_eq_some_iff, width, toNat]

/-- An address can be moved as far as the last one of its version. -/
theorem exists_offset?_iff {n : Nat} {a : IpAddress} :
    (∃ b, a.offset? n = some b) ↔ a.toNat + n ≤ a.last := by
  constructor
  · rintro ⟨b, hb⟩
    obtain ⟨hwidth, htoNat⟩ := offset?_eq_some_iff.mp hb
    have hle := b.toNat_le_last
    rwa [last, hwidth, htoNat, ← last] at hle
  · intro hle
    have hlt : a.toNat + n < 2 ^ a.width := Nat.lt_of_le_pred (Nat.two_pow_pos _) hle
    cases a with
    | v4 value => exact ⟨v4 ⟨⟨_, hlt⟩⟩, offset?_eq_some_iff.mpr ⟨rfl, rfl⟩⟩
    | v6 value => exact ⟨v6 ⟨⟨_, hlt⟩⟩, offset?_eq_some_iff.mpr ⟨rfl, rfl⟩⟩

/-- To move twice is to move once by both distances together. -/
theorem bind_offset? (a : IpAddress) (n k : Nat) :
    (a.offset? n).bind (·.offset? k) = a.offset? (n + k) := by
  refine Option.ext fun c ↦ ?_
  rw [Option.bind_eq_some_iff, offset?_eq_some_iff]
  constructor
  · rintro ⟨b, hb, hc⟩
    obtain ⟨hbwidth, hbtoNat⟩ := offset?_eq_some_iff.mp hb
    obtain ⟨hcwidth, hctoNat⟩ := offset?_eq_some_iff.mp hc
    exact ⟨hcwidth.trans hbwidth, by rw [hctoNat, hbtoNat, Nat.add_assoc]⟩
  · rintro ⟨hwidth, htoNat⟩
    have hle : a.toNat + n ≤ a.last := by
      have hle := c.toNat_le_last
      rw [last, hwidth, ← last] at hle
      omega
    obtain ⟨b, hb⟩ := exists_offset?_iff.mpr hle
    obtain ⟨hbwidth, hbtoNat⟩ := offset?_eq_some_iff.mp hb
    refine ⟨b, hb, offset?_eq_some_iff.mpr ⟨hwidth.trans hbwidth.symm, ?_⟩⟩
    rw [htoNat, hbtoNat, Nat.add_assoc]

/-- No address is moved to the same place by different distances. -/
theorem offset?_inj {n k : Nat} {a b : IpAddress} (hn : a.offset? n = some b)
    (hk : a.offset? k = some b) : n = k := by
  have hnumber := (offset?_eq_some_iff.mp hn).2
  rw [(offset?_eq_some_iff.mp hk).2] at hnumber
  exact (Nat.add_left_cancel hnumber).symm

end ProxyFleet.IpAddress
