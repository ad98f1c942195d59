import ProxyFleet.Wire.Fault

/-!
# Numbers in groups of seven bits

The lowest group comes first and every byte but the last has its high bit set. At most ten bytes
make a number, and the tenth holds the one bit that is left of 64. The main statement is
`Varint.read_write`.
-/

namespace ProxyFleet.Wire.Varint

/-- The number of groups that 64 bits fill. -/
def maxGroups : Nat := 10

/-- Reads the groups of a number of which at most the given count is left. -/
def readGroups : Nat → Bytes → Option (Nat × Bytes)
  | 0, _ => none
  | _ + 1, [] => none
  | groups + 1, b :: rest =>
    if b.toNat < 128 then
      if groups = 0 ∧ 2 ≤ b.toNat then none else some (b.toNat, rest)
    else
      match readGroups groups rest with
      | some (high, rest) => some (b.toNat - 128 + 128 * high, rest)
      | none => none

/-- Takes a number off the front. -/
def read : Reader Nat := fun bytes ↦
  match readGroups maxGroups bytes with
  | some r => .ok r
  | none => Fault.badVarint.raise

/-- Writes a number in at most the given count of groups. -/
def writeGroups : Nat → Nat → Bytes
  | 0, _ => []
  | groups + 1, n =>
    if n < 128 then [UInt8.ofNat n]
    else UInt8.ofNat (n % 128 + 128) :: writeGroups groups (n / 128)

/-- The bytes of a number below `2 ^ 64`. -/
def write (n : Nat) : Bytes := writeGroups maxGroups n

/-- The least number that needs more than so many groups behind one bit. -/
def bound : Nat → Nat
  | 0 => 2
  | groups + 1 => bound groups * 128

theorem readGroups_writeGroups {groups n : Nat} (h : n < bound groups) (rest : Bytes) :
    readGroups (groups + 1) (writeGroups (groups + 1) n ++ rest) = some (n, rest) := by
  induction groups generalizing n with
  | zero =>
    have hn : n < 2 := h
    have hb : (UInt8.ofNat n).toNat = n := by simp; omega
    simp [writeGroups, readGroups, show n < 128 by omega, hb]
    omega
  | succ groups ih =>
    by_cases hn : n < 128
    · have hb : (UInt8.ofNat n).toNat = n := by simp; omega
      simp [writeGroups, readGroups, hn, hb]
    · have hb : (UInt8.ofNat (n % 128 + 128)).toNat = n % 128 + 128 := by simp; omega
      have hlt : n / 128 < bound groups := by
        rw [Nat.div_lt_iff_lt_mul (by omega)]
        exact h
      have key := ih hlt
      rw [writeGroups, if_neg hn, List.cons_append, readGroups, hb, if_neg (by omega), key]
      simp
      omega

/-- Reading takes off exactly what writing put there. -/
theorem read_write {n : Nat} (h : n < UInt64.size) (rest : Bytes) :
    read (write n ++ rest) = .ok (n, rest) := by
  have := @readGroups_writeGroups 9 n h rest
  rw [read, write, maxGroups, this]

end ProxyFleet.Wire.Varint
