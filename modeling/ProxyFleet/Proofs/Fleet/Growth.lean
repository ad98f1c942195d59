import Mathlib.Algebra.Order.Floor.Semiring
import Mathlib.Data.Rat.Floor
import Mathlib.Tactic.Linarith
import Mathlib.Tactic.TFAE
import ProxyFleet.Fleet.Backoff

/-!
# Delays that grow by a factor

A factor greater than one does not make delays grow. Each delay is cut down to whole milliseconds
before it is multiplied, and the product once more, so that what the factor adds is lost unless it
is a whole millisecond. Whether it is depends on the first delay alone: a delay that has grown gives
the factor more to work on, and one that has not will never do so.

The main statement, `Backoff.backsOff_tfae`, says when the delays reach the greatest one. A growing
sequence of natural numbers reaches every bound, so this is the same as to grow until then.
-/

namespace ProxyFleet.Backoff

/-! ## A series of delays -/

/-- The delays once so many were asked for. -/
def later (b : Backoff) : Nat → Backoff
  | 0 => b
  | k + 1 => (b.later k).next.2

/-- The delay that is returned after so many others. -/
def delay (b : Backoff) (k : Nat) : Nat := (b.later k).next.1

/-- Each delay is longer than the one before it until the greatest one is reached. -/
def Lengthens (b : Backoff) : Prop :=
  ∀ k, (∀ j ≤ k, b.delay j ≠ b.max) → b.delay k < b.delay (k + 1)

/-- The greatest delay is reached. -/
def Peaks (b : Backoff) : Prop := ∃ k, b.delay k = b.max

variable {b : Backoff}

theorem exists_next_eq (b : Backoff) : ∃ current, b.next.2 = { b with current } := ⟨_, rfl⟩

theorem later_parts (k : Nat) : (b.later k).max = b.max ∧ (b.later k).growth = b.growth := by
  induction k with
  | zero => exact ⟨rfl, rfl⟩
  | succ k ih =>
    -- the product is left out of sight, for it would be unfolded up to a million times
    obtain ⟨current, hnext⟩ := exists_next_eq (b.later k)
    rw [later, hnext]
    exact ih

theorem delay_le_max (k : Nat) : b.delay k ≤ b.max :=
  (Nat.min_le_right ..).trans (later_parts k).1.le

theorem current_later_succ (k : Nat) : (b.later (k + 1)).current =
    min (b.growth ((b.later k).current / nanosPerMilli) * nanosPerMilli) b.max := by
  obtain ⟨hmax, hgrowth⟩ := later_parts (b := b) k
  rw [later, next, hmax, hgrowth]

theorem current_later (hfirst : b.current ≤ b.max) (k : Nat) : (b.later k).current = b.delay k := by
  have hle : (b.later k).current ≤ b.max := by
    rcases k with _ | k
    · exact hfirst
    · rw [current_later_succ]
      exact Nat.min_le_right ..
  rw [delay, next, (later_parts k).1, Nat.min_eq_left hle]

theorem delay_succ (hfirst : b.current ≤ b.max) (k : Nat) :
    b.delay (k + 1) = min (b.growth (b.delay k / nanosPerMilli) * nanosPerMilli) b.max := by
  rw [← current_later hfirst (k + 1), current_later_succ, current_later hfirst]

/-- Delays that grow until they are the greatest one come to be that. -/
theorem Lengthens.peaks (h : b.Lengthens) : b.Peaks := by
  by_contra hnever
  have hbelow : ∀ k, b.delay k ≠ b.max := fun k hk ↦ hnever ⟨k, hk⟩
  have hgrowing : StrictMono b.delay :=
    strictMono_nat_of_lt_succ fun k ↦ h k fun j _ ↦ hbelow j
  have hbeyond : b.max + 1 ≤ b.delay (b.max + 1) := hgrowing.le_apply
  exact absurd (delay_le_max (b.max + 1)) (Nat.not_le.mpr hbeyond)

theorem lengthens_of_max_le (h : b.max ≤ b.current) : b.Lengthens := by
  intro k hbelow
  exact absurd (Nat.min_eq_right h) (hbelow 0 (Nat.zero_le k))

/-! ## Growth by an exact factor -/

/-- Growth by a factor, in exact arithmetic up to the greatest number of milliseconds. -/
def exactlyBy (factor : ℚ) (millis : Nat) : Nat := min ⌊millis * factor⌋₊ maxGrown

variable {factor : ℚ} {n m : Nat}

/-- What does not add a millisecond to a number of them adds none to a smaller one. -/
theorem exactlyBy_le (hshort : n * factor < n + 1) (hle : m ≤ n) : exactlyBy factor m ≤ n := by
  have hm : (m : ℚ) ≤ n := by exact_mod_cast hle
  have hproduct : (m : ℚ) * factor < n + 1 := by
    rcases le_total factor 0 with hneg | hpos
    · have hdown : (m : ℚ) * factor ≤ 0 := mul_nonpos_of_nonneg_of_nonpos m.cast_nonneg hneg
      have hn : (0 : ℚ) ≤ n := n.cast_nonneg
      linarith
    · exact (mul_le_mul_of_nonneg_right hm hpos).trans_lt hshort
  have hfloor : ⌊(m : ℚ) * factor⌋₊ < n + 1 := by
    rw [Nat.floor_lt' n.succ_ne_zero]
    exact_mod_cast hproduct
  exact (Nat.min_le_left ..).trans (Nat.le_of_lt_succ hfloor)

/-- What adds a millisecond to a number of them adds one to a greater one, while there is room. -/
theorem lt_exactlyBy (hlong : n + 1 ≤ n * factor) (hle : n ≤ m) (hroom : m < maxGrown) :
    m < exactlyBy factor m := by
  have hn : (0 : ℚ) ≤ n := n.cast_nonneg
  have hfactor : 0 < factor - 1 := by
    by_contra hsmall
    have hdown : (n : ℚ) * (factor - 1) ≤ 0 :=
      mul_nonpos_of_nonneg_of_nonpos hn (not_lt.mp hsmall)
    linarith
  have hgain : (n : ℚ) * (factor - 1) ≤ m * (factor - 1) :=
    mul_le_mul_of_nonneg_right (by exact_mod_cast hle) hfactor.le
  have hfloor : m + 1 ≤ ⌊(m : ℚ) * factor⌋₊ := by
    refine Nat.le_floor ?_
    push_cast
    linarith
  exact Nat.lt_min.mpr ⟨hfloor, hroom⟩

/-- Delays that grow by an exact factor. -/
def multiplying (initial max : Nat) (factor : ℚ) : Backoff := .new initial max (exactlyBy factor)

variable {initial max : Nat}

theorem delay_multiplying_succ (hbelow : initial < max) (k : Nat) :
    (multiplying initial max factor).delay (k + 1) =
      min (exactlyBy factor ((multiplying initial max factor).delay k / nanosPerMilli) *
        nanosPerMilli) max :=
  delay_succ hbelow.le k

/-- A first delay to which the factor adds no millisecond is never exceeded. -/
theorem delay_le_of_short (hbelow : initial < max)
    (hshort : ((initial / nanosPerMilli : Nat) : ℚ) * factor < (initial / nanosPerMilli : Nat) + 1)
    (k : Nat) : (multiplying initial max factor).delay k ≤ initial := by
  induction k with
  | zero => exact Nat.min_le_left ..
  | succ k ih =>
    rw [delay_multiplying_succ hbelow]
    calc min _ max ≤ exactlyBy factor (_ / nanosPerMilli) * nanosPerMilli := Nat.min_le_left ..
      _ ≤ initial / nanosPerMilli * nanosPerMilli :=
          Nat.mul_le_mul_right _ (exactlyBy_le hshort (Nat.div_le_div_right ih))
      _ ≤ initial := Nat.div_mul_le_self ..

theorem delay_lt_of_maxGrown_lt (hbelow : initial < max) (hmax : maxGrown * nanosPerMilli < max)
    (k : Nat) : (multiplying initial max factor).delay k < max := by
  rcases k with _ | k
  · exact (Nat.min_le_left ..).trans_lt hbelow
  · rw [delay_multiplying_succ hbelow]
    calc min _ max ≤ exactlyBy factor _ * nanosPerMilli := Nat.min_le_left ..
      _ ≤ maxGrown * nanosPerMilli := Nat.mul_le_mul_right _ (Nat.min_le_right ..)
      _ < max := hmax

section

variable (hbelow : initial < max) (hmax : max ≤ maxGrown * nanosPerMilli)
  (hlong : ((initial / nanosPerMilli : Nat) : ℚ) + 1 ≤ (initial / nanosPerMilli : Nat) * factor)
include hbelow hmax hlong

/-- One step of the growth: a delay that is no shorter than the first one, and not the greatest, is
followed by a longer one. -/
theorem delay_lt_succ {k : Nat} (hfrom : initial ≤ (multiplying initial max factor).delay k)
    (hto : (multiplying initial max factor).delay k ≠ max) :
    (multiplying initial max factor).delay k < (multiplying initial max factor).delay (k + 1) := by
  have hlt : (multiplying initial max factor).delay k < max := lt_of_le_of_ne (delay_le_max k) hto
  have hroom : (multiplying initial max factor).delay k / nanosPerMilli < maxGrown :=
    (Nat.div_lt_iff_lt_mul (by decide)).mpr (hlt.trans_le hmax)
  have hgrown := lt_exactlyBy hlong (Nat.div_le_div_right hfrom) hroom
  rw [delay_multiplying_succ hbelow, Nat.lt_min]
  exact ⟨(Nat.div_lt_iff_lt_mul (by decide)).mp hgrown, hlt⟩

/-- As far as delays grow, none falls below the first one. -/
theorem initial_le_delay (k : Nat)
    (hbefore : ∀ j < k, (multiplying initial max factor).delay j ≠ max) :
    initial ≤ (multiplying initial max factor).delay k := by
  induction k with
  | zero => exact (Nat.min_eq_left hbelow.le).ge
  | succ k ih =>
    have hk := ih fun j hj ↦ hbefore j (Nat.lt_succ_of_lt hj)
    exact hk.trans (delay_lt_succ hbelow hmax hlong hk (hbefore k (Nat.lt_succ_self k))).le

theorem lengthens_of_long : (multiplying initial max factor).Lengthens := by
  intro k hnot
  have hfrom := initial_le_delay hbelow hmax hlong k fun j hj ↦ hnot j hj.le
  exact delay_lt_succ hbelow hmax hlong hfrom (hnot k le_rfl)

end

/-- **Backing off.** Delays that grow by an exact factor lengthen until the greatest one, and reach
it, just if the first one is the greatest already, or if the factor adds a whole millisecond to the
milliseconds of the first one and the greatest one is not beyond what delays grow to. Either half of
this fails with the other. -/
theorem backsOff_tfae (initial max : Nat) (factor : ℚ) : List.TFAE [
    (multiplying initial max factor).Lengthens,
    (multiplying initial max factor).Peaks,
    max ≤ initial ∨ max ≤ maxGrown * nanosPerMilli ∧
      ((initial / nanosPerMilli : Nat) : ℚ) + 1 ≤ (initial / nanosPerMilli : Nat) * factor] := by
  tfae_have 1 → 2 := Lengthens.peaks
  tfae_have 2 → 3 := by
    rintro ⟨k, hpeak⟩
    change _ = max at hpeak
    by_contra hneither
    obtain ⟨hbelow, hstuck⟩ := not_or.mp hneither
    rw [not_le] at hbelow
    rcases not_and_or.mp hstuck with hmax | hshort
    · exact (delay_lt_of_maxGrown_lt hbelow (not_le.mp hmax) k).ne hpeak
    · exact ((delay_le_of_short hbelow (not_le.mp hshort) k).trans_lt hbelow).ne hpeak
  tfae_have 3 → 1 := by
    rintro (hle | ⟨hmax, hlong⟩)
    · exact lengthens_of_max_le hle
    · rcases le_or_gt max initial with hle | hbelow
      · exact lengthens_of_max_le hle
      · exact lengthens_of_long hbelow hmax hlong
  tfae_finish

/-- A millisecond stays one whenever it is multiplied by one and a half, in exact arithmetic and in
doubles, so that it never comes to be a nanosecond more. -/
theorem not_always_longer :
    ¬(∀ (initial max : Nat) (factor : ℚ), 0 < initial → initial ≤ max → 1 < factor →
      (multiplying initial max factor).Lengthens ∧ (multiplying initial max factor).Peaks) ∧
    (new nanosPerMilli (nanosPerMilli + 1) (scaledBy gentleFactor)).delay 1 = nanosPerMilli := by
  refine ⟨?_, by decide +kernel⟩
  intro hall
  obtain ⟨-, k, hpeak⟩ :=
    hall nanosPerMilli (nanosPerMilli + 1) (3 / 2) (by decide) (Nat.le_succ _) (by norm_num)
  have hshort : ((nanosPerMilli / nanosPerMilli : Nat) : ℚ) * (3 / 2) <
      (nanosPerMilli / nanosPerMilli : Nat) + 1 := by
    norm_num [nanosPerMilli]
  have hle := delay_le_of_short (Nat.lt_succ_self nanosPerMilli) hshort k
  exact absurd hpeak (Nat.lt_succ_of_le hle).ne

end ProxyFleet.Backoff
