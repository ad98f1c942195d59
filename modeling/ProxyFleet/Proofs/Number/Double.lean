import Mathlib.Tactic.Ring
import ProxyFleet.Number.Double

/-!
# Doubles that need no rounding

A value whose significand has at most 53 bits is itself a double, and what comes of a quotient then
is exact. `Double.Normal d m e` says that `d` is the positive double of significand `m` with the
full 53 bits and of exponent `e`, counted as the bits count it: `d` is `m * 2 ^ e` of the least
positive doubles, of which `unit` make one and in which `Double.scaled` gives its value.

To double a natural number of at most 53 bits leaves the significand alone and adds one to the
exponent (`Double.toNatAtMost_mulNat_two`).
-/

namespace ProxyFleet.Double

/-- A positive finite double with a full significand, in its bits. -/
structure Normal (d : Double) (m e : Nat) : Prop where
  bits : d.bits.toNat = e * hiddenBit + m
  full : hiddenBit ≤ m
  significand_lt : m < 2 * hiddenBit
  exponent_le : e ≤ 2045

/-- One is two to this power times the least positive double. -/
def leastExponent : Nat := 1074

/-- How many of the least positive doubles make one. -/
def unit : Nat := 2 ^ leastExponent

theorem unit_pos : 0 < unit := Nat.two_pow_pos leastExponent

theorem shiftLeft_unit (n : Nat) : n <<< 1074 = n * unit := Nat.shiftLeft_eq n leastExponent

theorem shiftRight_unit (n : Nat) : n >>> 1074 = n / unit :=
  Nat.shiftRight_eq_div_pow n leastExponent

variable {d : Double} {m e num den n : Nat}

namespace Normal

variable (h : Normal d m e)
include h

theorem magnitudeBits_eq : d.magnitudeBits = e * hiddenBit + m := by
  obtain ⟨hbits, -, hlt, he⟩ := h
  rw [magnitudeBits, hbits, Nat.mod_eq_of_lt]
  simp only [hiddenBit, signBit] at *
  omega

theorem isNegative_eq : d.isNegative = false := by
  obtain ⟨hbits, -, hlt, he⟩ := h
  rw [isNegative, hbits, decide_eq_false_iff_not]
  simp only [hiddenBit, signBit] at *
  omega

theorem isFinite_eq : d.isFinite = true := by
  rw [isFinite, h.magnitudeBits_eq, decide_eq_true_iff]
  obtain ⟨-, -, hlt, he⟩ := h
  simp only [hiddenBit, infinityBits] at *
  omega

theorem isNaN_eq : d.isNaN = false := by
  rw [isNaN, h.magnitudeBits_eq, decide_eq_false_iff_not]
  obtain ⟨-, -, hlt, he⟩ := h
  simp only [hiddenBit, infinityBits] at *
  omega

theorem scaled_eq : d.scaled = m * 2 ^ e := by
  have hmagnitude := h.magnitudeBits_eq
  obtain ⟨-, hfull, hlt, -⟩ := h
  have hexponent : d.magnitudeBits / hiddenBit = e + 1 := by
    simp only [hiddenBit] at *
    omega
  have hsignificand : d.magnitudeBits % hiddenBit + hiddenBit = m := by
    simp only [hiddenBit] at *
    omega
  rw [scaled, hexponent, if_neg (Nat.succ_ne_zero e), hsignificand, Nat.add_sub_cancel,
    Nat.shiftLeft_eq]

end Normal

/-! ## Quotients -/

theorem roundDiv_mul_right (hden : 0 < den) (n : Nat) : roundDiv (n * den) den = n := by
  rw [roundDiv, Nat.mul_mod_left, Nat.mul_div_cancel n hden]
  exact if_pos (by omega)

/-- The first guess at the exponent is right or one too great, and the comparison tells which. -/
theorem binaryExponent_of_between (hden : den ≠ 0) (hleast : den * 2 ^ e ≤ num * unit)
    (hbelow : num * unit < den * 2 ^ (e + 1)) : binaryExponent num den = e := by
  have hnum : num ≠ 0 := by
    rintro rfl
    have hsome := Nat.mul_pos (Nat.pos_of_ne_zero hden) (Nat.two_pow_pos e)
    omega
  have hlow : den.log2 + e < num.log2 + 1 + 1074 := by
    refine (Nat.pow_lt_pow_iff_right (by decide : 1 < 2)).mp ?_
    calc 2 ^ (den.log2 + e) = 2 ^ den.log2 * 2 ^ e := Nat.pow_add ..
      _ ≤ den * 2 ^ e := Nat.mul_le_mul_right _ (Nat.log2_self_le hden)
      _ ≤ num * unit := hleast
      _ < 2 ^ (num.log2 + 1) * unit := Nat.mul_lt_mul_of_pos_right Nat.lt_log2_self unit_pos
      _ = 2 ^ (num.log2 + 1 + leastExponent) := (Nat.pow_add ..).symm
  have hhigh : num.log2 + 1074 < den.log2 + 1 + (e + 1) := by
    refine (Nat.pow_lt_pow_iff_right (by decide : 1 < 2)).mp ?_
    calc 2 ^ (num.log2 + leastExponent) = 2 ^ num.log2 * unit := Nat.pow_add ..
      _ ≤ num * unit := Nat.mul_le_mul_right _ (Nat.log2_self_le hnum)
      _ < den * 2 ^ (e + 1) := hbelow
      _ ≤ 2 ^ (den.log2 + 1) * 2 ^ (e + 1) := Nat.mul_le_mul_right _ Nat.lt_log2_self.le
      _ = 2 ^ (den.log2 + 1 + (e + 1)) := (Nat.pow_add ..).symm
  have hguess : num.log2 + 1074 - den.log2 = e ∨ num.log2 + 1074 - den.log2 = e + 1 := by omega
  rw [binaryExponent, shiftLeft_unit, Nat.shiftLeft_eq]
  rcases hguess with hguess | hguess
  · rw [hguess]
    exact if_neg (Nat.not_lt.mpr hleast)
  · rw [hguess]
    exact if_pos hbelow

/-- A quotient that is a double is not rounded. -/
theorem normal_ofRatio (hden : den ≠ 0) (hfull : hiddenBit ≤ m) (hlt : m < 2 * hiddenBit)
    (he : e ≤ 2045) (hvalue : num * unit = m * (den * 2 ^ e)) :
    Normal (ofRatio num den) m e := by
  have hpart : 0 < den * 2 ^ e := Nat.mul_pos (Nat.pos_of_ne_zero hden) (Nat.two_pow_pos e)
  have hnum : num ≠ 0 := by
    rintro rfl
    have hsome : 0 < m * (den * 2 ^ e) := Nat.mul_pos (Nat.lt_of_lt_of_le (by decide) hfull) hpart
    omega
  have hexponent : binaryExponent num den = e + 52 := by
    have hleast : den * 2 ^ (e + 52) = hiddenBit * (den * 2 ^ e) := by
      rw [Nat.pow_add, hiddenBit]
      ring
    have hbelow : den * 2 ^ (e + 52 + 1) = 2 * hiddenBit * (den * 2 ^ e) := by
      rw [Nat.pow_add, Nat.pow_add, hiddenBit]
      ring
    apply binaryExponent_of_between hden
    · rw [hleast, hvalue]
      exact Nat.mul_le_mul_right _ hfull
    · rw [hbelow, hvalue]
      exact Nat.mul_lt_mul_of_pos_right hlt hpart
  have hbits : e * hiddenBit + m < infinityBits := by
    simp only [hiddenBit, infinityBits] at *
    omega
  refine ⟨?_, hfull, hlt, he⟩
  rw [ofRatio, if_neg (not_or.mpr ⟨hnum, hden⟩)]
  dsimp only
  rw [hexponent, Nat.add_sub_cancel, shiftLeft_unit, Nat.shiftLeft_eq, hvalue,
    roundDiv_mul_right hpart, Nat.min_eq_left hbits.le]
  exact UInt64.toNat_ofNat_of_lt (hbits.trans (by decide))

/-! ## Natural numbers -/

theorem exists_significand (hpositive : 0 < n) (hn : n ≤ 2 ^ 53) :
    ∃ m e, n * unit = m * 2 ^ e ∧ hiddenBit ≤ m ∧ m < 2 * hiddenBit ∧ e ≤ 1075 := by
  rcases hn.lt_or_eq with hlt | rfl
  · have hlog : n.log2 < 53 := (Nat.log2_lt hpositive.ne').mpr hlt
    refine ⟨n * 2 ^ (52 - n.log2), 1022 + n.log2, ?_, ?_, ?_, by omega⟩
    · rw [unit, leastExponent, Nat.mul_assoc, ← Nat.pow_add,
        show 52 - n.log2 + (1022 + n.log2) = 1074 by omega]
    · calc hiddenBit = 2 ^ n.log2 * 2 ^ (52 - n.log2) := by
            rw [← Nat.pow_add, show n.log2 + (52 - n.log2) = 52 by omega, hiddenBit]
        _ ≤ n * 2 ^ (52 - n.log2) := Nat.mul_le_mul_right _ (Nat.log2_self_le hpositive.ne')
    · calc n * 2 ^ (52 - n.log2) < 2 ^ (n.log2 + 1) * 2 ^ (52 - n.log2) :=
            Nat.mul_lt_mul_of_pos_right Nat.lt_log2_self (Nat.two_pow_pos _)
        _ = 2 * hiddenBit := by
            rw [← Nat.pow_add, show n.log2 + 1 + (52 - n.log2) = 53 by omega, hiddenBit]
  · exact ⟨hiddenBit, 1075, by decide +kernel, le_rfl, by decide, le_rfl⟩

theorem normal_ofNat (hfull : hiddenBit ≤ m) (hlt : m < 2 * hiddenBit) (he : e ≤ 2045)
    (hvalue : n * unit = m * 2 ^ e) : Normal (ofNat n) m e :=
  normal_ofRatio Nat.one_ne_zero hfull hlt he (by rw [Nat.one_mul, hvalue])

theorem scaled_ofNat_two : (ofNat 2).scaled = 2 * unit := by decide +kernel

/-- To double a number adds one to its exponent. -/
theorem normal_mulNat_two (hfull : hiddenBit ≤ m) (hlt : m < 2 * hiddenBit) (he : e ≤ 2044)
    (hvalue : n * unit = m * 2 ^ e) : Normal (mulNat n (ofNat 2)) m (e + 1) := by
  have hn := normal_ofNat hfull hlt (by omega) hvalue
  have hproduct : mulNat n (ofNat 2) = mulMagnitude (ofNat n) (ofNat 2) := by
    have hsign : (ofNat 2).isNegative = false := by decide +kernel
    have hnumber : (ofNat 2).isNaN = false := by decide +kernel
    have hfinite : (ofNat 2).isFinite = true := by decide +kernel
    simp only [mulNat, hnumber, hfinite, hn.isFinite_eq, hsign, Bool.and_self, if_true,
      Bool.false_eq_true, if_false, withSign]
  have hunits : 1 <<< 2148 = unit * unit := by decide +kernel
  rw [hproduct, mulMagnitude, hn.scaled_eq, scaled_ofNat_two, hunits]
  refine normal_ofRatio (Nat.mul_pos unit_pos unit_pos).ne' hfull hlt (by omega) ?_
  rw [Nat.pow_succ]
  ring

/-- **Doubling is exact** as long as numbers have at most 53 bits. -/
theorem toNatAtMost_mulNat_two {bound : Nat} (hpositive : 0 < n) (hn : n ≤ 2 ^ 53) :
    (mulNat n (ofNat 2)).toNatAtMost bound = min (2 * n) bound := by
  obtain ⟨m, e, hvalue, hfull, hlt, he⟩ := exists_significand hpositive hn
  have hdouble := normal_mulNat_two hfull hlt (by omega) hvalue
  have hscaled : m * 2 ^ (e + 1) = 2 * n * unit := by
    rw [Nat.pow_succ, ← Nat.mul_assoc, ← hvalue]
    ring
  rw [toNatAtMost, hdouble.isNaN_eq, hdouble.isNegative_eq, hdouble.isFinite_eq, hdouble.scaled_eq,
    hscaled, shiftRight_unit, Nat.mul_div_cancel _ unit_pos]
  rfl

end ProxyFleet.Double
