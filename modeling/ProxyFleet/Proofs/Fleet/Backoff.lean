import Mathlib.Data.List.Induction
import ProxyFleet.Proofs.Number.Double
import ProxyFleet.Fleet.Basic

/-!
# Delays that double up to a greatest one

The delays of a fleet follow the closed form `min (first * 2 ^ k) greatest`, where `k` counts how
often a delay was asked for since the last reset. What is stored is capped already, the closed form
is capped only at its end; the two agree because to double what is capped and to cap it again is to
cap the double.

The delays pass through doubles. Up to `2 ^ 53` milliseconds these hold every number and its double.
-/

namespace ProxyFleet.Backoff

/-- What is asked of delays. -/
inductive Call
  /-- A delay, to wait. -/
  | next
  /-- To begin again, after a success. -/
  | reset
deriving DecidableEq

/-- The delays after a call. -/
def after (b : Backoff) : Call → Backoff
  | .next => b.next.2
  | .reset => b.reset

/-- How often a delay was asked for since the last reset. -/
def sinceReset (calls : List Call) : Nat := (calls.reverse.takeWhile (· = .next)).length

@[simp] theorem sinceReset_append_next (calls : List Call) :
    sinceReset (calls ++ [.next]) = sinceReset calls + 1 := by
  simp [sinceReset]

@[simp] theorem sinceReset_append_reset (calls : List Call) :
    sinceReset (calls ++ [.reset]) = 0 := by
  simp [sinceReset]

/-- Growth by the factor two is exact on numbers of at most 53 bits. -/
theorem scaledBy_doublingFactor {millis : Nat} (hpositive : 0 < millis) (h : millis ≤ 2 ^ 53) :
    scaledBy doublingFactor millis = 2 * millis := by
  rw [scaledBy, doublingFactor, Double.toNatAtMost_mulNat_two hpositive h]
  refine Nat.min_eq_left ?_
  rw [maxGrown, UInt64.size]
  omega

/-- Doubling delays once a delay was asked for so many times, by the closed form. -/
def reached (firstMillis maxMillis k : Nat) : Backoff :=
  { doubling firstMillis maxMillis with
    current := min (firstMillis * 2 ^ k) maxMillis * nanosPerMilli }

section

variable {firstMillis maxMillis : Nat}

theorem reached_zero (hle : firstMillis ≤ maxMillis) :
    reached firstMillis maxMillis 0 = doubling firstMillis maxMillis := by
  rw [reached, Nat.pow_zero, Nat.mul_one, Nat.min_eq_left hle]
  rfl

theorem reset_reached (hle : firstMillis ≤ maxMillis) (k : Nat) :
    (reached firstMillis maxMillis k).reset = reached firstMillis maxMillis 0 := by
  rw [reached_zero hle]
  rfl

theorem next_reached_fst (k : Nat) : (reached firstMillis maxMillis k).next.1 =
    min (firstMillis * 2 ^ k) maxMillis * nanosPerMilli :=
  Nat.min_eq_left (Nat.mul_le_mul_right _ (Nat.min_le_right ..))

/-- One delay more doubles what is stored, up to the cap. -/
theorem next_reached_snd (hfirst : 1 ≤ firstMillis) (hle : firstMillis ≤ maxMillis)
    (hmax : maxMillis ≤ 2 ^ 53) (k : Nat) :
    (reached firstMillis maxMillis k).next.2 = reached firstMillis maxMillis (k + 1) := by
  have hpower : 0 < firstMillis * 2 ^ k := Nat.mul_pos hfirst (Nat.two_pow_pos k)
  have hgrown : scaledBy doublingFactor (min (firstMillis * 2 ^ k) maxMillis) =
      2 * min (firstMillis * 2 ^ k) maxMillis := scaledBy_doublingFactor (by omega) (by omega)
  have hcapped : min (2 * min (firstMillis * 2 ^ k) maxMillis) maxMillis =
      min (firstMillis * 2 ^ (k + 1)) maxMillis := by
    rw [Nat.pow_succ, ← Nat.mul_assoc]
    omega
  have hcurrent : min (scaledBy doublingFactor
      (min (firstMillis * 2 ^ k) maxMillis * nanosPerMilli / nanosPerMilli) * nanosPerMilli)
      (maxMillis * nanosPerMilli) =
        min (firstMillis * 2 ^ (k + 1)) maxMillis * nanosPerMilli := by
    rw [Nat.mul_div_cancel _ (by decide), hgrown, Nat.mul_min_mul_right, hcapped]
  exact congrArg (fun current ↦ { doubling firstMillis maxMillis with current }) hcurrent

theorem foldl_after (hfirst : 1 ≤ firstMillis) (hle : firstMillis ≤ maxMillis)
    (hmax : maxMillis ≤ 2 ^ 53) (calls : List Call) :
    calls.foldl after (doubling firstMillis maxMillis) =
      reached firstMillis maxMillis (sinceReset calls) := by
  induction calls using List.reverseRecOn with
  | nil => exact (reached_zero hle).symm
  | append_singleton before call ih =>
    rw [List.foldl_append, ih]
    cases call with
    | next =>
      rw [sinceReset_append_next]
      exact next_reached_snd hfirst hle hmax _
    | reset =>
      rw [sinceReset_append_reset]
      exact reset_reached hle _

end

/-- **Capped doubling.** Whatever was asked for before, the delay that is returned is the first one
doubled as often as a delay was asked for since the last reset, up to the greatest one. -/
theorem next_fst_eq_min (f : FleetSettings) (hfirst : 1 ≤ f.firstDelayMillis)
    (hle : f.firstDelayMillis ≤ f.maxDelayMillis) (hmax : f.maxDelayMillis ≤ 2 ^ 53)
    (calls : List Call) :
    (calls.foldl after (doubling f.firstDelayMillis f.maxDelayMillis)).next.1 =
      min (f.firstDelayMillis * 2 ^ sinceReset calls) f.maxDelayMillis * nanosPerMilli := by
  rw [foldl_after hfirst hle hmax, next_reached_fst]

/-- Delays that reach a cap which is no multiple of the first one. -/
def unevenSettings : FleetSettings := { firstDelayMillis := 3, maxDelayMillis := 2 ^ 53 - 1 }

theorem next_fst_unevenSettings :
    ([.next, .reset, .next, .next].foldl after (doubling unevenSettings.firstDelayMillis
      unevenSettings.maxDelayMillis)).next.1 = 12 * nanosPerMilli ∧
    ((List.replicate 60 .next).foldl after (doubling unevenSettings.firstDelayMillis
      unevenSettings.maxDelayMillis)).next.1 = (2 ^ 53 - 1) * nanosPerMilli := by
  have hdelay := next_fst_eq_min unevenSettings (by decide) (by decide) (by decide)
  constructor
  · exact hdelay [.next, .reset, .next, .next]
  · rw [hdelay (List.replicate 60 .next)]
    decide +kernel

end ProxyFleet.Backoff
