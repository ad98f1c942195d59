/-!
# Durations

A duration is a number of whole seconds, in 64 bits, and the nanoseconds beyond them. Both parts are
added and divided apart, and what goes over is carried. A result that is out of range is none.
-/

namespace ProxyFleet

def nanosPerSecond : Nat := 1000000000

structure Duration where
  seconds : Nat
  /-- The nanoseconds beyond them. -/
  nanos : Nat
  /-- Seconds have 64 bits. -/
  seconds_lt : seconds < UInt64.size
  /-- A whole second is none of the nanoseconds. -/
  nanos_lt : nanos < nanosPerSecond
deriving DecidableEq, Repr

namespace Duration

def toNanos (d : Duration) : Nat := d.seconds * nanosPerSecond + d.nanos

/-- The nanoseconds that are too many for a duration, and from which on all are. -/
def limit : Nat := UInt64.size * nanosPerSecond

/-- The duration of some seconds and nanoseconds, of which whole seconds are carried. -/
def ofParts? (seconds nanos : Nat) : Option Duration :=
  if h : seconds + nanos / nanosPerSecond < UInt64.size then
    some ⟨seconds + nanos / nanosPerSecond, nanos % nanosPerSecond, h, Nat.mod_lt _ (by decide)⟩
  else none

def ofNanos? (nanos : Nat) : Option Duration := ofParts? 0 nanos

/-- Durations together. -/
def sum? (ds : List Duration) : Option Duration :=
  ofParts? (ds.foldl (· + ·.seconds) 0) (ds.foldl (· + ·.nanos) 0)

/-- A duration divided by a count and rounded down; none if the count is zero. Seconds that are left
over are divided with the nanoseconds that are. -/
def divide? (d : Duration) (count : UInt32) : Option Duration :=
  if count = 0 then none
  else ofParts? (d.seconds / count.toNat) (d.nanos / count.toNat +
    (d.seconds % count.toNat * nanosPerSecond + d.nanos % count.toNat) / count.toNat)

/-! ## The parts and the whole -/

theorem toNanos_lt_limit (d : Duration) : d.toNanos < limit := by
  have hseconds := d.seconds_lt
  have hnanos := d.nanos_lt
  rw [nanosPerSecond] at hnanos
  rw [toNanos, limit, nanosPerSecond]
  omega

/-- There is a duration of some parts just if the whole is in range, and then it is as long. -/
theorem map_toNanos_ofParts? (seconds nanos : Nat) :
    (ofParts? seconds nanos).map toNanos =
      if seconds * nanosPerSecond + nanos < limit then some (seconds * nanosPerSecond + nanos)
      else none := by
  have hrange : seconds + nanos / nanosPerSecond < UInt64.size ↔
      seconds * nanosPerSecond + nanos < limit := by
    rw [limit, nanosPerSecond]
    omega
  rw [ofParts?]
  by_cases h : seconds + nanos / nanosPerSecond < UInt64.size
  · rw [dif_pos h, if_pos (hrange.mp h), Option.map_some, toNanos, Nat.add_mul, Nat.add_assoc,
      Nat.div_add_mod']
  · rw [dif_neg h, if_neg (mt hrange.mpr h), Option.map_none]

theorem map_toNanos_ofNanos? (nanos : Nat) :
    (ofNanos? nanos).map toNanos = if nanos < limit then some nanos else none := by
  rw [ofNanos?, map_toNanos_ofParts?, Nat.zero_mul, Nat.zero_add]

/-- To add up the parts is to add up the whole. -/
theorem foldl_parts (ds : List Duration) (seconds nanos : Nat) :
    ds.foldl (· + ·.seconds) seconds * nanosPerSecond + ds.foldl (· + ·.nanos) nanos =
      ds.foldl (· + ·.toNanos) (seconds * nanosPerSecond + nanos) := by
  induction ds generalizing seconds nanos with
  | nil => rfl
  | cons d rest ih =>
    rw [List.foldl_cons, List.foldl_cons, List.foldl_cons, ih, toNanos, Nat.add_mul,
      Nat.add_add_add_comm]

theorem map_toNanos_sum? (ds : List Duration) : (sum? ds).map toNanos =
    if ds.foldl (· + ·.toNanos) 0 < limit then some (ds.foldl (· + ·.toNanos) 0) else none := by
  rw [sum?, map_toNanos_ofParts?, foldl_parts, Nat.zero_mul]

/-- To divide the parts, and together what is left over of them, is to divide the whole. -/
theorem map_toNanos_divide? (d : Duration) {count : UInt32} (hcount : count ≠ 0) :
    (d.divide? count).map toNanos = some (d.toNanos / count.toNat) := by
  have hpos : 0 < count.toNat :=
    Nat.pos_of_ne_zero fun h ↦ hcount (UInt32.toNat_inj.mp h)
  -- Both parts are a multiple of the count and what is left over.
  have hparts : d.toNanos =
      count.toNat * (d.seconds / count.toNat * nanosPerSecond + d.nanos / count.toNat) +
        (d.seconds % count.toNat * nanosPerSecond + d.nanos % count.toNat) := by
    have hseconds := Nat.div_add_mod d.seconds count.toNat
    have hnanos := Nat.div_add_mod d.nanos count.toNat
    calc d.toNanos
        = (count.toNat * (d.seconds / count.toNat) + d.seconds % count.toNat) * nanosPerSecond +
          (count.toNat * (d.nanos / count.toNat) + d.nanos % count.toNat) := by
          rw [hseconds, hnanos, toNanos]
      _ = _ := by rw [Nat.add_mul, Nat.mul_assoc, Nat.add_add_add_comm, ← Nat.mul_add]
  have hwhole : d.seconds / count.toNat * nanosPerSecond + (d.nanos / count.toNat +
      (d.seconds % count.toNat * nanosPerSecond + d.nanos % count.toNat) / count.toNat) =
        d.toNanos / count.toNat := by
    rw [hparts, Nat.mul_add_div hpos, Nat.add_assoc]
  have hrange : d.toNanos / count.toNat < limit :=
    Nat.lt_of_le_of_lt (Nat.div_le_self ..) d.toNanos_lt_limit
  rw [divide?, if_neg hcount, map_toNanos_ofParts?, hwhole, if_pos hrange]

end Duration

end ProxyFleet
