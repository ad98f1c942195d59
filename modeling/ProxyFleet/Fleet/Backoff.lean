import ProxyFleet.Number.Double

/-!
# Delays between attempts

A delay that is asked for grows until it reaches a greatest one, and falls back to the first one
after a success. Delays are in nanoseconds, but growth works on whole milliseconds, so that what a
delay has beyond them is lost when it grows.
-/

namespace ProxyFleet

/-- The delays of one series of attempts. -/
structure Backoff where
  initial : Nat
  max : Nat
  /-- What a number of milliseconds grows to. -/
  growth : Nat → Nat
  /-- The delay to come, unless it is greater than the greatest one. -/
  current : Nat

namespace Backoff

def nanosPerMilli : Nat := 1000000

/-- The greatest number of milliseconds that a delay grows to. -/
def maxGrown : Nat := UInt64.size - 1

/-- Growth by a factor, in doubles. -/
def scaledBy (factor : Double) (millis : Nat) : Nat :=
  (Double.mulNat millis factor).toNatAtMost maxGrown

/-- The factor one and a half. -/
def gentleFactor : Double := .ofRatio 3 2

/-- The factor two. -/
def doublingFactor : Double := .ofNat 2

/-- Delays before the first attempt. -/
def new (initial max : Nat) (growth : Nat → Nat) : Backoff :=
  { initial, max, growth, current := initial }

/-- Delays between 200 milliseconds and 10 seconds that grow gently. -/
def standard : Backoff :=
  .new (200 * nanosPerMilli) (10000 * nanosPerMilli) (scaledBy gentleFactor)

/-- Delays between two numbers of milliseconds that double. -/
def doubling (initialMillis maxMillis : Nat) : Backoff :=
  .new (initialMillis * nanosPerMilli) (maxMillis * nanosPerMilli) (scaledBy doublingFactor)

/-- The delay to wait now, and the delays after it. -/
def next (b : Backoff) : Nat × Backoff :=
  (min b.current b.max,
    { b with current := min (b.growth (b.current / nanosPerMilli) * nanosPerMilli) b.max })

/-- The delays after a success. -/
def reset (b : Backoff) : Backoff := { b with current := b.initial }

end Backoff

end ProxyFleet
