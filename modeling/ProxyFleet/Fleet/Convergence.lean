import ProxyFleet.Event.Queue

/-!
# Convergence

A session has converged when its first clusters and, after them, its first listeners came in. It may
take a number of seconds for both together, counted on a clock whose seconds are integers of 64 bits
with a sign.
-/

namespace ProxyFleet

/-- What the clock shows. -/
structure Instant where
  seconds : Int
  /-- The nanoseconds beyond, less than a second. -/
  nanos : Nat
deriving DecidableEq, Repr

namespace Instant

/-- The greatest number of seconds that the clock can show. -/
def maxSeconds : Int := Int64.maxValue.toInt

/-- What the clock shows so many seconds later, if it can. -/
def after? (now : Instant) (seconds : Nat) : Option Instant :=
  if now.seconds + seconds ≤ maxSeconds then some { now with seconds := now.seconds + seconds }
  else none

end Instant

/-- The kinds of resources that a session must receive, one after the other. -/
def convergenceKinds : List ResourceKind := [.cluster, .listener]

namespace EventQueue

/-- Waits for updates of some kinds, one after the other, while nothing else happens. -/
def awaitAll (q : EventQueue) (millis : Nat) :
    List ResourceKind → Except Failure Unit × EventQueue
  | [] => (.ok (), q)
  | kind :: rest =>
    match q.wait (some (.update kind)) millis with
    | (.ok _, q) => q.awaitAll millis rest
    | (.error e, q) => (.error e, q)

end EventQueue

end ProxyFleet
