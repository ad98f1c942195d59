import ProxyFleet.Fleet.Duration
import ProxyFleet.Fleet.Slot

/-!
# Reports

What came of all slots of a fleet together. Times are in nanoseconds, and the average is rounded
down. The kept resources are consistent if those of the first slot that has any differ from no
others.
-/

namespace ProxyFleet

structure FleetReport where
  sessions : Nat
  /-- How many slots connected. -/
  started : Nat
  /-- How many slots converged. -/
  converged : Nat
  /-- How many slots gave up. -/
  failed : Nat
  /-- How often slots connected again. -/
  reconnects : Nat
  /-- The shortest time to converge. -/
  least : Option Nat
  /-- The average time to converge. -/
  average : Option Nat
  /-- The longest time to converge. -/
  greatest : Option Nat
  /-- Whether all slots kept the same; unknown if none kept anything. -/
  consistent : Option Bool
deriving DecidableEq, Repr

namespace FleetReport

def total (ns : List Nat) : Nat := ns.foldl (· + ·) 0

/-- The average of some times, rounded down, with their number in 32 bits; none if there are none,
or if together they are out of the range of durations. -/
def averageOf (times : List Nat) : Option Nat :=
  if times.isEmpty then none
  else do
    let sum ← Duration.sum? (← times.mapM Duration.ofNanos?)
    let average ← sum.divide? (.ofNat times.length)
    return average.toNanos

/-- Whether the first of some stores differs from no other. -/
def consistency (c : Comparison) : List Store → Option Bool
  | [] => none
  | first :: rest => some (rest.all fun other ↦ (first.diff c other).isEmpty)

def ofOutcomes (c : Comparison) (sessions : Nat) (outcomes : List SlotOutcome) : FleetReport :=
  let times := outcomes.filterMap (·.convergence)
  { sessions
    started := outcomes.countP (·.started)
    converged := times.length
    failed := outcomes.countP (·.error.isSome)
    reconnects := total (outcomes.map (·.reconnects))
    least := times.min?
    average := averageOf times
    greatest := times.max?
    consistent := consistency c (outcomes.filterMap (·.kept)) }

/-- Whether the times are in order; unknown if there are none. -/
def timesInOrder? (r : FleetReport) : Option Bool :=
  match r.least, r.average, r.greatest with
  | some least, some average, some greatest => some (least ≤ average && average ≤ greatest)
  | _, _, _ => none

/-! ## The message with the report -/

/-- The field of a time, in milliseconds of 64 bits. -/
def timeField (name : String) (time : Option Nat) : List (String × LogValue) :=
  (time.map fun nanos ↦ (name, .number (nanos / Backoff.nanosPerMilli % UInt64.size))).toList

/-- The word for a consistency. -/
def consistencyWord : Option Bool → String
  | none => "None"
  | some true => "Some(true)"
  | some false => "Some(false)"

def messageText : String := "Fleet run finished"

def toMessage (r : FleetReport) : LogMessage where
  level := .info
  target := LogMessage.fleetTarget
  text := messageText
  fields := [
      ("sessions", .number r.sessions), ("started", .number r.started),
      ("converged", .number r.converged), ("failed", .number r.failed),
      ("reconnects", .number r.reconnects)]
    ++ timeField "min_convergence_ms" r.least ++ timeField "avg_convergence_ms" r.average
    ++ timeField "max_convergence_ms" r.greatest
    ++ [("consistent", .text (consistencyWord r.consistent))]

end FleetReport

end ProxyFleet
