import ProxyFleet.Fleet.Backoff
import ProxyFleet.Fleet.Convergence
import ProxyFleet.Logging.Message
import ProxyFleet.Store.Difference

/-!
# Slots

A fleet has a slot for each of its proxies. A slot connects, waits until its session has converged,
keeps the session open until it closes, and connects again, until the fleet is cancelled. The
attempts that a slot makes before that are given as a list; what comes of them is a function of the
list.
-/

namespace ProxyFleet

/-- How an open session of a slot ends. -/
inductive SessionEnd
  /-- The fleet is cancelled while the session has kept these resources. -/
  | cancelled (kept : Store)
  /-- The session closes. -/
  | closed
deriving DecidableEq

/-- What becomes of an attempt to connect. -/
inductive Attempt
  /-- There is no connection. -/
  | failed (failure : Failure)
  /-- There is a session. Its latency is known if it converged, the failure if it did not, and
  neither if the fleet was cancelled before. -/
  | opened (now : Instant) (convergence : Option (Except Failure Nat)) (ending : SessionEnd)

structure SlotOutcome where
  /-- Whether it ever connected. -/
  started : Bool := false
  /-- How often it connected again. -/
  reconnects : Nat := 0
  /-- The nanoseconds until its first convergence. -/
  convergence : Option Nat := none
  /-- Why it gave up. -/
  error : Option String := none
  /-- What its session had kept when the fleet was cancelled. -/
  kept : Option Store := none
deriving DecidableEq

namespace SlotOutcome

def connected (o : SlotOutcome) : SlotOutcome :=
  { o with started := true, reconnects := if o.started then o.reconnects + 1 else o.reconnects }

/-- The outcome with a convergence, unless there was one before. -/
def converged (o : SlotOutcome) (convergence : Option (Except Failure Nat)) : SlotOutcome :=
  match convergence with
  | some (.ok nanos) => { o with convergence := some (o.convergence.getD nanos) }
  | _ => o

/-- The outcome of a slot that broke down: nothing else counts. -/
def brokenDown : SlotOutcome := { error := some "the session broke down" }

end SlotOutcome

structure SlotRules where
  /-- The seconds that a session may take to converge. -/
  convergenceSeconds : Nat
  /-- Whether sessions keep what they receive. -/
  keepsStore : Bool

namespace Slot

/-- What comes of the attempts of a slot, after what came of earlier ones. A slot gives up on a
failure that no new attempt mends, and breaks down if the clock cannot show the end of the time to
converge. The fleet is cancelled at the end of the list. -/
def run (rules : SlotRules) : SlotOutcome → List Attempt → SlotOutcome
  | o, [] => o
  | o, .failed e :: rest =>
    if e.isRetryable then run rules o rest else { o with error := some e.message }
  | o, .opened now convergence ending :: rest =>
    match now.after? rules.convergenceSeconds with
    | none => .brokenDown
    | some _ =>
      let o := o.connected.converged convergence
      match ending with
      | .cancelled kept => if rules.keepsStore then { o with kept := some kept } else o
      | .closed => run rules o rest

def outcome (rules : SlotRules) (attempts : List Attempt) : SlotOutcome := run rules {} attempts

/-- The nanoseconds that a slot waits after each of its attempts, up to the last one that it waits
after. -/
def delays : Backoff → List Attempt → List Nat
  | _, [] => []
  | b, .failed e :: rest =>
    if e.isRetryable then b.next.1 :: delays b.next.2 rest else []
  | b, .opened _ _ ending :: rest =>
    match ending with
    | .cancelled _ => []
    | .closed => b.reset.next.1 :: delays b.reset.next.2 rest

/-! ## Messages -/

def message (level : LogLevel) (text : String) (fields : List (String × LogValue) := []) : LogMessage :=
  { level, target := LogMessage.fleetTarget, text, fields }

/-- The messages about the convergence of a session. -/
def convergenceMessages : Option (Except Failure Nat) → List LogMessage
  | none => []
  | some (.ok nanos) =>
    [message .debug "Session converged" [("elapsed_ms", .number (nanos / Backoff.nanosPerMilli))]]
  | some (.error e) =>
    [message .warn "Session did not converge" [LogMessage.failureField e.message]]

def messages (rules : SlotRules) : List Attempt → List LogMessage
  | [] => []
  | .failed e :: rest =>
    if e.isRetryable then
      message .warn "Connect failed, backing off" [LogMessage.failureField e.message]
        :: messages rules rest
    else [message .warn "Connect failed permanently" [LogMessage.failureField e.message]]
  | .opened now convergence ending :: rest =>
    match now.after? rules.convergenceSeconds with
    | none => [message .warn "Fleet session task failed"]
    | some _ =>
      convergenceMessages convergence
        ++ match ending with
          | .cancelled _ => []
          | .closed => message .info "Session closed, reconnecting" :: messages rules rest

end Slot

end ProxyFleet
