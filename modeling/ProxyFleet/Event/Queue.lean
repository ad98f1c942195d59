import ProxyFleet.Event.Basic

/-!
# The queue of events

Updates wait in a bounded buffer and are dropped when it is full. The close of a session is kept
apart from them: it can neither be dropped nor overtake an update, and exactly one of those who
wait for it gets it.
-/

namespace ProxyFleet

/-- The events of a session that nobody took yet. -/
structure EventQueue where
  /-- How many updates are kept, at least one. -/
  capacity : Nat
  /-- The updates, the oldest first. -/
  buffer : List ResourceKind := []
  /-- Whether the session was closed. -/
  closed : Bool := false
  /-- Whether somebody was told so. -/
  closeTaken : Bool := false
deriving DecidableEq

namespace EventQueue

/-- The largest buffer that can be asked for. -/
def maxCapacity : Nat := 0x1fffffffffffffff

/-- The queue without events; a buffer for nothing is made one for a single update. -/
def new (capacity : Nat) : EventQueue := { capacity := max capacity 1 }

/-- Adds an update unless the session is closed or the buffer is full; says whether it did. -/
def publish (q : EventQueue) (kind : ResourceKind) : Bool × EventQueue :=
  if q.closed ∨ q.capacity ≤ q.buffer.length then (false, q)
  else (true, { q with buffer := q.buffer ++ [kind] })

/-- Notes that the session is closed; says whether it was still open. -/
def publishClose (q : EventQueue) : Bool × EventQueue := (!q.closed, { q with closed := true })

/-- The updates behind the first one that is wanted, and that one. -/
def seek (want : Option Event) : List ResourceKind → Option (ResourceKind × List ResourceKind)
  | [] => none
  | kind :: rest =>
    if want = none ∨ want = some (.update kind) then some (kind, rest) else seek want rest

/-- Takes the close of the session, if it is wanted and nobody took it. -/
def takeClose (q : EventQueue) (want : Option Event) : Except Failure Event × EventQueue :=
  if (want = none ∨ want = some .close) ∧ ¬ q.closeTaken then
    (.ok .close, { q with closeTaken := true })
  else (.error .closed, q)

/-- Takes the first wanted event and all updates before it. Nothing comes out if there is none and
the session is still open; the buffer is then empty. -/
def poll (q : EventQueue) (want : Option Event) : Option (Except Failure Event) × EventQueue :=
  match seek want q.buffer with
  | some (kind, rest) => (some (.ok (.update kind)), { q with buffer := rest })
  | none =>
    if q.closed then
      let (result, q) := { q with buffer := [] }.takeClose want
      (some result, q)
    else (none, { q with buffer := [] })

/-- What somebody waits for, in words. -/
def waitOperation : Option Event → String
  | some e => "wait for " ++ e.word
  | none => "wait for any event"

/-- The failure of one who waited in vain. -/
def timeout (want : Option Event) (millis : Nat) : Failure :=
  .timeout (waitOperation want) (millis % UInt64.size)

/-- Waits for an event while nothing else happens. -/
def wait (q : EventQueue) (want : Option Event) (millis : Nat) : Except Failure Event × EventQueue :=
  match q.poll want with
  | (some result, q) => (result, q)
  | (none, q) => (.error (timeout want millis), q)

/-- Drops all updates and counts them. -/
def clear (q : EventQueue) : Nat × EventQueue := (q.buffer.length, { q with buffer := [] })

end EventQueue

end ProxyFleet
