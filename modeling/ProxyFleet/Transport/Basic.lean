import ProxyFleet.Failure
import ProxyFleet.Transport.Outbound

/-!
# Transports

A transport is one stream of requests and responses. Closing it is final: from then on nothing is
sent or received, although a request that already waited for room may still get out.
-/

namespace ProxyFleet

universe u v

structure Inbound (β : Type v) where
  /-- What came in and was not taken: responses and failures of the stream. -/
  items : List (Except Status β) := []
  /-- Whether nothing more comes in. -/
  ended : Bool := false
  /-- Whether the stream was let go. -/
  dropped : Bool := false

/-- A stream of requests and responses. -/
structure Transport (α : Type u) (β : Type v) where
  outbound : Outbound α
  inbound : Inbound β := {}
  closed : Bool := false

namespace Transport

variable {α : Type u} {β : Type v}

/-- The failure of a request that the other side does not accept. -/
def refusal (typeUrl : String) : Failure := .send typeUrl "stream is no longer accepting requests"

/-- Sends a request in the name of somebody: done, failed, or (with no outcome) it waits for room.
-/
def send (t : Transport α β) (who : String) (typeUrl : String) (request : α) :
    Option (Except Failure Unit) × Transport α β :=
  if t.closed then (some (.error .closed), t)
  else
    let (offer, outbound) := t.outbound.offer who request
    let outcome : Option (Except Failure Unit) :=
      match offer with
      | .accepted => some (.ok ())
      | .refused => some (.error (refusal typeUrl))
      | .waits => none
    (outcome, { t with outbound := outbound })

/-- Takes what comes next, if it is there. The end of the stream is there for ever. -/
def receive (t : Transport α β) : Option (Except Failure β) × Transport α β :=
  if t.closed ∨ t.inbound.dropped then (some (.error .closed), t)
  else
    match t.inbound.items with
    | item :: rest =>
      let result : Except Failure β :=
        match item with
        | .ok response => .ok response
        | .error status => .error status.toFailure
      (some result, { t with inbound := { t.inbound with items := rest } })
    | [] =>
      if t.inbound.ended then (some (.error (.receive "stream closed by control plane" none)), t)
      else (none, t)

/-- The other side sends something; says whether anybody can get it. -/
def push (t : Transport α β) (item : Except Status β) : Bool × Transport α β :=
  if t.inbound.ended ∨ t.inbound.dropped then (false, t)
  else (true, { t with inbound := { t.inbound with items := t.inbound.items ++ [item] } })

def finish (t : Transport α β) : Transport α β :=
  { t with inbound := { t.inbound with ended := true } }

/-- Closes the transport. The stream of responses is let go unless somebody is about to take from
it. -/
def close (t : Transport α β) (beingRead : Bool) : Transport α β :=
  { t with
    closed := true
    inbound := if beingRead then t.inbound else { t.inbound with dropped := true, items := [] } }

def noMoreRequests (t : Transport α β) : Bool :=
  !t.outbound.accepting || (t.closed && t.outbound.unread.isEmpty && t.outbound.waiting.isEmpty)

end Transport

end ProxyFleet
