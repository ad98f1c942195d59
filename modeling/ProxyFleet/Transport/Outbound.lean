/-!
# Requests on their way out

Requests go out through a bounded buffer. One that finds no room waits behind those that came
before. What was accepted is kept as the whole sequence from the start, with a count of how much of
it was read.
-/

namespace ProxyFleet

universe u

structure Outbound (α : Type u) where
  /-- How many accepted requests may be unread; no bound if the other side reads at once. -/
  capacity : Option Nat
  /-- All requests that were accepted, in order. -/
  sent : List α := []
  /-- How many of them the other side read. -/
  read : Nat := 0
  /-- The requests that wait for room, each with the name of who waits. -/
  waiting : List (String × α) := []
  /-- Whether the other side accepts requests. -/
  accepting : Bool := true

/-- What becomes of a request at once. -/
inductive Offer
  | accepted
  | refused
  | waits
deriving DecidableEq

namespace Outbound

variable {α : Type u}

/-- The accepted requests that the other side can still read. -/
def unread (o : Outbound α) : List α := if o.accepting then o.sent.drop o.read else []

/-- Whether a request would be accepted at once. -/
def hasRoom (o : Outbound α) : Bool :=
  match o.capacity with
  | none => true
  | some n => o.unread.length < n

/-- Offers a request in the name of somebody. -/
def offer (o : Outbound α) (who : String) (request : α) : Offer × Outbound α :=
  if ¬ o.accepting then (.refused, o)
  else if o.waiting.isEmpty ∧ o.hasRoom then (.accepted, { o with sent := o.sent ++ [request] })
  else (.waits, { o with waiting := o.waiting ++ [(who, request)] })

/-- Takes back what somebody waits with. -/
def withdraw (o : Outbound α) (who : String) : Outbound α :=
  { o with waiting := o.waiting.filter (·.1 ≠ who) }

/-- Accepts requests that wait, as long as there is room: who need no longer wait. -/
def letIn : Nat → Outbound α → List String × Outbound α
  | 0, o => ([], o)
  | steps + 1, o =>
    match o.waiting with
    | [] => ([], o)
    | (who, request) :: rest =>
      if o.hasRoom then
        let (admitted, o) := letIn steps { o with sent := o.sent ++ [request], waiting := rest }
        (who :: admitted, o)
      else ([], o)

/-- The other side reads one request, which may make room for one that waits. -/
def readOne (o : Outbound α) : Option α × List String × Outbound α :=
  match o.unread with
  | [] => (none, [], o)
  | request :: _ =>
    let (admitted, o) := letIn o.waiting.length { o with read := o.read + 1 }
    (some request, admitted, o)

/-- The other side reads what was accepted, which may make room for more. -/
def readAll (o : Outbound α) : List String × Outbound α :=
  if o.accepting then letIn o.waiting.length { o with read := o.sent.length } else ([], o)

/-- The other side stops accepting requests for good, and reads no more: who waited in vain. -/
def stop (o : Outbound α) : List String × Outbound α :=
  (o.waiting.map (·.1), { o with accepting := false, waiting := [] })

end Outbound

end ProxyFleet
