import ProxyFleet.Session.Basic

/-!
# Sessions and the other side

What the other side does to a session, and how the session goes on until nothing can move: the
receiver takes what came in, and waits where there is no room for a request until the other side
reads.
-/

namespace ProxyFleet.Session

/-- The receiver goes on as long as something is there for it, for at most so many rounds. -/
def advance : Nat → Session → Session
  | 0, s => s
  | rounds + 1, s =>
    match s.receiver with
    | .idle =>
      match s.transport.receive with
      | (none, _) => s
      | (some (.ok r), t) => advance rounds ({ s with transport := t }.respond r)
      | (some (.error e), t) => { s with transport := t }.fail e
    | _ => s

/-- The receiver goes on as far as it can. -/
def proceed (s : Session) : Session := s.advance (s.transport.inbound.items.length + 1)

/-- The receiver goes on behind a request for which it waited. -/
def resume (s : Session) (outcome : Except Failure Unit) : Session :=
  match s.receiver with
  | .sending _ rest =>
    let s :=
      match outcome with
      | .ok _ => s
      | .error e => s.warn (.unsent e)
    s.run rest
  | _ => s

/-- The other side reads all requests, and the receiver goes on if that makes room. -/
def readRequests (s : Session) : Session :=
  let (admitted, outbound) := s.transport.outbound.readAll
  let s := { s with transport := { s.transport with outbound := outbound } }
  if receiverName ∈ admitted then (s.resume (.ok ())).proceed else s

/-- The other side reads requests as they come, until none comes; for at most so many rounds. -/
def drain : Nat → Session → Session
  | 0, s => s
  | rounds + 1, s =>
    if s.transport.outbound.unread.isEmpty then s else drain rounds s.readRequests

/-- The number of requests that one response can give rise to. -/
def maxRequests : Nat := 8

/-- The session after everybody went on as far as possible; the other side reads requests or not. -/
def settle (s : Session) (reads : Bool) : Session :=
  let s := s.proceed
  if reads then s.drain (maxRequests * (s.transport.inbound.items.length + 2)) else s

/-- The other side sends a response or a failure. -/
def deliver (s : Session) (item : Except Status Response) : Session :=
  { s with transport := (s.transport.push item).2 }

/-- The other side ends the stream. -/
def finish (s : Session) : Session := { s with transport := s.transport.finish }

/-- The other side ends the stream with a status; one of success is an end like any other. -/
def finishWith (s : Session) (status : Status) : Session :=
  if status.isSuccess then s.finish else s.deliver (.error status)

/-- The other side stops accepting requests. -/
def refuseRequests (s : Session) : Session :=
  let (refused, outbound) := s.transport.outbound.stop
  let s := { s with transport := { s.transport with outbound := outbound } }
  match s.receiver with
  | .sending url _ =>
    if receiverName ∈ refused then s.resume (.error (Transport.refusal url)) else s
  | _ => s

/-- The requests that the other side read since it had read so many. -/
def requestsSince (s : Session) (count : Nat) : List Request :=
  (s.transport.outbound.sent.take s.transport.outbound.read).drop count

end ProxyFleet.Session
