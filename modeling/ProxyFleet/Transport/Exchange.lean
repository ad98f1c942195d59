import ProxyFleet.NameMap
import ProxyFleet.Transport.Basic

/-!
# Using a transport together

Several parties may send and receive on one transport at a time. Those who receive queue up, and
only the first one sees what comes in. Requests that wait for room get out in the order in which
they came.
-/

namespace ProxyFleet

universe u v

/-- What a party got in the end. -/
inductive Outcome (β : Type v)
  /-- The request was accepted. -/
  | sent
  | received (response : β)
  /-- Neither will ever be. -/
  | failed (failure : Failure)

/-- A transport and those who use it. -/
structure Exchange (α : Type u) (β : Type v) where
  transport : Transport α β
  /-- Those whose request waits for room, with its type URL. -/
  senders : List (String × String) := []
  /-- Those who wait for a response, the first one first. -/
  receivers : List String := []
  /-- What those got who are done. -/
  outcomes : List (String × Outcome β) := []

namespace Exchange

variable {α : Type u} {β : Type v}

/-- The outcome of a request. -/
def ofSent : Except Failure Unit → Outcome β
  | .ok _ => .sent
  | .error e => .failed e

/-- The outcome of an attempt to receive. -/
def ofReceived : Except Failure β → Outcome β
  | .ok response => .received response
  | .error e => .failed e

/-- Notes what a party got. -/
def note (x : Exchange α β) (id : String) (outcome : Outcome β) : Exchange α β :=
  { x with outcomes := (id, outcome) :: x.outcomes }

/-- What a party got, if it is done. -/
def outcome? (x : Exchange α β) (id : String) : Option (Outcome β) := x.outcomes.lookup id

/-- Lets those in front receive as long as there is anything for them. -/
def serve : List String → Exchange α β → Exchange α β
  | [], x => { x with receivers := [] }
  | id :: rest, x =>
    match x.transport.receive with
    | (none, _) => { x with receivers := id :: rest }
    | (some result, t) => serve rest ({ x with transport := t }.note id (ofReceived result))

/-- Everybody who waits for a response takes what there is. -/
def settle (x : Exchange α β) : Exchange α β := serve x.receivers x

/-- Notes that the requests of some were accepted. -/
def admitted (x : Exchange α β) (ids : List String) : Exchange α β :=
  let x := ids.foldl (fun x id ↦ x.note id .sent) x
  { x with senders := x.senders.filter (·.1 ∉ ids) }

/-- Sends a request; what becomes of it is noted under the name of the party. -/
def startSend (x : Exchange α β) (id typeUrl : String) (request : α) : Exchange α β :=
  match x.transport.send id typeUrl request with
  | (some result, t) => { x with transport := t }.note id (ofSent result)
  | (none, t) => { x with transport := t, senders := x.senders ++ [(id, typeUrl)] }

/-- Sends a request and gives it up if there is no room for it; nothing comes out then. -/
def send (x : Exchange α β) (typeUrl : String) (request : α) :
    Option (Except Failure Unit) × Exchange α β :=
  match x.transport.send "" typeUrl request with
  | (some result, t) => (some result, { x with transport := t })
  | (none, _) => (none, x)

/-- Waits for a response; what becomes of that is noted under the name of the party. -/
def startReceive (x : Exchange α β) (id : String) : Exchange α β :=
  { x with receivers := x.receivers ++ [id] }.settle

/-- Receives what is there; nothing comes out if it is not there or others wait already. -/
def receive (x : Exchange α β) : Option (Except Failure β) × Exchange α β :=
  if x.receivers.isEmpty then
    let (result, t) := x.transport.receive
    (result, { x with transport := t })
  else (none, x)

def readOne (x : Exchange α β) : Option α × Exchange α β :=
  let (request, ids, outbound) := x.transport.outbound.readOne
  (request, { x with transport := { x.transport with outbound := outbound } }.admitted ids)

def stop (x : Exchange α β) : Exchange α β :=
  let (_, outbound) := x.transport.outbound.stop
  let x := x.senders.foldl (fun x (id, url) ↦ x.note id (.failed (Transport.refusal url))) x
  { x with transport := { x.transport with outbound := outbound }, senders := [] }

/-- The other side sends something; says whether anybody can get it. -/
def push (x : Exchange α β) (item : Except Status β) : Bool × Exchange α β :=
  let (taken, t) := x.transport.push item
  (taken, { x with transport := t }.settle)

def finish (x : Exchange α β) : Exchange α β := { x with transport := x.transport.finish }.settle

def close (x : Exchange α β) : Exchange α β :=
  { x with transport := x.transport.close (!x.receivers.isEmpty) }.settle

end Exchange

end ProxyFleet
