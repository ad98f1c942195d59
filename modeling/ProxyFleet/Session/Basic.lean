import ProxyFleet.Event.Queue
import ProxyFleet.Resource.DecoderTable
import ProxyFleet.Session.Ledger
import ProxyFleet.Transport.Basic

/-!
# Sessions

A session is the state that its activities share: a receiver that processes one response after the
other, callers that begin the subscriptions, and callers that close it. What an activity does
without letting go is one function on that state. Whoever closes the session first closes the
transport, then clears the subscriptions, and then notes the close for those who wait; a response
that meets a closed transport changes nothing.
-/

namespace ProxyFleet

inductive Warning
  /-- A resource is of another kind than its response. -/
  | unexpectedKind
  | undecodable (failure : Failure)
  /-- A response has a type that no kind of resource has. -/
  | unsupported (mode : Mode)
  | unsent (failure : Failure)
  /-- A failure ended the session. -/
  | terminated (failure : Failure)
deriving DecidableEq

namespace Warning

def message : Warning → String
  | unexpectedKind => "Skipping resource of unexpected type"
  | undecodable _ => "Skipping undecodable resource"
  | unsupported .complete => "Response for unsupported type"
  | unsupported .incremental => "Delta response for unsupported type"
  | unsent _ => "Failed to send ADS request"
  | terminated _ => "ADS session terminated"

def failure? : Warning → Option Failure
  | unexpectedKind => none
  | undecodable failure => some failure
  | unsupported _ => none
  | unsent failure => some failure
  | terminated failure => some failure

end Warning

/-- What does not change in a session. -/
structure Profile where
  /-- How it talks to the control plane. -/
  mode : Mode
  /-- Who it claims to be. -/
  node : Node
  /-- What it can decode. -/
  decoders : DecoderTable

/-- One step of the receiver between two moments at which others may act. -/
inductive Step
  | send (draft : Draft)
  /-- Tell those who wait that resources of a kind came in. -/
  | publish (kind : ResourceKind)
deriving DecidableEq

inductive Receiver
  | idle
  | working
  /-- It waits for room for a request to a type URL, and has these steps left. -/
  | sending (typeUrl : String) (rest : List Step)
  | ended
deriving DecidableEq

structure Session where
  /-- What does not change. -/
  profile : Profile
  /-- What it remembers. -/
  ledger : Ledger
  /-- The stream of requests and responses. -/
  transport : Transport Request Response
  /-- The events that nobody took yet. -/
  events : EventQueue
  /-- Whether some request was made with the node in it. -/
  nodeTold : Bool := false
  /-- Whether somebody began the subscriptions. -/
  watchBegun : Bool := false
  /-- What the receiver is doing. -/
  receiver : Receiver := .idle
  /-- All warnings, the oldest first. -/
  warnings : List Warning := []

namespace Session

/-- Who a sender is: the receiver of responses. -/
def receiverName : String := "receiver"

/-- Who a sender is: a caller that begins the subscriptions. -/
def callerName : String := "caller"

/-- Whether those who ask are told that the session is closed. -/
def isClosed (s : Session) : Bool := s.events.closed

def warn (s : Session) (w : Warning) : Session := { s with warnings := s.warnings ++ [w] }

/-! ## Beginnings -/

/-- A session over a stream on which nothing was sent yet. -/
def onStream (profile : Profile) (keepsStore : Bool) (eventBuffer : Nat) (capacity : Option Nat) :
    Session where
  profile := profile
  ledger := .new keepsStore
  transport := { outbound := { capacity := capacity } }
  events := .new eventBuffer

/-- A request, with the node in it if it is the first one that is made. -/
def makeRequest (s : Session) (draft : Draft) : Request × Session :=
  ({ draft := draft, node := if s.nodeTold then none else some s.profile.node },
    { s with nodeTold := true })

/-- The requests that a stream is opened with; the first one has the node in it. -/
def openingRequests (profile : Profile) : List Request :=
  profile.mode.opening.zipIdx.map fun (draft, index) ↦
    { draft := draft, node := if index = 0 then some profile.node else none }

/-- A session over a stream that was opened with the first requests. -/
def connected (profile : Profile) (keepsStore : Bool) (eventBuffer : Nat) : Session where
  profile := profile
  ledger := (Ledger.new keepsStore).beginWatch profile.mode
  transport := { outbound := { capacity := none, sent := openingRequests profile } }
  events := .new eventBuffer
  nodeTold := true
  watchBegun := true

/-! ## Closing, in three moments -/

/-- Closes the transport. -/
def closeTransport (s : Session) : Session :=
  { s with transport := s.transport.close (s.receiver = .idle) }

/-- Clears the subscriptions. -/
def clearWatches (s : Session) : Session := { s with ledger := s.ledger.withWatches .empty }

/-- Notes the close for those who wait; the first one to do so gives the reason if there is one. -/
def latchClose (s : Session) (reason : Option Failure) : Session :=
  let (first, events) := s.events.publishClose
  let s := { s with events := events }
  match first, reason with
  | true, some failure => s.warn (.terminated failure)
  | _, _ => s

/-- Closes the session. -/
def teardown (s : Session) (reason : Option Failure) : Session :=
  (s.closeTransport.clearWatches).latchClose reason

/-- Closes the session on behalf of a caller. -/
def close (s : Session) : Session := s.teardown none

/-! ## Sending -/

/-- Makes a request and sends it in the name of somebody: done, failed, or (with no outcome) it
waits for room. -/
def send (s : Session) (who : String) (draft : Draft) : Option (Except Failure Unit) × Session :=
  let (request, s) := s.makeRequest draft
  match s.transport.send who draft.typeUrl request with
  | (some (.error e), t) => (some (.error e), { s with transport := t }.warn (.unsent e))
  | (outcome, t) => (outcome, { s with transport := t })

/-- The steps of the receiver, until it has to wait for room. A request that fails does not stop
it. -/
def run (s : Session) : List Step → Session
  | [] => { s with receiver := .idle }
  | .publish kind :: rest => ({ s with events := (s.events.publish kind).2 }).run rest
  | .send draft :: rest =>
    match s.send receiverName draft with
    | (some _, s) => s.run rest
    | (none, s) => { s with receiver := .sending draft.typeUrl rest }

/-! ## Processing a response -/

/-- Decodes payloads one after the other and keeps those of a kind; warns of the others. -/
def decodeBatch (s : Session) (kind : ResourceKind) : List Payload → List Resource × Session
  | [] => ([], s)
  | payload :: rest =>
    let s := if s.profile.decoders.endsSession payload then s.close else s
    match s.profile.decoders.decode payload with
    | .ok resource =>
      if resource.kind = kind then
        let (resources, s) := s.decodeBatch kind rest
        (resource :: resources, s)
      else (s.warn .unexpectedKind).decodeBatch kind rest
    | .error e => (s.warn (.undecodable e)).decodeBatch kind rest

/-- Changes the ledger as a response demands, unless the transport is closed, and says what to do
then. -/
def apply (s : Session) (r : Response) (kind : ResourceKind) (resources : List Resource) :
    List Step × Session :=
  if s.transport.closed then ([], s)
  else
    let (ledger, drafts) := s.ledger.digest s.profile.mode r kind resources
    (drafts.map .send ++ [.publish kind], { s with ledger := ledger })

/-- Takes in a response, and says what to do then. A response of an unknown type is acknowledged and
no more. -/
def absorb (s : Session) (r : Response) : List Step × Session :=
  match ResourceKind.ofTypeUrl? r.typeUrl with
  | none => ([.send (s.profile.mode.ack r .empty)], s.warn (.unsupported s.profile.mode))
  | some kind =>
    let (resources, s) := s.decodeBatch kind r.payloads
    s.apply r kind resources

/-- Processes a response. -/
def respond (s : Session) (r : Response) : Session :=
  let (steps, s) := { s with receiver := .working }.absorb r
  s.run steps

/-- The receiver meets a failure and closes the session. -/
def fail (s : Session) (e : Failure) : Session :=
  { { s with receiver := .ended }.teardown (some e) with receiver := .ended }

/-! ## Beginning the subscriptions -/

/-- What became of an attempt to begin the subscriptions. -/
inductive WatchOutcome
  /-- They are begun, by this attempt or another. -/
  | done
  /-- A request failed. -/
  | failed (failure : Failure)
  /-- There is no room for a request. -/
  | blocked
deriving DecidableEq

/-- Takes the right to begin the subscriptions; says whether it was still there. -/
def claimWatch (s : Session) : Bool × Session := (!s.watchBegun, { s with watchBegun := true })

/-- Notes the first subscriptions. -/
def beginWatch (s : Session) : Session := { s with ledger := s.ledger.beginWatch s.profile.mode }

/-- Sends requests until one of them fails. -/
def sendAll (s : Session) : List Draft → WatchOutcome × Session
  | [] => (.done, s)
  | draft :: rest =>
    match s.send callerName draft with
    | (some (.ok _), s) => s.sendAll rest
    | (some (.error e), s) => (.failed e, s)
    | (none, s) =>
      (.blocked, { s with
        transport := { s.transport with outbound := s.transport.outbound.withdraw callerName } })

/-- Begins the subscriptions, unless the session is closed or somebody else did. A request for which
there is no room is given up in the end. -/
def watch (s : Session) : WatchOutcome × Session :=
  if s.isClosed then (.failed .closed, s)
  else
    match s.claimWatch with
    | (false, s) => (.done, s)
    | (true, s) => s.beginWatch.sendAll s.profile.mode.opening

end Session

end ProxyFleet
