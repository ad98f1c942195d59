import ProxyFleet.Session.Settle

/-!
# Plays of a session

A play is a finite sequence of moves, each of which somebody makes while nobody else does anything:
callers begin the subscriptions, close the session and wait for events, the receiver takes in
responses or meets a failure, and the other side sends, reads or stops accepting requests. The
statements about all states of a session quantify over all plays from a session that just began.
That these are all the states there are is the last section: however the other side behaves, a
session that goes on as far as it can goes on by moves.

## What a move can change

Closing is final, and so is the refusal of requests: `Later` says what no move takes back. Most
moves change nothing else that matters for the protocol, unless they close the session, and that is
`Quiet`: what a session remembers has to be followed through two moves only, and only while it is
open.
-/

namespace ProxyFleet

/-! ## Marks that traffic leaves alone -/

namespace Outbound

universe u

variable {α : Type u} (o : Outbound α)

theorem accepting_offer (who : String) (request : α) :
    (o.offer who request).2.accepting = o.accepting := by
  rw [offer]
  split
  · rfl
  · split <;> rfl

theorem accepting_letIn (steps : Nat) : (letIn steps o).2.accepting = o.accepting := by
  induction steps generalizing o with
  | zero => rfl
  | succ steps ih =>
    rw [letIn]
    split
    · rfl
    · split
      · exact ih _
      · rfl

theorem accepting_readAll : o.readAll.2.accepting = o.accepting := by
  rw [readAll]
  split
  · exact accepting_letIn ..
  · rfl

end Outbound

namespace Transport

universe u v

variable {α : Type u} {β : Type v} (t : Transport α β)

theorem closed_send (who typeUrl : String) (request : α) :
    (t.send who typeUrl request).2.closed = t.closed := by
  rw [send]
  split <;> rfl

theorem accepting_send (who typeUrl : String) (request : α) :
    (t.send who typeUrl request).2.outbound.accepting = t.outbound.accepting := by
  rw [send]
  split
  · rfl
  · exact Outbound.accepting_offer ..

end Transport

theorem EventQueue.closed_publish (q : EventQueue) (k : ResourceKind) :
    (q.publish k).2.closed = q.closed := by
  rw [publish]
  split <;> rfl

theorem EventQueue.closed_takeClose (q : EventQueue) (want : Option Event) :
    (q.takeClose want).2.closed = q.closed := by
  rw [takeClose]
  split <;> rfl

theorem EventQueue.closed_poll (q : EventQueue) (want : Option Event) :
    (q.poll want).2.closed = q.closed := by
  rw [poll]
  split
  · rfl
  · split
    · exact EventQueue.closed_takeClose { q with buffer := [] } want
    · rfl

theorem EventQueue.closed_wait (q : EventQueue) (want : Option Event) (millis : Nat) :
    (q.wait want millis).2.closed = q.closed := by
  have h := q.closed_poll want
  rw [wait]
  split
  · next heq => rw [heq] at h; exact h
  · next heq => rw [heq] at h; exact h

namespace Session

/-! ## Moves and plays -/

/-- What somebody does to a session. -/
inductive Move
  | watch
  | close
  /-- Something happens to the responses on their way in: the other side sends one or ends the
  stream, or the receiver takes the next one out. -/
  | inbound (i : Inbound Response)
  /-- The receiver, if it waits for a response, takes this one in. -/
  | respond (r : Response)
  /-- The receiver, if it waits for a response, meets a failure. -/
  | fail (e : Failure)
  /-- A caller waits for an event. -/
  | wait (want : Option Event) (millis : Nat)
  /-- A caller drops all events. -/
  | clear
  /-- The other side reads all requests. -/
  | read
  /-- The other side stops accepting requests. -/
  | refuse

/-- The session with another sending half of its stream. -/
def withOutbound (s : Session) (o : Outbound Request) : Session :=
  { s with transport := { s.transport with outbound := o } }

/-- The other side reads all requests, and the receiver goes on behind one that this lets in. -/
def makeRoom (s : Session) : Session :=
  if receiverName ∈ s.transport.outbound.readAll.1 then
    (s.withOutbound s.transport.outbound.readAll.2).resume (.ok ())
  else s.withOutbound s.transport.outbound.readAll.2

theorem readRequests_eq_makeRoom (s : Session) :
    s.readRequests = if receiverName ∈ s.transport.outbound.readAll.1 then s.makeRoom.proceed
      else s.makeRoom := by
  rw [makeRoom]
  by_cases h : receiverName ∈ s.transport.outbound.readAll.1
  · rw [if_pos h, if_pos h]
    exact if_pos h
  · rw [if_neg h, if_neg h]
    exact if_neg h

theorem refuseRequests_eq (s : Session) :
    s.refuseRequests = match s.receiver with
      | .sending url _ =>
        if receiverName ∈ s.transport.outbound.stop.1 then
          (s.withOutbound s.transport.outbound.stop.2).resume (.error (Transport.refusal url))
        else s.withOutbound s.transport.outbound.stop.2
      | _ => s.withOutbound s.transport.outbound.stop.2 := rfl

/-- The session after a move. -/
def move (s : Session) : Move → Session
  | .watch => s.watch.2
  | .close => s.close
  | .inbound i => { s with transport := { s.transport with inbound := i } }
  | .respond r => if s.receiver = .idle then s.respond r else s
  | .fail e => if s.receiver = .idle then s.fail e else s
  | .wait want millis => { s with events := (s.events.wait want millis).2 }
  | .clear => { s with events := s.events.clear.2 }
  | .read => s.makeRoom
  | .refuse => s.refuseRequests

/-- The session after moves, one after the other. -/
def play (s : Session) (moves : List Move) : Session := moves.foldl move s

@[simp] theorem play_nil (s : Session) : s.play [] = s := rfl

@[simp] theorem play_concat (s : Session) (moves : List Move) (m : Move) :
    s.play (moves ++ [m]) = (s.play moves).move m := by
  rw [play, play, List.foldl_append, List.foldl_cons, List.foldl_nil]

theorem play_append (s : Session) (moves more : List Move) :
    s.play (moves ++ more) = (s.play moves).play more := by
  rw [play, play, play, List.foldl_append]

/-- The response that the receiver takes in with a move, if any. -/
def hears (s : Session) : Move → List Response
  | .respond r => if s.receiver = .idle then [r] else []
  | _ => []

/-- The responses that the receiver takes in with moves, in order. -/
def heard (s : Session) : List Move → List Response
  | [] => []
  | m :: rest => s.hears m ++ (s.move m).heard rest

theorem heard_append (s : Session) (moves more : List Move) :
    s.heard (moves ++ more) = s.heard moves ++ (s.play moves).heard more := by
  induction moves generalizing s with
  | nil => rfl
  | cons m rest ih => rw [List.cons_append, heard, heard, ih, List.append_assoc]; rfl

@[simp] theorem heard_concat (s : Session) (moves : List Move) (m : Move) :
    s.heard (moves ++ [m]) = s.heard moves ++ (s.play moves).hears m := by
  rw [heard_append, heard, heard, List.append_nil]

theorem heard_respond_cons {s : Session} {r : Response} {rest : List Move}
    (hidle : s.receiver = .idle) :
    s.heard (.respond r :: rest) = r :: (s.respond r).heard rest := by
  have hmove : s.move (.respond r) = s.respond r := if_pos hidle
  rw [heard, hears, if_pos hidle, hmove]
  rfl

/-- A session that just began: over a stream on which nothing was sent yet, or over one that was
opened with the first requests. -/
inductive Start (profile : Profile) (keepsStore : Bool) : Session → Prop
  | onStream (eventBuffer : Nat) (capacity : Option Nat) :
      Start profile keepsStore (onStream profile keepsStore eventBuffer capacity)
  | connected (eventBuffer : Nat) :
      Start profile keepsStore (connected profile keepsStore eventBuffer)

/-! ## What no move takes back -/

/-- One session can come after another. -/
structure Later (s t : Session) : Prop where
  /-- They are the same session. -/
  profile : t.profile = s.profile
  /-- A closed session stays closed. -/
  closed : s.transport.closed = true → t.transport.closed = true
  /-- Those who ask are told of a close as soon as it is complete. -/
  latched : s.events.closed = s.transport.closed → t.events.closed = t.transport.closed
  /-- Who stopped accepting requests does not begin again. -/
  accepting : t.transport.outbound.accepting = true → s.transport.outbound.accepting = true

/-- One session can come after another, and what matters for the protocol is as before, unless it
was closed meanwhile. -/
structure Quiet (s t : Session) : Prop extends Later s t where
  /-- Nobody began the subscriptions meanwhile. -/
  watchBegun : t.watchBegun = s.watchBegun
  /-- An open session remembers what it remembered. -/
  ledger : t.transport.closed = false → t.ledger = s.ledger

namespace Later

variable {s t u : Session}

theorem refl (s : Session) : Later s s := ⟨rfl, id, id, id⟩

theorem trans (h : Later s t) (h' : Later t u) : Later s u where
  profile := h'.profile.trans h.profile
  closed := h'.closed ∘ h.closed
  latched := h'.latched ∘ h.latched
  accepting := h.accepting ∘ h'.accepting

theorem opened (h : Later s t) (ht : t.transport.closed = false) : s.transport.closed = false := by
  rw [Bool.eq_false_iff]
  intro hs
  rw [h.closed hs] at ht
  cases ht

end Later

namespace Quiet

variable {s t u : Session}

theorem refl (s : Session) : Quiet s s := ⟨.refl s, rfl, fun _ ↦ rfl⟩

theorem trans (h : Quiet s t) (h' : Quiet t u) : Quiet s u where
  toLater := h.toLater.trans h'.toLater
  watchBegun := h'.watchBegun.trans h.watchBegun
  ledger hu := (h'.ledger hu).trans (h.ledger (h'.opened hu))

/-- Sending leaves the marks of a transport alone. -/
theorem of_traffic {transport : Transport Request Response} {nodeTold : Bool} {receiver : Receiver}
    {warnings : List Warning} (hc : transport.closed = s.transport.closed)
    (ha : transport.outbound.accepting = true → s.transport.outbound.accepting = true) :
    Quiet s { s with transport, nodeTold, receiver, warnings } where
  profile := rfl
  closed := hc.trans
  latched h := h.trans hc.symm
  accepting := ha
  watchBegun := rfl
  ledger _ := rfl

/-- So do events, unless one of them is the close. -/
theorem of_events {events : EventQueue} (hc : events.closed = s.events.closed) :
    Quiet s { s with events } where
  profile := rfl
  closed := id
  latched := hc.trans
  accepting := id
  watchBegun := rfl
  ledger _ := rfl

end Quiet

/-! ## What is quiet -/

variable (s : Session)

theorem quiet_warn (w : Warning) : Quiet s (s.warn w) := .of_traffic rfl id

theorem quiet_send (who : String) (draft : Draft) : Quiet s (s.send who draft).2 := by
  have hc := s.transport.closed_send who draft.typeUrl (s.makeRequest draft).1
  have ha := s.transport.accepting_send who draft.typeUrl (s.makeRequest draft).1
  have hsent : Quiet s { s with
      transport := (s.transport.send who draft.typeUrl (s.makeRequest draft).1).2
      nodeTold := true } := .of_traffic hc ha.symm.trans
  rw [send, makeRequest]
  rw [makeRequest] at hsent
  dsimp only at hsent ⊢
  split
  · next heq =>
    rw [heq] at hsent
    exact hsent.trans (quiet_warn ..)
  · next heq =>
    rw [heq] at hsent
    exact hsent

/-- The steps of the receiver publish and send, and nothing else. -/
theorem quiet_run (steps : List Step) : Quiet s (s.run steps) := by
  induction steps generalizing s with
  | nil => exact .of_traffic rfl id
  | cons step rest ih =>
    cases step with
    | publish kind => exact (Quiet.of_events (s.events.closed_publish kind)).trans (ih _)
    | send draft =>
      have hsend := quiet_send s receiverName draft
      rw [run]
      split
      · next heq =>
        rw [heq] at hsend
        exact hsend.trans (ih _)
      · next heq =>
        rw [heq] at hsend
        exact hsend.trans (.of_traffic rfl id)

theorem quiet_sendAll (drafts : List Draft) : Quiet s (s.sendAll drafts).2 := by
  induction drafts generalizing s with
  | nil => exact .refl s
  | cons draft rest ih =>
    have hsend := quiet_send s callerName draft
    rw [sendAll]
    split
    · next heq =>
      rw [heq] at hsend
      exact hsend.trans (ih _)
    · next heq =>
      rw [heq] at hsend
      exact hsend
    · next heq =>
      rw [heq] at hsend
      exact hsend.trans (.of_traffic rfl id)

variable {s} in
theorem resume_of_sending {url : String} {rest : List Step} (h : s.receiver = .sending url rest) :
    s.resume (.ok ()) = s.run rest := by
  rw [resume, h]

variable {s} in
theorem resume_of_unsent {url : String} {rest : List Step} {e : Failure}
    (h : s.receiver = .sending url rest) :
    s.resume (.error e) = (s.warn (.unsent e)).run rest := by
  rw [resume, h]

theorem quiet_resume (outcome : Except Failure Unit) : Quiet s (s.resume outcome) := by
  unfold resume
  split
  · cases outcome with
    | ok _ => exact quiet_run ..
    | error e => exact (quiet_warn ..).trans (quiet_run ..)
  · exact .refl s

theorem quiet_withOutbound {o : Outbound Request}
    (h : o.accepting = true → s.transport.outbound.accepting = true) :
    Quiet s (s.withOutbound o) := .of_traffic rfl h

theorem quiet_makeRoom : Quiet s s.makeRoom := by
  have hread := s.quiet_withOutbound s.transport.outbound.accepting_readAll.symm.trans
  rw [makeRoom]
  split
  · exact hread.trans (quiet_resume ..)
  · exact hread

theorem quiet_refused : Quiet (s.withOutbound s.transport.outbound.stop.2) s.refuseRequests := by
  rw [refuseRequests_eq]
  split
  · split
    · exact quiet_resume ..
    · exact .refl _
  · exact .refl _

theorem quiet_refuseRequests : Quiet s s.refuseRequests :=
  (s.quiet_withOutbound fun h ↦ Bool.noConfusion h).trans s.quiet_refused

theorem latchClose_eq (reason : Option Failure) :
    s.latchClose reason = match !s.events.closed, reason with
      | true, some failure =>
        { s with events := s.events.publishClose.2 }.warn (.terminated failure)
      | _, _ => { s with events := s.events.publishClose.2 } := rfl

/-- What a close leaves as it is. -/
theorem teardown_spec (reason : Option Failure) :
    (s.teardown reason).profile = s.profile ∧
    (s.teardown reason).transport.outbound = s.transport.outbound ∧
    (s.teardown reason).receiver = s.receiver ∧
    (s.teardown reason).watchBegun = s.watchBegun := by
  rw [teardown, latchClose_eq]
  split <;> exact ⟨rfl, rfl, rfl, rfl⟩

theorem closed_teardown (reason : Option Failure) :
    (s.teardown reason).transport.closed = true ∧ (s.teardown reason).events.closed = true := by
  rw [teardown, latchClose_eq]
  split <;> exact ⟨rfl, rfl⟩

/-- A caller that closes the session gives no reason, so nobody is warned. -/
theorem close_eq : s.close = { s with
    transport := s.transport.close (s.receiver = .idle)
    ledger := s.ledger.withWatches .empty
    events := { s.events with closed := true } } := by
  rw [close, teardown, latchClose_eq]
  split
  · next h => cases h
  · rfl

/-- A close changes what the session remembers, but then it is no longer open. -/
theorem quiet_teardown (reason : Option Failure) : Quiet s (s.teardown reason) := by
  obtain ⟨hp, ho, -, hw⟩ := s.teardown_spec reason
  obtain ⟨hc, he⟩ := s.closed_teardown reason
  exact {
    profile := hp
    closed := fun _ ↦ hc
    latched := fun _ ↦ he.trans hc.symm
    accepting := fun h ↦ by rw [ho] at h; exact h
    watchBegun := hw
    ledger := fun h ↦ by rw [hc] at h; cases h }

theorem quiet_fail (e : Failure) : Quiet s (s.fail e) :=
  ((Quiet.of_traffic rfl id).trans (quiet_teardown ..)).trans (.of_traffic rfl id)

theorem quiet_decodeBatch (kind : ResourceKind) (payloads : List Payload) :
    Quiet s (s.decodeBatch kind payloads).2 := by
  induction payloads generalizing s with
  | nil => exact .refl s
  | cons payload rest ih =>
    -- The rest of a batch is decoded even if this payload closed the session.
    have hend : Quiet s (if s.profile.decoders.endsSession payload then s.close else s) := by
      split
      · exact quiet_teardown ..
      · exact .refl s
    rw [decodeBatch]
    split
    · split
      · exact hend.trans (ih _)
      · exact hend.trans ((quiet_warn ..).trans (ih _))
    · exact hend.trans ((quiet_warn ..).trans (ih _))

/-- Only to begin the subscriptions and to take in a response is more than quiet. -/
theorem quiet_move {m : Move} (hw : m ≠ .watch) (hr : ∀ r, m ≠ .respond r) :
    Quiet s (s.move m) := by
  cases m with
  | watch => exact absurd rfl hw
  | respond r => exact absurd rfl (hr r)
  | close => exact quiet_teardown ..
  | inbound i => exact .of_traffic rfl id
  | fail e =>
    rw [move]
    split
    · exact quiet_fail ..
    · exact .refl s
  | wait want millis => exact .of_events (s.events.closed_wait want millis)
  | clear => exact .of_events rfl
  | read => exact quiet_makeRoom s
  | refuse => exact quiet_refuseRequests s

/-! ## Whatever the other side does is a play -/

/-- A session can become another one by moves. -/
def Reaches (s t : Session) : Prop := ∃ moves, s.play moves = t

namespace Reaches

variable {s} {t u : Session}

theorem refl (s : Session) : Reaches s s := ⟨[], rfl⟩

theorem trans (h : Reaches s t) (h' : Reaches t u) : Reaches s u := by
  obtain ⟨moves, rfl⟩ := h
  obtain ⟨more, rfl⟩ := h'
  exact ⟨moves ++ more, play_append ..⟩

theorem of_move (m : Move) : Reaches s (s.move m) := ⟨[m], rfl⟩

theorem respond (h : s.receiver = .idle) (r : Response) : Reaches s (s.respond r) :=
  ⟨[.respond r], if_pos h⟩

theorem fail (h : s.receiver = .idle) (e : Failure) : Reaches s (s.fail e) := ⟨[.fail e], if_pos h⟩

end Reaches

theorem receive_snd : s.transport.receive.2 =
    { s.transport with inbound := s.transport.receive.2.inbound } := by
  rw [Transport.receive]
  split
  · rfl
  · split
    · rfl
    · split <;> rfl

theorem reaches_advance (rounds : Nat) : Reaches s (advance rounds s) := by
  induction rounds generalizing s with
  | zero => exact .refl s
  | succ rounds ih =>
    -- One round is two moves: something is taken out, and then it is taken in.
    have htaken : Reaches s { s with transport := s.transport.receive.2 } := by
      rw [receive_snd]
      exact .of_move (.inbound _)
    rw [advance]
    split
    · next hidle =>
      split
      · exact .refl s
      · next r t heq =>
        rw [heq] at htaken
        have hrespond := Reaches.respond (s := { s with transport := t }) hidle r
        exact htaken.trans (hrespond.trans (ih _))
      · next e t heq =>
        rw [heq] at htaken
        exact htaken.trans (Reaches.fail (s := { s with transport := t }) hidle e)
    · exact .refl s

theorem reaches_readRequests : Reaches s s.readRequests := by
  have hread : Reaches s s.makeRoom := .of_move .read
  rw [readRequests_eq_makeRoom]
  split
  · exact hread.trans (reaches_advance ..)
  · exact hread

theorem reaches_drain (rounds : Nat) : Reaches s (drain rounds s) := by
  induction rounds generalizing s with
  | zero => exact .refl s
  | succ rounds ih =>
    rw [drain]
    split
    · exact .refl s
    · exact (reaches_readRequests s).trans (ih _)

/-- Everybody goes on as far as possible by moves. -/
theorem reaches_settle (reads : Bool) : Reaches s (s.settle reads) := by
  rw [settle]
  split
  · exact (reaches_advance s _).trans (reaches_drain ..)
  · exact reaches_advance s _

theorem reaches_deliver (item : Except Status Response) : Reaches s (s.deliver item) := by
  have hpush : (s.transport.push item).2 =
      { s.transport with inbound := (s.transport.push item).2.inbound } := by
    rw [Transport.push]
    split <;> rfl
  rw [deliver, hpush]
  exact .of_move (.inbound _)

theorem reaches_finishWith (status : Status) : Reaches s (s.finishWith status) := by
  rw [finishWith]
  split
  · exact .of_move (.inbound _)
  · exact reaches_deliver ..

end Session

end ProxyFleet
