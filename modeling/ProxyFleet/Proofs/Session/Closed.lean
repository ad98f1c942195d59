import ProxyFleet.Proofs.Session.Skipping

/-!
# After the close

A session is closed in two places: the transport, behind which nothing gets in or out, and the queue
of events, which tells those who wait. Each part of a session is guarded by one of the two, so a
session that is closed in both, wants nothing, and has nobody waiting for room can no longer change
in what matters: `Shut` is such a session, and `Frozen` says what stays. One move keeps both
(`Shut.move`), so every play does.

Whoever closes a session while nobody is at work leaves it shut. A close that comes in between,
while the receiver waits for room, would not: the request that waits may still get out.
-/

namespace ProxyFleet

/-! ## Events that are taken -/

namespace EventQueue

variable (q : EventQueue) (want : Option Event)

theorem seek_suffix {buffer rest : List ResourceKind} {k : ResourceKind}
    (h : seek want buffer = some (k, rest)) : rest <:+ buffer := by
  induction buffer with
  | nil => cases h
  | cons first behind ih =>
    rw [seek] at h
    split at h
    · cases h
      exact List.suffix_cons ..
    · exact (ih h).trans (List.suffix_cons ..)

theorem buffer_takeClose : (q.takeClose want).2.buffer = q.buffer := by
  rw [takeClose]
  split <;> rfl

theorem buffer_poll : (q.poll want).2.buffer <:+ q.buffer := by
  rw [poll]
  split
  · next heq => exact seek_suffix want heq
  · split
    · dsimp only
      rw [buffer_takeClose]
      exact List.nil_suffix
    · exact List.nil_suffix

theorem buffer_wait (millis : Nat) : (q.wait want millis).2.buffer <:+ q.buffer := by
  have hpoll := q.buffer_poll want
  rw [wait]
  split
  · next heq => rw [heq] at hpoll; exact hpoll
  · next heq => rw [heq] at hpoll; exact hpoll

end EventQueue

namespace Session

/-- A session that was closed while nobody was at work. -/
structure Shut (s : Session) : Prop where
  /-- Nothing gets in or out. -/
  transport : s.transport.closed = true
  /-- Those who wait are told. -/
  events : s.events.closed = true
  /-- Nothing is wanted. -/
  watches : s.ledger.watches = .empty
  /-- No request waits for room. -/
  waiting : s.transport.outbound.waiting = []

/-- What stays as it is in a session, although events may be taken. -/
structure Frozen (s t : Session) : Prop where
  /-- The same is remembered and kept. -/
  ledger : t.ledger = s.ledger
  /-- No request was accepted. -/
  sent : t.transport.outbound.sent = s.transport.outbound.sent
  /-- No event was added. -/
  buffer : t.events.buffer <:+ s.events.buffer

namespace Frozen

variable {s t u : Session}

theorem refl (s : Session) : Frozen s s := ⟨rfl, rfl, List.suffix_rfl⟩

theorem trans (h : Frozen s t) (h' : Frozen t u) : Frozen s u where
  ledger := h'.ledger.trans h.ledger
  sent := h'.sent.trans h.sent
  buffer := h'.buffer.trans h.buffer

end Frozen

/-! ## What becomes of an attempt -/

namespace Shut

variable {s : Session} (h : Shut s)

include h

theorem watch_eq : s.watch = (.failed .closed, s) := if_pos h.events

theorem publish_eq (k : ResourceKind) : s.events.publish k = (false, s.events) :=
  if_pos (.inl h.events)

theorem transport_send_eq (who typeUrl : String) (request : Request) :
    s.transport.send who typeUrl request = (some (.error .closed), s.transport) :=
  if_pos h.transport

theorem receive_eq : s.transport.receive = (some (.error .closed), s.transport) :=
  if_pos (.inl h.transport)

theorem send_eq (who : String) (draft : Draft) :
    s.send who draft =
      (some (.error .closed), { s with nodeTold := true }.warn (.unsent .closed)) := by
  have hfailed := h.transport_send_eq who draft.typeUrl (s.makeRequest draft).1
  rw [send]
  dsimp only [makeRequest] at hfailed ⊢
  rw [hfailed]

theorem transport_close_eq (beingRead : Bool) : s.transport.close beingRead =
    { s.transport with inbound := (s.transport.close beingRead).inbound } := by
  rw [Transport.close, Transport.mk.injEq]
  exact ⟨rfl, rfl, h.transport.symm⟩

/-- Closing once more lets go of the responses on their way in, and no more. -/
theorem teardown_eq (reason : Option Failure) : s.teardown reason =
    { s with transport := s.transport.close (s.receiver = .idle) } := by
  have hledger : s.ledger.withWatches .empty = s.ledger := by
    rw [← h.watches]
    rfl
  have hevents : s.events.publishClose = (false, s.events) := by
    have hsame : { s.events with closed := true } = s.events := by rw [← h.events]
    rw [EventQueue.publishClose, hsame, h.events]
    rfl
  rw [teardown, latchClose, closeTransport, clearWatches]
  dsimp only
  rw [hledger, hevents]

theorem run_eq (steps : List Step) : ∃ nodeTold warnings,
    s.run steps = { s with nodeTold, warnings, receiver := .idle } := by
  induction steps generalizing s with
  | nil => exact ⟨s.nodeTold, s.warnings, rfl⟩
  | cons step rest ih =>
    cases step with
    | publish k =>
      rw [run, h.publish_eq]
      exact ih h
    | send draft =>
      rw [run_send, h.send_eq]
      have hunsent : Shut ({ s with nodeTold := true }.warn (.unsent .closed)) :=
        ⟨h.transport, h.events, h.watches, h.waiting⟩
      obtain ⟨nodeTold, warnings, hrun⟩ := ih hunsent
      exact ⟨nodeTold, warnings, hrun⟩

theorem absorb_eq (r : Response) : ∃ steps inbound warnings,
    s.absorb r =
      (steps, { s with transport := { s.transport with inbound }, warnings }) := by
  cases hk : ResourceKind.ofTypeUrl? r.typeUrl with
  | none =>
    rw [absorb_of_none s hk]
    exact ⟨_, s.transport.inbound, _, rfl⟩
  | some k =>
    have hended : ∃ inbound, s.endedBy r.payloads =
        { s with transport := { s.transport with inbound } } := by
      rw [endedBy]
      split
      · exact ⟨_, by rw [close, h.teardown_eq, h.transport_close_eq]⟩
      · exact ⟨s.transport.inbound, rfl⟩
    obtain ⟨inbound, hended⟩ := hended
    have hdecoded : (s.decodeBatch k r.payloads).2 =
        { s with
          transport := { s.transport with inbound }
          warnings := (s.decodeBatch k r.payloads).2.warnings } := by
      have hunwarned := s.decodeBatch_unwarned k r.payloads
      rw [hended] at hunwarned
      exact congrArg (fun t ↦ { t with warnings := (s.decodeBatch k r.payloads).2.warnings })
        hunwarned
    have hclosed : (s.decodeBatch k r.payloads).2.transport.closed = true := by
      rw [hdecoded]
      exact h.transport
    refine ⟨[], inbound, (s.decodeBatch k r.payloads).2.warnings, ?_⟩
    rw [absorb_of_some s hk, apply, if_pos hclosed, ← hdecoded]

theorem respond_eq (r : Response) : ∃ inbound nodeTold warnings,
    s.respond r = { s with
      transport := { s.transport with inbound }, nodeTold, warnings, receiver := .idle } := by
  have hworking : Shut { s with receiver := .working } :=
    ⟨h.transport, h.events, h.watches, h.waiting⟩
  obtain ⟨steps, inbound, warnings, habsorb⟩ := hworking.absorb_eq r
  have habsorbed : Shut { s with
      receiver := .working, transport := { s.transport with inbound }, warnings } :=
    ⟨h.transport, h.events, h.watches, h.waiting⟩
  obtain ⟨nodeTold, warnings', hrun⟩ := habsorbed.run_eq steps
  refine ⟨inbound, nodeTold, warnings', ?_⟩
  rw [respond, habsorb]
  exact hrun

theorem fail_eq (e : Failure) : s.fail e =
    { s with transport := s.transport.close false, receiver := .ended } := by
  have hended : Shut { s with receiver := .ended } :=
    ⟨h.transport, h.events, h.watches, h.waiting⟩
  rw [fail, hended.teardown_eq]
  rfl

theorem readAll_eq : s.transport.outbound.readAll.1 = [] ∧
    s.transport.outbound.readAll.2.waiting = [] ∧
    s.transport.outbound.readAll.2.sent = s.transport.outbound.sent := by
  obtain ⟨hnames, hsent⟩ := s.transport.outbound.readAll_spec
  rw [h.waiting] at hnames hsent
  obtain ⟨hadmitted, hwaiting⟩ := List.append_eq_nil_iff.mp hnames
  rw [List.map_eq_nil_iff] at hwaiting
  rw [hwaiting, List.map_nil, List.append_nil, List.append_nil] at hsent
  exact ⟨hadmitted, hwaiting, hsent⟩

theorem makeRoom_eq : s.makeRoom = s.withOutbound s.transport.outbound.readAll.2 := by
  rw [makeRoom, h.readAll_eq.1]
  exact if_neg List.not_mem_nil

theorem refuseRequests_eq : s.refuseRequests = s.withOutbound s.transport.outbound.stop.2 := by
  have hrefused : s.transport.outbound.stop.1 = [] := by
    rw [Outbound.stop, h.waiting]
    rfl
  rw [Session.refuseRequests_eq, hrefused]
  split
  · exact if_neg List.not_mem_nil
  · rfl

/-! ## Moves and plays -/

/-- Whatever somebody does to a shut session leaves it shut, and as it is. -/
theorem move (m : Move) : Shut (s.move m) ∧ Frozen s (s.move m) := by
  cases m with
  | watch =>
    rw [Session.move, h.watch_eq]
    exact ⟨h, .refl s⟩
  | close =>
    rw [Session.move, close, h.teardown_eq]
    exact ⟨⟨rfl, h.events, h.watches, h.waiting⟩, rfl, rfl, List.suffix_rfl⟩
  | inbound i => exact ⟨⟨h.transport, h.events, h.watches, h.waiting⟩, rfl, rfl, List.suffix_rfl⟩
  | respond r =>
    rw [Session.move]
    split
    · obtain ⟨inbound, nodeTold, warnings, hrespond⟩ := h.respond_eq r
      rw [hrespond]
      exact ⟨⟨h.transport, h.events, h.watches, h.waiting⟩, rfl, rfl, List.suffix_rfl⟩
    · exact ⟨h, .refl s⟩
  | fail e =>
    rw [Session.move]
    split
    · rw [h.fail_eq]
      exact ⟨⟨rfl, h.events, h.watches, h.waiting⟩, rfl, rfl, List.suffix_rfl⟩
    · exact ⟨h, .refl s⟩
  | wait want millis =>
    have hclosed := (s.events.closed_wait want millis).trans h.events
    exact ⟨⟨h.transport, hclosed, h.watches, h.waiting⟩, rfl, rfl, s.events.buffer_wait want millis⟩
  | clear =>
    exact ⟨⟨h.transport, h.events, h.watches, h.waiting⟩, rfl, rfl, List.nil_suffix⟩
  | read =>
    obtain ⟨-, hwaiting, hsent⟩ := h.readAll_eq
    rw [Session.move, h.makeRoom_eq]
    exact ⟨⟨h.transport, h.events, h.watches, hwaiting⟩, rfl, hsent, List.suffix_rfl⟩
  | refuse =>
    rw [Session.move, h.refuseRequests_eq]
    exact ⟨⟨h.transport, h.events, h.watches, rfl⟩, rfl, rfl, List.suffix_rfl⟩

theorem play (moves : List Move) : Shut (s.play moves) ∧ Frozen s (s.play moves) := by
  induction moves using List.reverseRecOn with
  | nil => exact ⟨h, .refl s⟩
  | append_singleton moves m ih =>
    obtain ⟨hshut, hfrozen⟩ := ih
    obtain ⟨hshut', hfrozen'⟩ := hshut.move m
    rw [play_concat]
    exact ⟨hshut', hfrozen.trans hfrozen'⟩

end Shut

/-- A session whose receiver is done has let go of the responses on their way in. -/
def LetGo (s : Session) : Prop :=
  s.receiver ≠ .idle → s.transport.inbound.items = [] ∧ s.transport.inbound.dropped = true

variable {s : Session} {p : Profile} {keepsStore : Bool}

theorem LetGo.move (hgone : s.LetGo) (h : Shut s) {m : Move} (hm : ∀ i, m ≠ .inbound i) :
    (s.move m).LetGo := by
  cases m with
  | watch =>
    rw [Session.move, h.watch_eq]
    exact hgone
  | close =>
    rw [Session.move, close, h.teardown_eq]
    intro hreceiver
    dsimp only at hreceiver ⊢
    rw [decide_eq_false hreceiver]
    exact ⟨rfl, rfl⟩
  | inbound i => exact absurd rfl (hm i)
  | respond r =>
    rw [Session.move]
    split
    · obtain ⟨inbound, nodeTold, warnings, hrespond⟩ := h.respond_eq r
      rw [hrespond]
      exact fun hreceiver ↦ absurd rfl hreceiver
    · exact hgone
  | fail e =>
    rw [Session.move]
    split
    · rw [h.fail_eq]
      exact fun _ ↦ ⟨rfl, rfl⟩
    · exact hgone
  | wait want millis => exact hgone
  | clear => exact hgone
  | read =>
    rw [Session.move, h.makeRoom_eq]
    exact hgone
  | refuse =>
    rw [Session.move, h.refuseRequests_eq]
    exact hgone

theorem LetGo.play (hgone : s.LetGo) (h : Shut s) {moves : List Move}
    (hmoves : ∀ i, .inbound i ∉ moves) : (s.play moves).LetGo := by
  induction moves using List.reverseRecOn with
  | nil => exact hgone
  | append_singleton moves m ih =>
    have hm : ∀ i, m ≠ .inbound i := by
      rintro i rfl
      exact hmoves i (List.mem_append_right _ (List.mem_singleton_self _))
    rw [play_concat]
    refine (ih fun i hi ↦ ?_).move (h.play moves).1 hm
    exact hmoves i (List.mem_append_left _ hi)

theorem LetGo.close_eq_self (hgone : s.LetGo) (h : Shut s) : s.close = s := by
  have hinbound : (s.transport.close (s.receiver = .idle)).inbound = s.transport.inbound := by
    by_cases hidle : s.receiver = .idle
    · rw [decide_eq_true hidle]
      rfl
    · obtain ⟨hitems, hdropped⟩ := hgone hidle
      rw [decide_eq_false hidle]
      change { s.transport.inbound with dropped := true, items := [] } = s.transport.inbound
      rw [← hitems, ← hdropped]
  rw [close, h.teardown_eq, h.transport_close_eq, hinbound]

/-! ## From the close on -/

/-- All that is left of a closed session for those who use it. -/
structure Over (s : Session) : Prop where
  /-- Those who ask are told that it is closed. -/
  isClosed : s.isClosed = true
  watches : s.ledger.watches = .empty
  watch : s.watch = (.failed .closed, s)
  send : ∀ who typeUrl request,
    s.transport.send who typeUrl request = (some (.error .closed), s.transport)
  receive : s.transport.receive = (some (.error .closed), s.transport)
  publish : ∀ k, s.events.publish k = (false, s.events)

theorem Shut.over (h : Shut s) : Over s where
  isClosed := h.events
  watches := h.watches
  watch := h.watch_eq
  send := h.transport_send_eq
  receive := h.receive_eq
  publish := h.publish_eq

variable (s) in
theorem teardown_parts (reason : Option Failure) :
    (s.teardown reason).transport = s.transport.close (s.receiver = .idle) ∧
      (s.teardown reason).ledger = s.ledger.withWatches .empty := by
  rw [teardown, latchClose_eq]
  split <;> exact ⟨rfl, rfl⟩

/-- Whoever closes a session while nobody is at work leaves it shut, with what it kept so far. -/
theorem shut_of_ending (h : s.Orderly) (hidle : s.receiver = .idle) {m : Move}
    (hm : m = .close ∨ ∃ e, m = .fail e) :
    Shut (s.move m) ∧ (s.move m).LetGo ∧ (s.move m).ledger = s.ledger.withWatches .empty ∧
      (s.move m).transport.outbound = s.transport.outbound := by
  have hwaiting := h.waiting_eq_nil hidle
  rcases hm with rfl | ⟨e, rfl⟩
  · obtain ⟨htransport, hledger⟩ := s.teardown_parts none
    obtain ⟨-, houtbound, hreceiver, -⟩ := s.teardown_spec none
    obtain ⟨hclosed, hevents⟩ := s.closed_teardown none
    refine ⟨⟨hclosed, hevents, ?_, ?_⟩, fun hne ↦ ?_, hledger, houtbound⟩
    · exact congrArg (·.watches) hledger
    · exact (congrArg (·.waiting) houtbound).trans hwaiting
    · exact absurd (hreceiver.trans hidle) hne
  · have hmove : s.move (.fail e) = s.fail e := if_pos hidle
    obtain ⟨htransport, hledger⟩ := teardown_parts { s with receiver := .ended } (some e)
    obtain ⟨-, houtbound, -, -⟩ := teardown_spec { s with receiver := .ended } (some e)
    obtain ⟨hclosed, hevents⟩ := closed_teardown { s with receiver := .ended } (some e)
    rw [hmove]
    refine ⟨⟨hclosed, hevents, ?_, ?_⟩, fun _ ↦ ?_, hledger, houtbound⟩
    · exact congrArg (·.watches) hledger
    · exact (congrArg (·.waiting) houtbound).trans hwaiting
    · rw [fail, htransport]
      exact ⟨rfl, rfl⟩

/-- Closed is final, whatever comes after. From the first close on, or the first failure to receive,
with nobody at work just then, a session is over for everybody who uses it, it remembers and keeps
what it did at that moment apart from its subscriptions, no request is accepted any more, and events
only get fewer. Closing it again does nothing, unless something happened meanwhile to responses that
were on their way in. -/
theorem closed_is_final (hs : Start p keepsStore s) (before : List Move)
    (hidle : (s.play before).receiver = .idle) {m : Move} (hm : m = .close ∨ ∃ e, m = .fail e)
    (after : List Move) :
    Over (s.play (before ++ m :: after)) ∧
    (s.play (before ++ m :: after)).ledger = (s.play before).ledger.withWatches .empty ∧
    (s.play (before ++ m :: after)).transport.outbound.sent =
      (s.play before).transport.outbound.sent ∧
    (∀ more, (s.play (before ++ m :: (after ++ more))).events.buffer <:+
      (s.play (before ++ m :: after)).events.buffer) ∧
    ((∀ i, .inbound i ∉ after) →
      (s.play (before ++ m :: after)).close = s.play (before ++ m :: after)) := by
  obtain ⟨hshut, hgone, hledger, houtbound⟩ :=
    shut_of_ending (orderly_play hs.orderly before) hidle hm
  have hplay : ∀ moves, s.play (before ++ m :: moves) = ((s.play before).move m).play moves :=
    fun moves ↦ play_append ..
  have hafter := (hshut.play after).1
  have hfrozen := (hshut.play after).2
  refine ⟨?_, ?_, ?_, fun more ↦ ?_, fun hinbound ↦ ?_⟩
  · rw [hplay]
    exact hafter.over
  · rw [hplay, hfrozen.ledger, hledger]
  · rw [hplay, hfrozen.sent, houtbound]
  · rw [hplay, hplay, play_append]
    exact (hafter.play more).2.buffer
  · rw [hplay]
    exact (hgone.play hshut hinbound).close_eq_self hafter

/-- What comes too late: clusters, something unknown, a failure, and callers that begin the
subscriptions, wait for events, drop them, and close the session once more. -/
def lateMoves : List Move :=
  [.respond (clusterPush "a" [0x61] []),
    .respond { typeUrl := "unknown", version := "2", nonce := "b", resources := [] },
    .watch, .wait none 5, .fail .closed, .clear, .close]

/-- Late clusters neither count as seen nor are kept, and nothing that comes late is answered. -/
theorem closed_is_final_lateMoves :
    Over ((plain .complete).play (.close :: lateMoves)) ∧
    ((plain .complete).play (.close :: lateMoves)).ledger.clustersSeen = false ∧
    ((plain .complete).play (.close :: lateMoves)).ledger.store = some .empty ∧
    ((plain .complete).play (.close :: lateMoves)).transport.outbound.sent.length = 1 ∧
    ((plain .complete).play (.close :: lateMoves)).close =
      (plain .complete).play (.close :: lateMoves) := by
  obtain ⟨hover, hledger, hsent, -, hclose⟩ :=
    closed_is_final (.plain .complete) [] rfl (.inl rfl) lateMoves
  refine ⟨hover, ?_, ?_, ?_, hclose (by simp [lateMoves])⟩
  · exact congrArg (·.clustersSeen) hledger
  · exact congrArg (·.store) hledger
  · exact congrArg List.length hsent

end Session

end ProxyFleet
