import ProxyFleet.Proofs.Session.Skipping

/-!
# What others can come between

The functions of a session let an activity go on until it has to wait. Several activities that run
at once take turns at a finer grain: one who closes the session does so in three moments, and a
receiver that takes in a response decodes it, changes what is remembered, and then sends and
publishes, one request or event at a moment. The check whether the transport is closed and the
change belong to one moment: nobody else touches what is remembered meanwhile. `Closing` and `Todo`
say what is next, `closeOn` and `goOn` do it, and in each case nothing but the moments one after the
other is the function they come from (`closeOn_closeOn_closeOn`, `exists_works_eq_respond`).

While the receiver is at work, others act aside: they make no requests and keep nothing, `Aside`.
-/

namespace ProxyFleet

/-- What one who closes a session does next. -/
inductive Closing
  | transport
  | watches
  /-- Note the close for those who wait. -/
  | latch
  /-- Nothing more. -/
  | done
deriving DecidableEq

/-- What comes after a moment of a close. -/
def Closing.next : Closing → Closing
  | transport => watches
  | watches => latch
  | latch => done
  | done => done

/-- What a receiver does next with a response that it took in. -/
inductive Todo
  /-- Change what is remembered, given the resources of a kind that came in. -/
  | update (kind : ResourceKind) (resources : List Resource)
  /-- Send and publish. -/
  | steps (steps : List Step)

namespace Session

variable (s : Session)

/-! ## Closing -/

/-- One moment of a close. -/
def closeOn (reason : Option Failure) : Closing → Session
  | .transport => s.closeTransport
  | .watches => s.clearWatches
  | .latch => s.latchClose reason
  | .done => s

/-- A close without anything in between. -/
theorem closeOn_closeOn_closeOn (reason : Option Failure) :
    ((s.closeOn reason .transport).closeOn reason .watches).closeOn reason .latch =
      s.teardown reason := rfl

theorem closed_closeOn (reason : Option Failure) (c : Closing) :
    (s.closeOn reason c).transport.closed = (s.transport.closed || c = .transport) := by
  cases c with
  | transport => exact (Bool.or_true _).symm
  | latch =>
    rw [closeOn, latchClose_eq]
    split <;> exact (Bool.or_false _).symm
  | _ => exact (Bool.or_false _).symm

theorem watches_closeOn (reason : Option Failure) (c : Closing) :
    (s.closeOn reason c).ledger.watches = if c = .watches then .empty else s.ledger.watches := by
  cases c with
  | latch =>
    rw [closeOn, latchClose_eq]
    split <;> rfl
  | _ => rfl

/-! ## The receiver -/

/-- A receiver takes in a response and decodes it; what it does next. -/
def takeIn (r : Response) : Todo × Session :=
  match ResourceKind.ofTypeUrl? r.typeUrl with
  | none =>
    (.steps [.send (s.profile.mode.ack r .empty)],
      { s with receiver := .working }.warn (.unsupported s.profile.mode))
  | some kind =>
    let (resources, s) := { s with receiver := .working }.decodeBatch kind r.payloads
    (.update kind resources, s)

theorem takeIn_of_none {r : Response} (hk : ResourceKind.ofTypeUrl? r.typeUrl = none) :
    s.takeIn r = (.steps [.send (s.profile.mode.ack r .empty)],
      { s with receiver := .working }.warn (.unsupported s.profile.mode)) := by
  rw [takeIn, hk]

theorem takeIn_of_some {r : Response} {k : ResourceKind}
    (hk : ResourceKind.ofTypeUrl? r.typeUrl = some k) :
    s.takeIn r = (.update k (s.profile.decoded r),
      ({ s with receiver := .working }.decodeBatch k r.payloads).2) := by
  have hdecoded : ({ s with receiver := .working }.decodeBatch k r.payloads).1 =
      s.profile.decoded r := by
    rw [(decodeBatch_spec _ k r.payloads).1, Profile.decoded, hk]
  rw [takeIn, hk, ← hdecoded]

/-- One moment of a receiver at work, and what it does next; nothing, if it waits for a response
again. -/
def goOn (r : Response) : Todo → Option Todo × Session
  | .update kind resources =>
    let (steps, s) := s.apply r kind resources
    (some (.steps steps), s)
  | .steps [] => (none, { s with receiver := .idle })
  | .steps (.publish kind :: rest) =>
    (some (.steps rest), { s with events := (s.events.publish kind).2 })
  | .steps (.send draft :: rest) =>
    match s.send receiverName draft with
    | (some _, s) => (some (.steps rest), s)
    | (none, s) => (some (.steps rest), { s with receiver := .sending draft.typeUrl rest })

theorem goOn_send (r : Response) (draft : Draft) (rest : List Step) :
    s.goOn r (.steps (.send draft :: rest)) = (some (.steps rest),
      match (s.send receiverName draft).1 with
      | some _ => (s.send receiverName draft).2
      | none =>
        { (s.send receiverName draft).2 with receiver := .sending draft.typeUrl rest }) := by
  rw [goOn]
  split <;> next heq => rw [heq]

/-- A receiver at work goes on for so many moments, unless it has to wait. -/
def works (r : Response) : Nat → Option Todo → Session → Session
  | 0, _, s => s
  | _, none, s => s
  | moments + 1, some todo, s =>
    if s.receiver = .working then works r moments (s.goOn r todo).1 (s.goOn r todo).2 else s

section

variable {s}

theorem works_succ (r : Response) (todo : Todo) (moments : Nat) (hs : s.receiver = .working) :
    works r (moments + 1) (some todo) s = works r moments (s.goOn r todo).1 (s.goOn r todo).2 :=
  if_pos hs

theorem exists_works_eq_run (r : Response) (steps : List Step) (hs : s.receiver = .working) :
    ∃ moments, works r moments (some (.steps steps)) s = s.run steps := by
  induction steps generalizing s with
  | nil =>
    refine ⟨1, ?_⟩
    rw [works_succ r _ 0 hs]
    rfl
  | cons step rest ih =>
    cases step with
    | publish kind =>
      obtain ⟨moments, hrest⟩ := ih (s := { s with events := (s.events.publish kind).2 }) hs
      refine ⟨moments + 1, ?_⟩
      rw [works_succ r _ moments hs]
      exact hrest
    | send draft =>
      have hreceiver := (s.receiver_send receiverName draft).trans hs
      cases hsent : (s.send receiverName draft).1 with
      | some outcome =>
        obtain ⟨moments, hrest⟩ := ih hreceiver
        refine ⟨moments + 1, ?_⟩
        rw [works_succ r _ moments hs, goOn_send, run_send, hsent]
        exact hrest
      | none =>
        refine ⟨1, ?_⟩
        rw [works_succ r _ 0 hs, goOn_send, run_send, hsent]
        rfl

end

/-! ## Aside from the receiver -/

/-- Somebody acts aside from the receiver: no request is made, nothing is kept, and unless the
session is closed meanwhile all that is remembered stays. -/
structure Aside (s t : Session) : Prop where
  /-- It is the same session. -/
  profile : t.profile = s.profile
  /-- No request comes or goes. -/
  outbound : t.transport.outbound = s.transport.outbound
  /-- None is made. -/
  nodeTold : t.nodeTold = s.nodeTold
  /-- The receiver does what it did. -/
  receiver : t.receiver = s.receiver
  /-- Nothing is kept or forgotten. -/
  store : t.ledger.store = s.ledger.store
  /-- No clusters are seen. -/
  clustersSeen : t.ledger.clustersSeen = s.ledger.clustersSeen
  /-- A closed session stays closed. -/
  closed : s.transport.closed = true → t.transport.closed = true
  /-- An open session remembers what it remembered. -/
  ledger : t.transport.closed = false → t.ledger = s.ledger

namespace Aside

variable {s} {t u : Session}

theorem refl (s : Session) : Aside s s := ⟨rfl, rfl, rfl, rfl, rfl, rfl, id, fun _ ↦ rfl⟩

theorem opened (h : Aside s t) (ht : t.transport.closed = false) : s.transport.closed = false := by
  rw [Bool.eq_false_iff]
  intro hs
  rw [h.closed hs] at ht
  cases ht

theorem trans (h : Aside s t) (h' : Aside t u) : Aside s u where
  profile := h'.profile.trans h.profile
  outbound := h'.outbound.trans h.outbound
  nodeTold := h'.nodeTold.trans h.nodeTold
  receiver := h'.receiver.trans h.receiver
  store := h'.store.trans h.store
  clustersSeen := h'.clustersSeen.trans h.clustersSeen
  closed := h'.closed ∘ h.closed
  ledger hu := (h'.ledger hu).trans (h.ledger (h'.opened hu))

/-- Nobody reads the warnings. -/
theorem of_unwarned (h : Aside s t) (hu : u.unwarned = t.unwarned) : Aside s u := by
  have htransport := congrArg Session.transport hu
  have hledger := congrArg Session.ledger hu
  change u.transport = t.transport at htransport
  change u.ledger = t.ledger at hledger
  constructor
  · have hprofile := congrArg Session.profile hu
    exact hprofile.trans h.profile
  · rw [htransport]
    exact h.outbound
  · have htold := congrArg Session.nodeTold hu
    exact htold.trans h.nodeTold
  · have hreceiver := congrArg Session.receiver hu
    exact hreceiver.trans h.receiver
  · rw [hledger]
    exact h.store
  · rw [hledger]
    exact h.clustersSeen
  · rw [htransport]
    exact h.closed
  · rw [htransport, hledger]
    exact h.ledger

end Aside

/-- The first moment of a close comes when it comes, the others only after it. -/
theorem aside_closeOn (reason : Option Failure) {c : Closing}
    (h : s.transport.closed = false → c = .transport) : Aside s (s.closeOn reason c) := by
  cases c with
  | transport => exact ⟨rfl, rfl, rfl, rfl, rfl, rfl, fun _ ↦ rfl, fun hopen ↦ by cases hopen⟩
  | watches =>
    refine ⟨rfl, rfl, rfl, rfl, rfl, rfl, id, fun hopen ↦ ?_⟩
    cases h hopen
  | latch =>
    rw [closeOn, latchClose_eq]
    split <;> exact ⟨rfl, rfl, rfl, rfl, rfl, rfl, id, fun _ ↦ rfl⟩
  | done => exact .refl s

theorem aside_close : Aside s s.close := by
  have htransport : Aside s (s.closeOn none .transport) := s.aside_closeOn none fun _ ↦ rfl
  have hwatches := (s.closeOn none .transport).aside_closeOn none (c := .watches)
    fun h ↦ by cases h
  have hlatch := ((s.closeOn none .transport).closeOn none .watches).aside_closeOn none
    (c := .latch) fun h ↦ by cases h
  exact (htransport.trans hwatches).trans hlatch

/-- Decoding makes no requests and keeps nothing, although a payload may end the session. -/
theorem aside_decodeBatch (k : ResourceKind) (payloads : List Payload) :
    Aside s (s.decodeBatch k payloads).2 := by
  refine Aside.of_unwarned ?_ (s.decodeBatch_unwarned k payloads)
  rw [endedBy]
  split
  · exact s.aside_close
  · exact .refl s

/-- If one does, the subscriptions are cleared, and else they are as they were. -/
theorem decodeBatch_cleared_or (k : ResourceKind) (payloads : List Payload) :
    (s.decodeBatch k payloads).2.ledger.watches = .empty ∨
      (s.decodeBatch k payloads).2.ledger = s.ledger ∧
        (s.decodeBatch k payloads).2.transport = s.transport := by
  have hunwarned := s.decodeBatch_unwarned k payloads
  have hledger := congrArg Session.ledger hunwarned
  have htransport := congrArg Session.transport hunwarned
  rw [endedBy] at hledger htransport
  split at hledger
  · left
    rw [close_eq] at hledger
    exact congrArg Ledger.watches hledger
  · next hnone =>
    rw [if_neg hnone] at htransport
    exact .inr ⟨hledger, htransport⟩

/-- To take in a response is to act aside from what the receiver does later. -/
theorem aside_takeIn (r : Response) :
    Aside { s with receiver := .working } (s.takeIn r).2 := by
  cases hk : ResourceKind.ofTypeUrl? r.typeUrl with
  | none =>
    rw [takeIn_of_none s hk]
    exact (Aside.refl { s with receiver := .working }).of_unwarned rfl
  | some k =>
    rw [takeIn_of_some s hk]
    exact aside_decodeBatch ..

theorem takeIn_cleared_or (r : Response) : (s.takeIn r).2.ledger.watches = .empty ∨
    (s.takeIn r).2.ledger = s.ledger ∧ (s.takeIn r).2.transport = s.transport := by
  cases hk : ResourceKind.ofTypeUrl? r.typeUrl with
  | none =>
    rw [takeIn_of_none s hk]
    exact .inr ⟨rfl, rfl⟩
  | some k =>
    rw [takeIn_of_some s hk]
    exact decodeBatch_cleared_or ..

/-- A receiver that takes in a response without anything in between goes through these moments. -/
theorem exists_works_eq_respond (r : Response) :
    ∃ moments, works r moments (some (s.takeIn r).1) (s.takeIn r).2 = s.respond r := by
  cases hk : ResourceKind.ofTypeUrl? r.typeUrl with
  | none =>
    rw [takeIn_of_none s hk, respond, absorb_of_none _ hk]
    exact exists_works_eq_run r _ rfl
  | some k =>
    have hworking := (aside_decodeBatch { s with receiver := .working } k r.payloads).receiver
    rw [takeIn_of_some s hk, respond, absorb_of_some _ hk]
    generalize ({ s with receiver := .working }.decodeBatch k r.payloads).2 = t at hworking ⊢
    have happlied : (t.apply r k (s.profile.decoded r)).2.receiver = .working := by
      rw [apply]
      split <;> exact hworking
    obtain ⟨moments, hrest⟩ := exists_works_eq_run r (t.apply r k (s.profile.decoded r)).1 happlied
    refine ⟨moments + 1, ?_⟩
    rw [works_succ r _ moments hworking]
    exact hrest

end Session

end ProxyFleet
