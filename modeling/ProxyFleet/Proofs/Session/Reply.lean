import ProxyFleet.Proofs.Session.Play

/-!
# What a session replies

The answer to a response is a matter of the ledger alone: `Ledger.reply` gives the ledger after a
response and the requests that follow from it, without a stream. The rest of a session decides when
these requests get out. `requested` is the stream as it will be once everything that waits found
room, so on it a response has its whole effect at once, and on an open session whose stream accepts
requests a move appends exactly the requests that it `asks` for.
-/

namespace ProxyFleet

universe u v

/-! ## Without a stream -/

/-- The resources of a kind that payloads decode to. -/
def DecoderTable.batch (table : DecoderTable) (kind : ResourceKind) (payloads : List Payload) :
    List Resource :=
  payloads.filterMap fun payload ↦ (table.decode payload).toOption.filter (·.kind = kind)

/-- The resources that a response brings: those that decode to the kind of the response. -/
def Profile.decoded (p : Profile) (r : Response) : List Resource :=
  match ResourceKind.ofTypeUrl? r.typeUrl with
  | none => []
  | some kind => p.decoders.batch kind r.payloads

/-- What a response changes in a ledger, and the requests that follow from it in their order. A
response of an unknown type is acknowledged and no more. -/
def Ledger.reply (l : Ledger) (p : Profile) (r : Response) : Ledger × List Draft :=
  match ResourceKind.ofTypeUrl? r.typeUrl with
  | none => (l, [p.mode.ack r .empty])
  | some kind => l.digest p.mode r kind (p.decoded r)

namespace Ledger

variable (l : Ledger) {p : Profile} {r : Response}

theorem reply_of_none (h : ResourceKind.ofTypeUrl? r.typeUrl = none) :
    l.reply p r = (l, [p.mode.ack r .empty]) := by rw [reply, h]

theorem reply_of_some {k : ResourceKind} (h : ResourceKind.ofTypeUrl? r.typeUrl = some k) :
    l.reply p r = l.digest p.mode r k (p.decoded r) := by rw [reply, h]

end Ledger

/-! ## On a stream -/

def Step.draft? : Step → Option Draft
  | .send draft => some draft
  | .publish _ => none

theorem Step.filterMap_draft?_concat_publish (drafts : List Draft) (kind : ResourceKind) :
    (drafts.map send ++ [publish kind]).filterMap draft? = drafts := by
  rw [List.filterMap_append, List.filterMap_map]
  exact (congrArg (· ++ []) List.filterMap_some).trans (List.append_nil _)

theorem Transport.send_cases {α : Type u} {β : Type v} (t : Transport α β) (who typeUrl : String)
    (request : α) :
    (t.closed = false ∧ t.outbound.accepting = true ∧
      (t.outbound.waiting = [] ∧ t.outbound.hasRoom = true) ∧
      t.send who typeUrl request = (some (.ok ()),
        { t with outbound := { t.outbound with sent := t.outbound.sent ++ [request] } })) ∨
    (t.closed = false ∧ t.outbound.accepting = true ∧
      ¬ (t.outbound.waiting = [] ∧ t.outbound.hasRoom = true) ∧
      t.send who typeUrl request = (none, { t with
        outbound := { t.outbound with waiting := t.outbound.waiting ++ [(who, request)] } })) ∨
    (t.closed = true ∨ t.outbound.accepting = false) ∧
      ∃ e, t.send who typeUrl request = (some (.error e), t) := by
  rw [send]
  by_cases hc : t.closed = true
  · rw [if_pos hc]
    exact .inr (.inr ⟨.inl hc, _, rfl⟩)
  rw [if_neg hc, Outbound.offer]
  rw [Bool.not_eq_true] at hc
  by_cases ha : t.outbound.accepting = true
  · rw [if_neg (not_not_intro ha)]
    have hempty := and_congr_left' (c := t.outbound.hasRoom = true)
      (List.isEmpty_iff (l := t.outbound.waiting))
    by_cases hw : t.outbound.waiting.isEmpty ∧ t.outbound.hasRoom
    · rw [if_pos hw]
      exact .inl ⟨hc, ha, hempty.mp hw, rfl⟩
    · rw [if_neg hw]
      exact .inr (.inl ⟨hc, ha, fun h ↦ hw (hempty.mpr h), rfl⟩)
  · rw [if_pos ha]
    exact .inr (.inr ⟨.inr (Bool.eq_false_iff.mpr ha), _, rfl⟩)

namespace Receiver

/-- The requests that the receiver will make once the one that waits has found room. -/
def pending : Receiver → List Draft
  | .sending _ rest => rest.filterMap Step.draft?
  | _ => []

/-- Who waits for room when the receiver does. -/
def waiters : Receiver → List String
  | .sending .. => [Session.receiverName]
  | _ => []

theorem eq_of_mem_waiters {r : Receiver} {who : String} (h : who ∈ r.waiters) :
    who = Session.receiverName := by
  cases r with
  | sending => exact List.mem_singleton.mp h
  | idle => cases h
  | working => cases h
  | ended => cases h

end Receiver

namespace Session

variable (s : Session)

/-- What the requests on the stream say, in order. -/
def wire : List Draft := s.transport.outbound.sent.map (·.draft)

/-- What the requests say that are on the stream, that wait for room, and that the receiver still
has to make, in order. -/
def requested : List Draft :=
  s.wire ++ s.transport.outbound.waiting.map (·.2.draft) ++ s.receiver.pending

/-- Between moves nobody waits for room but a receiver. -/
def Orderly : Prop := s.transport.outbound.waiting.map (·.1) = s.receiver.waiters

def asks : Move → List Draft
  | .watch => if s.watchBegun then [] else s.profile.mode.opening
  | .respond r => if s.receiver = .idle then (s.ledger.reply s.profile r).2 else []
  | _ => []

variable {s}

theorem Orderly.nobody_waits (h : s.Orderly) (hr : s.receiver.waiters = []) :
    s.transport.outbound.waiting = [] :=
  List.map_eq_nil_iff.mp (h.trans hr)

theorem Orderly.waiting_eq_nil (h : s.Orderly) (hr : s.receiver = .idle) :
    s.transport.outbound.waiting = [] := h.nobody_waits (congrArg _ hr)

theorem Orderly.requested_eq (h : s.Orderly) (hr : s.receiver = .idle) : s.requested = s.wire := by
  rw [requested, h.waiting_eq_nil hr, hr]
  exact (List.append_nil _).trans (List.append_nil _)

/-! ## One request -/

variable (s)

theorem receiver_send (who : String) (draft : Draft) :
    (s.send who draft).2.receiver = s.receiver := by
  unfold send
  dsimp only [makeRequest]
  split <;> rfl

theorem send_cases (who : String) (draft : Draft) :
    (∃ q : Request, q.draft = draft ∧ (s.send who draft).1 = some (.ok ()) ∧
      s.transport.outbound.waiting = [] ∧ (s.send who draft).2.transport.outbound =
        { s.transport.outbound with sent := s.transport.outbound.sent ++ [q] }) ∨
    (∃ q : Request, q.draft = draft ∧ (s.send who draft).1 = none ∧
      (s.send who draft).2.transport.outbound =
        { s.transport.outbound with waiting := s.transport.outbound.waiting ++ [(who, q)] }) ∨
    (∃ e, (s.send who draft).1 = some (.error e) ∧
      (s.send who draft).2.transport.outbound = s.transport.outbound ∧
      (s.transport.closed = true ∨ s.transport.outbound.accepting = false)) := by
  have hcases := s.transport.send_cases who draft.typeUrl (s.makeRequest draft).1
  unfold send
  dsimp only [makeRequest] at hcases ⊢
  rcases hcases with ⟨-, -, hw, hsend⟩ | ⟨-, -, -, hsend⟩ | ⟨hrefuses, e, hsend⟩
  · rw [hsend]
    exact .inl ⟨_, rfl, rfl, hw.1, rfl⟩
  · rw [hsend]
    exact .inr (.inl ⟨_, rfl, rfl, rfl⟩)
  · rw [hsend]
    exact .inr (.inr ⟨e, rfl, rfl, hrefuses⟩)

/-! ## Taking in a response -/

/-- Decoding a batch sends nothing, although one of the payloads may end the session. -/
theorem decodeBatch_spec (kind : ResourceKind) (payloads : List Payload) :
    (s.decodeBatch kind payloads).1 = s.profile.decoders.batch kind payloads ∧
    (s.decodeBatch kind payloads).2.transport.outbound = s.transport.outbound := by
  induction payloads generalizing s with
  | nil => exact ⟨rfl, rfl⟩
  | cons payload rest ih =>
    -- That a payload ends the session changes neither how the next is decoded nor the requests.
    obtain ⟨t, ht, hp, ho⟩ : ∃ t,
        (if s.profile.decoders.endsSession payload then s.close else s) = t ∧
          t.profile = s.profile ∧ t.transport.outbound = s.transport.outbound := by
      refine ⟨_, rfl, ?_, ?_⟩
      · split
        · exact (teardown_spec ..).1
        · rfl
      · split
        · exact (teardown_spec ..).2.1
        · rfl
    rw [decodeBatch, ht, hp, DecoderTable.batch, List.filterMap_cons, ← hp, ← ho]
    cases t.profile.decoders.decode payload with
    | ok resource =>
      by_cases hk : resource.kind = kind
      · have hkept : (some resource).filter (fun x ↦ decide (x.kind = kind)) = some resource :=
          Option.filter_some_pos (decide_eq_true hk)
        rw [Except.toOption, hkept]
        dsimp only
        rw [if_pos hk]
        exact ⟨congrArg (resource :: ·) (ih t).1, (ih t).2⟩
      · have hskipped : (some resource).filter (fun x ↦ decide (x.kind = kind)) = none :=
          Option.filter_some_neg (decide_eq_false hk)
        rw [Except.toOption, hskipped]
        dsimp only
        rw [if_neg hk]
        exact ih (t.warn .unexpectedKind)
    | error e => exact ih (t.warn (.undecodable e))

theorem outbound_absorb (r : Response) :
    (s.absorb r).2.transport.outbound = s.transport.outbound := by
  rw [absorb]
  split
  · rfl
  · next kind _ =>
    refine Eq.trans ?_ (s.decodeBatch_spec kind r.payloads).2
    dsimp only
    rw [apply]
    split <;> rfl

theorem absorb_of_none {r : Response} (hk : ResourceKind.ofTypeUrl? r.typeUrl = none) :
    s.absorb r =
      ([.send (s.profile.mode.ack r .empty)], s.warn (.unsupported s.profile.mode)) := by
  rw [absorb, hk]

theorem absorb_of_some {r : Response} {k : ResourceKind}
    (hk : ResourceKind.ofTypeUrl? r.typeUrl = some k) :
    s.absorb r = (s.decodeBatch k r.payloads).2.apply r k (s.profile.decoded r) := by
  have hdecoded : (s.decodeBatch k r.payloads).1 = s.profile.decoded r := by
    rw [(s.decodeBatch_spec k r.payloads).1, Profile.decoded, hk]
  rw [absorb, hk, ← hdecoded]

/-- A session that is still open when it has taken in a response remembers what that demands, and
the requests that follow are those of the steps to take. -/
theorem absorb_spec {r : Response} (h : (s.absorb r).2.transport.closed = false) :
    (s.absorb r).1.filterMap Step.draft? = (s.ledger.reply s.profile r).2 ∧
    (s.absorb r).2.ledger = (s.ledger.reply s.profile r).1 := by
  cases hk : ResourceKind.ofTypeUrl? r.typeUrl with
  | none =>
    rw [Ledger.reply_of_none _ hk, absorb_of_none s hk]
    exact ⟨rfl, rfl⟩
  | some kind =>
    have hq := s.quiet_decodeBatch kind r.payloads
    rw [absorb_of_some s hk, apply] at h ⊢
    -- A transport that was closed while the batch was decoded would still be closed.
    split at h
    · next hc => rw [hc] at h; cases h
    next hc =>
    rw [Ledger.reply_of_some _ hk, if_neg hc, hq.ledger (Bool.eq_false_iff.mpr hc), hq.profile]
    exact ⟨Step.filterMap_draft?_concat_publish .., rfl⟩

theorem later_absorb (r : Response) : Later s (s.absorb r).2 := by
  rw [absorb]
  split
  · exact (quiet_warn ..).toLater
  · next kind _ =>
    refine (s.quiet_decodeBatch kind r.payloads).toLater.trans ?_
    dsimp only
    rw [apply]
    split
    · exact .refl _
    · exact ⟨rfl, id, id, id⟩

theorem later_respond (r : Response) : Later s (s.respond r) := by
  have h : Later s { s with receiver := .working } := ⟨rfl, id, id, id⟩
  exact (h.trans (later_absorb ..)).trans (quiet_run ..).toLater

/-! ## Several requests -/

theorem run_send (draft : Draft) (rest : List Step) :
    s.run (.send draft :: rest) = match (s.send receiverName draft).1 with
      | some _ => (s.send receiverName draft).2.run rest
      | none =>
        { (s.send receiverName draft).2 with receiver := .sending draft.typeUrl rest } := by
  rw [run]
  split <;> next heq => rw [heq]

theorem sendAll_cons (draft : Draft) (rest : List Draft) :
    s.sendAll (draft :: rest) = match (s.send callerName draft).1 with
      | some (.ok _) => (s.send callerName draft).2.sendAll rest
      | some (.error e) => (.failed e, (s.send callerName draft).2)
      | none => (.blocked, (s.send callerName draft).2.withOutbound
          ((s.send callerName draft).2.transport.outbound.withdraw callerName)) := by
  rw [sendAll]
  split
  · next heq => rw [heq]
  · next heq => rw [heq]
  · next heq => rw [heq]; rfl

variable {s}

/-- The steps of the receiver leave nobody waiting but the receiver, and all their requests get out
in the end unless the session is closed or its requests are refused. -/
theorem run_spec (steps : List Step) (hw : s.transport.outbound.waiting = []) :
    (s.run steps).Orderly ∧ ((s.run steps).transport.closed = false →
      (s.run steps).transport.outbound.accepting = true →
      (s.run steps).requested = s.wire ++ steps.filterMap Step.draft?) := by
  induction steps generalizing s with
  | nil =>
    have horderly : (s.run []).Orderly := by
      rw [Orderly]
      exact (congrArg _ hw).trans List.map_nil
    refine ⟨horderly, fun _ _ ↦ ?_⟩
    rw [horderly.requested_eq rfl]
    exact (List.append_nil _).symm
  | cons step rest ih =>
    cases step with
    | publish kind => exact ih hw
    | send draft =>
      have hlater := (s.quiet_send receiverName draft).toLater
      rcases s.send_cases receiverName draft with
        ⟨q, hq, hres, -, ho⟩ | ⟨q, hq, hres, ho⟩ | ⟨e, hres, ho, hbad⟩
      · obtain ⟨horderly, hrequested⟩ :=
          ih (s := (s.send receiverName draft).2) (by rw [ho]; exact hw)
        -- The request is out, and the run goes on behind it.
        rw [run_send, hres]
        refine ⟨horderly, fun hc ha ↦ (hrequested hc ha).trans ?_⟩
        rw [wire, ho, wire, List.map_append, List.append_assoc, List.map_singleton, hq]
        rfl
      · have hwait : (s.send receiverName draft).2.transport.outbound.waiting
            = [(receiverName, q)] := by
          rw [ho, hw]
          rfl
        -- The request waits, and behind it the steps that are left: together just what was to do.
        rw [run_send, hres]
        refine ⟨?_, fun _ _ ↦ ?_⟩
        · rw [Orderly]
          dsimp only
          rw [hwait]
          rfl
        rw [requested, wire]
        change (s.send receiverName draft).2.transport.outbound.sent.map _ ++
          (s.send receiverName draft).2.transport.outbound.waiting.map _ ++ _ = _
        rw [hwait, ho, List.map_singleton, hq, List.append_assoc]
        rfl
      · obtain ⟨horderly, -⟩ := ih (s := (s.send receiverName draft).2) (by rw [ho]; exact hw)
        -- The request failed. Whatever made it fail is never taken back.
        rw [run_send, hres]
        refine ⟨horderly, fun hc ha ↦ ?_⟩
        have hend := hlater.trans (quiet_run _ rest).toLater
        rcases hbad with hbad | hbad
        · rw [hend.opened hc] at hbad
          cases hbad
        · rw [hend.accepting ha] at hbad
          cases hbad

/-- A caller that sends leaves nobody waiting who did not wait before, and if it is not blocked all
its requests get out unless the session is closed or its requests are refused. -/
theorem sendAll_spec (drafts : List Draft) (h : s.Orderly) :
    (s.sendAll drafts).2.Orderly ∧ ((s.sendAll drafts).1 ≠ .blocked →
      (s.sendAll drafts).2.transport.closed = false →
      (s.sendAll drafts).2.transport.outbound.accepting = true →
      (s.sendAll drafts).2.requested = s.requested ++ drafts) := by
  induction drafts generalizing s with
  | nil => exact ⟨h, fun _ _ _ ↦ (List.append_nil _).symm⟩
  | cons draft rest ih =>
    have hr := s.receiver_send callerName draft
    have hlater := (s.quiet_send callerName draft).toLater
    rcases s.send_cases callerName draft with
      ⟨q, hq, hres, hw, ho⟩ | ⟨q, -, hres, ho⟩ | ⟨e, hres, ho, hbad⟩
    · have hsent : (s.send callerName draft).2.Orderly := by
        rw [Orderly, ho, hr]
        exact h
      obtain ⟨horderly, hrequested⟩ := ih hsent
      rw [sendAll_cons, hres]
      refine ⟨horderly, fun hb hc ha ↦ (hrequested hb hc ha).trans ?_⟩
      -- A request is accepted at once only if the receiver does not wait either.
      have hpending : s.receiver.pending = [] := by
        rw [Orderly, hw] at h
        revert h
        cases s.receiver with
        | sending => intro h; cases h
        | _ => intro _; rfl
      rw [requested, wire, ho, hr, hw, hpending, requested, wire, hw, hpending]
      simp [hq]
    · rw [sendAll_cons, hres]
      refine ⟨?_, fun hb ↦ absurd rfl hb⟩
      -- Only the caller's own request is taken back.
      have hothers : s.transport.outbound.waiting.filter (·.1 ≠ callerName)
          = s.transport.outbound.waiting := by
        rw [List.filter_eq_self]
        intro w hmem
        have hname : w.1 ∈ s.receiver.waiters := h ▸ List.mem_map_of_mem hmem
        rw [Receiver.eq_of_mem_waiters hname]
        decide
      rw [Orderly]
      dsimp only [withOutbound, Outbound.withdraw]
      rw [ho, hr]
      dsimp only
      rw [List.filter_append, hothers, List.filter_cons_of_neg (by simp), List.filter_nil,
        List.append_nil]
      exact h
    · rw [sendAll_cons, hres]
      have hsame : (s.send callerName draft).2.Orderly := by
        rw [Orderly, ho, hr]
        exact h
      refine ⟨hsame, fun _ hc ha ↦ ?_⟩
      rcases hbad with hbad | hbad
      · rw [hlater.opened hc] at hbad
        cases hbad
      · rw [hlater.accepting ha] at hbad
        cases hbad

end Session

end ProxyFleet
