import ProxyFleet.Proofs.Session.Interleaving
import ProxyFleet.Proofs.Session.Moments

/-!
# Answers that are under way

The answer to a response gets out request by request, and it may end early: a closed transport sends
nothing, and the other side may stop accepting requests. What got out is then the beginning of the
answer. `Session.Answering` says so while the receiver is at work: what was made of the answer, and
what would still be made of it, together are the answer, or no more gets out.

`Profile.requests` and `Profile.answers` are the answers as they are if nothing comes in between.
-/

namespace ProxyFleet

/-! ## Whole answers -/

/-- The requests that drafts become, given whether the node was told before. -/
def Profile.requests (p : Profile) (told : Bool) : List Draft → List Request
  | [] => []
  | draft :: rest =>
    { draft := draft, node := if told then none else some p.node } :: p.requests true rest

theorem Profile.requests_ne_nil (p : Profile) {told : Bool} {drafts : List Draft}
    (h : drafts ≠ []) : p.requests told drafts ≠ [] := by
  cases drafts with
  | nil => exact absurd rfl h
  | cons draft rest => exact List.cons_ne_nil _ _

/-- The answers to responses, one after the other. -/
def Profile.answers (p : Profile) (told : Bool) (l : Ledger) : List Response → List (List Request)
  | [] => []
  | r :: rest => p.requests told (l.reply p r).2 :: p.answers true (l.reply p r).1 rest

theorem Profile.answers_concat (p : Profile) (told : Bool) (l : Ledger) (rs : List Response)
    (r : Response) : p.answers told l (rs ++ [r]) = p.answers told l rs ++
      [p.requests (told || !rs.isEmpty) ((l.replyAll p rs).reply p r).2] := by
  induction rs generalizing told l with
  | nil => simp [answers, Ledger.replyAll]
  | cons q rest ih =>
    rw [List.cons_append, answers, ih, answers, List.cons_append]
    simp [Ledger.replyAll]

/-- Every response is answered. -/
theorem Ledger.reply_snd_ne_nil (l : Ledger) (p : Profile) (r : Response) :
    (l.reply p r).2 ≠ [] := by
  obtain ⟨before, names, after, hreply, -⟩ := l.reply_acknowledges p r
  rw [hreply]
  exact List.append_ne_nil_of_right_ne_nil _ (List.cons_ne_nil _ _)

/-! ## One request -/

namespace Session

variable (s : Session)

theorem transport_send (who : String) (draft : Draft) :
    (s.send who draft).2.transport =
      (s.transport.send who draft.typeUrl (s.makeRequest draft).1).2 := by
  have hsession := (s.send_spec who draft).2
  exact congrArg Session.transport hsession

theorem nodeTold_send (who : String) (draft : Draft) : (s.send who draft).2.nodeTold = true := by
  have hsession := (s.send_spec who draft).2
  exact congrArg Session.nodeTold hsession

theorem profile_send (who : String) (draft : Draft) :
    (s.send who draft).2.profile = s.profile := (s.quiet_send who draft).profile

theorem requests_cons (draft : Draft) (rest : List Draft) :
    s.profile.requests s.nodeTold (draft :: rest) =
      (s.makeRequest draft).1 :: s.profile.requests true rest := rfl

/-! ## What is made of an answer -/

/-- No request gets in any more, for one of two reasons that do not go away. -/
def Refuses : Prop := s.transport.closed = true ∨ s.transport.outbound.accepting = false

/-- The requests that are on the stream or wait for room, in order. -/
def made : List Request :=
  s.transport.outbound.sent ++ s.transport.outbound.waiting.map (·.2)

/-- A receiver is at work on an answer that it began when so many requests were on the stream, and
has these requests left to make. -/
structure Answering (mark : Nat) (answer : List Request) (left : List Draft) : Prop where
  /-- The stream was as long. -/
  marked : mark ≤ s.transport.outbound.sent.length
  /-- Only the first request has the node in it. -/
  told : s.made.drop mark ≠ [] → s.nodeTold = true
  /-- What is made and what is left are the answer, or nothing more gets in. -/
  answer : s.made.drop mark ++ s.profile.requests s.nodeTold left = answer ∨
    s.Refuses ∧ s.made.drop mark <+: answer

variable {s}

theorem made_of_waiting_eq_nil (hw : s.transport.outbound.waiting = []) :
    s.made = s.transport.outbound.sent := by
  rw [made, hw]
  exact List.append_nil _

theorem Answering.begin {answer : List Request} {left : List Draft}
    (hw : s.transport.outbound.waiting = [])
    (hanswer : ¬ s.Refuses → s.profile.requests s.nodeTold left = answer) :
    s.Answering s.transport.outbound.sent.length answer left := by
  have hnone : s.made.drop s.transport.outbound.sent.length = [] := by
    rw [made_of_waiting_eq_nil hw, List.drop_length]
  refine ⟨Nat.le_refl _, fun hsome ↦ absurd hnone hsome, ?_⟩
  rw [hnone]
  by_cases hrefuses : s.Refuses
  · exact .inr ⟨hrefuses, List.nil_prefix⟩
  · exact .inl (hanswer hrefuses)

namespace Answering

variable {t : Session} {mark : Nat} {answer : List Request} {left : List Draft}
variable (h : s.Answering mark answer left)

include h

theorem of_refuses (hrefuses : s.Refuses) (left' : List Draft) : s.Answering mark answer left' where
  marked := h.marked
  told := h.told
  answer := by
    rcases h.answer with hwhole | ⟨-, hpart⟩
    · exact .inr ⟨hrefuses, _, hwhole⟩
    · exact .inr ⟨hrefuses, hpart⟩

/-- At the end all of the answer is made, or what could be. -/
theorem made_prefix : s.made.drop mark <+: answer := by
  rcases h.answer with hwhole | ⟨-, hpart⟩
  · exact ⟨_, hwhole⟩
  · exact hpart

theorem nodeTold (hleft : left = []) (hanswer : answer ≠ []) (halive : ¬ s.Refuses) :
    s.nodeTold = true := by
  subst hleft
  rcases h.answer with hwhole | ⟨hrefuses, -⟩
  · refine h.told fun hnone ↦ hanswer ?_
    rw [← hwhole, hnone]
    rfl
  · exact absurd hrefuses halive

theorem of_same (hprofile : t.profile = s.profile)
    (hout : t.transport.outbound = s.transport.outbound) (htold : t.nodeTold = s.nodeTold)
    (hclosed : s.transport.closed = true → t.transport.closed = true) :
    t.Answering mark answer left := by
  have hmade : t.made = s.made := by rw [made, made, hout]
  constructor
  · rw [hout]
    exact h.marked
  · rw [hmade, htold]
    exact h.told
  · rw [hmade, htold, hprofile]
    refine h.answer.imp_right ?_
    rintro ⟨hrefuses, hpart⟩
    refine ⟨hrefuses.imp hclosed fun ha ↦ ?_, hpart⟩
    rw [hout]
    exact ha

end Answering

/-- The next request of the answer is made, or refused. -/
theorem Answering.send {mark : Nat} {answer : List Request} {draft : Draft} {left : List Draft}
    (h : s.Answering mark answer (draft :: left)) (hw : s.transport.outbound.waiting = [])
    (who : String) : (s.send who draft).2.Answering mark answer left := by
  have htransport := s.transport_send who draft
  have hmark := h.marked
  -- Either way the request comes behind what was made before.
  have hmade : ∀ made, made = s.made ++ [(s.makeRequest draft).1] → ¬ s.Refuses →
      made.drop mark ++ s.profile.requests true left = answer := by
    rintro made rfl halive
    have hlength : mark ≤ s.made.length := by
      rw [Session.made, List.length_append]
      omega
    rcases h.answer with hwhole | ⟨hrefuses, -⟩
    · rw [List.drop_append_of_le_length hlength, List.append_assoc, List.singleton_append,
        ← requests_cons]
      exact hwhole
    · exact absurd hrefuses halive
  rcases s.transport.send_cases who draft.typeUrl (s.makeRequest draft).1 with
    ⟨hc, ha, -, hsend⟩ | ⟨hc, ha, -, hsend⟩ | ⟨hrefuses, e, hsend⟩
  · have halive : ¬ s.Refuses := by simp [Refuses, hc, ha]
    rw [hsend] at htransport
    refine ⟨?_, fun _ ↦ s.nodeTold_send who draft, .inl ?_⟩
    · rw [htransport, List.length_append]
      omega
    · rw [nodeTold_send, profile_send]
      refine hmade _ ?_ halive
      rw [made, made, htransport, hw, List.map_nil, List.append_nil, List.append_nil]
  · have halive : ¬ s.Refuses := by simp [Refuses, hc, ha]
    rw [hsend] at htransport
    refine ⟨?_, fun _ ↦ s.nodeTold_send who draft, .inl ?_⟩
    · rw [htransport]
      exact hmark
    · rw [nodeTold_send, profile_send]
      refine hmade _ ?_ halive
      rw [made, made, htransport, List.map_append, List.append_assoc]
      rfl
  · rw [hsend] at htransport
    have hsame : (s.send who draft).2.made = s.made := by rw [made, made, htransport]
    refine ⟨?_, fun _ ↦ s.nodeTold_send who draft, .inr ⟨?_, ?_⟩⟩
    · rw [htransport]
      exact hmark
    · rw [Refuses, htransport]
      exact hrefuses
    · rw [hsame]
      exact h.made_prefix

/-- What becomes of a receiver that makes a request: it goes on with what is left, or waits for
room. -/
theorem goOn_send_spec (hworking : s.receiver = .working)
    (hw : s.transport.outbound.waiting = []) (r : Response) (draft : Draft) (rest : List Step) :
    ∃ t, s.goOn r (.steps (.send draft :: rest)) = (some (.steps rest), t) ∧
      t.profile = s.profile ∧ t.ledger = s.ledger ∧
      t.transport.closed = s.transport.closed ∧ t.Orderly ∧
      (t.receiver = .working ∨ ∃ url, t.receiver = .sending url rest) ∧
      s.transport.outbound.sent <+: t.transport.outbound.sent ∧
      ∀ mark answer left, s.Answering mark answer (draft :: left) →
        t.Answering mark answer left := by
  have hreceiver := (s.receiver_send receiverName draft).trans hworking
  have houtcome := (s.send_spec receiverName draft).1
  have htransport := s.transport_send receiverName draft
  have hledger : (s.send receiverName draft).2.ledger = s.ledger := by
    have hsession := congrArg Session.ledger (s.send_spec receiverName draft).2
    exact hsession
  have hclosed : (s.send receiverName draft).2.transport.closed = s.transport.closed := by
    rw [htransport]
    exact Transport.closed_send ..
  have hanswering : ∀ mark answer left, s.Answering mark answer (draft :: left) →
      (s.send receiverName draft).2.Answering mark answer left :=
    fun mark answer left h ↦ h.send hw receiverName
  rw [goOn_send]
  rcases s.transport.send_cases receiverName draft.typeUrl (s.makeRequest draft).1 with
    ⟨-, -, -, hsend⟩ | ⟨-, -, -, hsend⟩ | ⟨-, e, hsend⟩
  · rw [hsend] at houtcome htransport
    rw [houtcome]
    refine ⟨_, rfl, s.profile_send .., hledger, hclosed, ?_, .inl hreceiver, ?_, hanswering⟩
    · rw [Orderly, hreceiver, htransport]
      exact (congrArg _ hw).trans List.map_nil
    · rw [htransport]
      exact List.prefix_append ..
  · rw [hsend] at houtcome htransport
    rw [houtcome]
    refine ⟨_, rfl, s.profile_send .., hledger, hclosed, ?_, .inr ⟨_, rfl⟩, ?_, ?_⟩
    · rw [Orderly]
      dsimp only
      rw [htransport, hw]
      rfl
    · refine ⟨[], ?_⟩
      dsimp only
      rw [htransport, List.append_nil]
    · exact fun mark answer left h ↦ (hanswering mark answer left h).of_same rfl rfl rfl id
  · rw [hsend] at houtcome htransport
    rw [houtcome]
    refine ⟨_, rfl, s.profile_send .., hledger, hclosed, ?_, .inl hreceiver, ?_, hanswering⟩
    · rw [Orderly, hreceiver, htransport]
      exact (congrArg _ hw).trans List.map_nil
    · exact ⟨[], by rw [htransport, List.append_nil]⟩

/-! ## The other side -/

/-- The receiver goes on if it need no longer wait. -/
def wake (s : Session) (names : List String) : Session :=
  if receiverName ∈ names then { s with receiver := .working } else s

/-- The other side reads all requests, and the receiver may go on. -/
def readOn (s : Session) : Session :=
  (s.withOutbound s.transport.outbound.readAll.2).wake s.transport.outbound.readAll.1

/-- The other side stops accepting requests, and the receiver goes on without the one with which it
waited. -/
def refuseOn (s : Session) : Session :=
  match s.receiver with
  | .sending url _ =>
    if receiverName ∈ s.transport.outbound.stop.1 then
      { s.withOutbound s.transport.outbound.stop.2 with
        receiver := .working }.warn (.unsent (Transport.refusal url))
    else s.withOutbound s.transport.outbound.stop.2
  | _ => s.withOutbound s.transport.outbound.stop.2

theorem run_receiver (s : Session) (receiver : Receiver) (steps : List Step) :
    { s with receiver }.run steps = s.run steps := by
  induction steps generalizing s with
  | nil => rfl
  | cons step rest ih =>
    cases step with
    | publish kind => exact ih { s with events := (s.events.publish kind).2 }
    | send draft =>
      have hsend : ({ s with receiver }.send receiverName draft).1 =
            (s.send receiverName draft).1 ∧
          ({ s with receiver }.send receiverName draft).2 =
            { (s.send receiverName draft).2 with receiver } := by
        unfold send
        dsimp only [makeRequest]
        generalize s.transport.send receiverName draft.typeUrl _ = sent
        obtain ⟨_ | ⟨e | _⟩, transport⟩ := sent <;> exact ⟨rfl, rfl⟩
      rw [run_send, run_send, hsend.1, hsend.2]
      cases (s.send receiverName draft).1 with
      | some outcome => exact ih _
      | none => rfl

/-- If the receiver has nobody beside it then reading is as if it ran on at once. -/
theorem makeRoom_eq_run {url : String} {rest : List Step} (hr : s.receiver = .sending url rest)
    (hmem : receiverName ∈ s.transport.outbound.readAll.1) : s.makeRoom = s.readOn.run rest := by
  rw [makeRoom, if_pos hmem, readOn, wake, if_pos hmem, run_receiver]
  exact resume_of_sending hr

theorem refuseRequests_eq_run {url : String} {rest : List Step}
    (hr : s.receiver = .sending url rest) (hmem : receiverName ∈ s.transport.outbound.stop.1) :
    s.refuseRequests = s.refuseOn.run rest := by
  have hresume := resume_of_unsent (s := s.withOutbound s.transport.outbound.stop.2)
    (e := Transport.refusal url) hr
  rw [refuseRequests_eq, refuseOn, hr]
  dsimp only
  rw [if_pos hmem, if_pos hmem, hresume, ← run_receiver _ .working]
  rfl

variable (s) in
/-- Reading moves requests on from those that wait, and nothing else. -/
theorem readOn_spec : s.readOn.profile = s.profile ∧ s.readOn.nodeTold = s.nodeTold ∧
    s.readOn.ledger = s.ledger ∧ s.readOn.transport.closed = s.transport.closed ∧
    s.readOn.transport.outbound = s.transport.outbound.readAll.2 := by
  rw [readOn, wake]
  split <;> exact ⟨rfl, rfl, rfl, rfl, rfl⟩

variable (s) in
theorem made_readOn : s.readOn.made = s.made ∧
    s.transport.outbound.sent.length ≤ s.readOn.transport.outbound.sent.length := by
  obtain ⟨hnames, hsent⟩ := s.transport.outbound.readAll_spec
  have hnames := congrArg List.length hnames
  have hlength := congrArg List.length hsent
  simp only [List.length_append, List.length_map] at hnames hlength
  rw [made, made, s.readOn_spec.2.2.2.2]
  exact ⟨hsent, by omega⟩

theorem Orderly.readOn (h : s.Orderly) : s.readOn.Orderly ∧
    (s.readOn.receiver = s.receiver ∨
      (∃ url rest, s.receiver = .sending url rest) ∧ s.readOn.receiver = .working) := by
  rw [Orderly, Session.readOn, wake]
  rcases h.readAll_cases with ⟨hmem, hsending, hwait⟩ | ⟨hmem, hwaiters⟩
  · rw [if_pos hmem]
    exact ⟨(congrArg _ hwait).trans List.map_nil, .inr ⟨hsending, rfl⟩⟩
  · rw [if_neg hmem]
    exact ⟨hwaiters, .inl rfl⟩

theorem Answering.readOn {mark : Nat} {answer : List Request} {left : List Draft}
    (h : s.Answering mark answer left) : s.readOn.Answering mark answer left := by
  obtain ⟨hprofile, htold, -, hclosed, hout⟩ := s.readOn_spec
  obtain ⟨hmade, hlength⟩ := s.made_readOn
  constructor
  · exact Nat.le_trans h.marked hlength
  · rw [hmade, htold]
    exact h.told
  · rw [hmade, htold, hprofile, Refuses, hclosed, hout, Outbound.accepting_readAll]
    exact h.answer

/-- What waited for room is gone, and nothing gets in any more. -/
theorem Orderly.refuseOn_spec (h : s.Orderly) :
    s.refuseOn.profile = s.profile ∧ s.refuseOn.nodeTold = s.nodeTold ∧
    s.refuseOn.ledger = s.ledger ∧ s.refuseOn.transport.closed = s.transport.closed ∧
    s.refuseOn.transport.outbound = s.transport.outbound.stop.2 ∧ s.refuseOn.Orderly ∧
    (s.refuseOn.receiver = s.receiver ∨
      (∃ url rest, s.receiver = .sending url rest) ∧ s.refuseOn.receiver = .working) := by
  rw [refuseOn]
  split
  · next url rest hr =>
    have hmem : receiverName ∈ s.transport.outbound.stop.1 := by
      rw [Outbound.stop, h, hr]
      exact List.mem_singleton_self _
    rw [if_pos hmem]
    exact ⟨rfl, rfl, rfl, rfl, rfl, rfl, .inr ⟨⟨url, rest, hr⟩, rfl⟩⟩
  · next hr =>
    refine ⟨rfl, rfl, rfl, rfl, rfl, ?_, .inl rfl⟩
    rw [Orderly]
    change [] = s.receiver.waiters
    cases hs : s.receiver with
    | sending url rest => exact absurd hs (hr url rest)
    | _ => rfl

theorem Answering.refuseOn {mark : Nat} {answer : List Request} {left : List Draft}
    (h : s.Answering mark answer left) (horderly : s.Orderly) :
    s.refuseOn.Answering mark answer left := by
  obtain ⟨-, htold, -, -, hout, -⟩ := horderly.refuseOn_spec
  have hmade : s.refuseOn.made.drop mark <+: s.made.drop mark := by
    have hsent : s.refuseOn.made = s.transport.outbound.sent := by
      rw [made, hout]
      exact List.append_nil _
    rw [hsent, made, List.drop_append_of_le_length h.marked]
    exact List.prefix_append ..
  constructor
  · rw [hout]
    exact h.marked
  · rw [htold]
    intro hsome
    refine h.told fun hnone ↦ hsome ?_
    rw [hnone] at hmade
    exact List.prefix_nil.mp hmade
  · have hrefuses : s.refuseOn.Refuses := by
      right
      rw [hout]
      rfl
    exact .inr ⟨hrefuses, hmade.trans h.made_prefix⟩

/-! ## Between two moments of the receiver -/

/-- Others have had their turn: somebody went on with a close, or the other side did something. -/
structure Meanwhile (s t : Session) : Prop where
  /-- It is the same session. -/
  profile : t.profile = s.profile
  /-- No request was made. -/
  nodeTold : t.nodeTold = s.nodeTold
  /-- Nothing is kept or forgotten. -/
  store : t.ledger.store = s.ledger.store
  /-- No clusters are seen. -/
  clustersSeen : t.ledger.clustersSeen = s.ledger.clustersSeen
  /-- An open session was open, and remembers what it remembered. -/
  opened : t.transport.closed = false → s.transport.closed = false ∧ t.ledger = s.ledger
  /-- Who accepts no requests does not begin again. -/
  refuses : s.Refuses → t.Refuses
  /-- Nobody waits for room but the receiver. -/
  orderly : t.Orderly
  /-- The receiver does what it did, or it was let in. -/
  receiver : t.receiver = s.receiver ∨
    (∃ url rest, s.receiver = .sending url rest) ∧ t.receiver = .working
  /-- What is on the stream stays there. -/
  sent : s.transport.outbound.sent <+: t.transport.outbound.sent
  /-- Nothing comes behind it while the receiver waits for a response. -/
  idle : s.receiver = .idle → t.transport.outbound.sent = s.transport.outbound.sent
  /-- An answer that is under way stays so. -/
  answering : ∀ mark answer left, s.Answering mark answer left → t.Answering mark answer left

theorem Aside.meanwhile {t : Session} (h : Aside s t) (horderly : s.Orderly) : Meanwhile s t where
  profile := h.profile
  nodeTold := h.nodeTold
  store := h.store
  clustersSeen := h.clustersSeen
  opened hopen := ⟨h.opened hopen, h.ledger hopen⟩
  refuses hrefuses := by
    rw [Refuses, h.outbound]
    exact hrefuses.imp_left h.closed
  orderly := by
    rw [Orderly, h.outbound, h.receiver]
    exact horderly
  receiver := .inl h.receiver
  sent := ⟨[], by rw [h.outbound, List.append_nil]⟩
  idle _ := by rw [h.outbound]
  answering _ _ _ hanswering :=
    hanswering.of_same h.profile h.outbound h.nodeTold h.closed

theorem Orderly.meanwhile_readOn (h : s.Orderly) : Meanwhile s s.readOn := by
  obtain ⟨hprofile, htold, hledger, hclosed, hout⟩ := s.readOn_spec
  obtain ⟨hmade, hlength⟩ := s.made_readOn
  have hsent : s.transport.outbound.sent <+: s.readOn.transport.outbound.sent := by
    have hbefore : s.transport.outbound.sent <+: s.made := List.prefix_append ..
    have hafter : s.readOn.transport.outbound.sent <+: s.made := by
      rw [← hmade]
      exact List.prefix_append ..
    exact List.prefix_of_prefix_length_le hbefore hafter hlength
  constructor
  · exact hprofile
  · exact htold
  · rw [hledger]
  · rw [hledger]
  · intro hopen
    exact ⟨hclosed.symm.trans hopen, hledger⟩
  · intro hrefuses
    rw [Refuses, hclosed, hout, Outbound.accepting_readAll]
    exact hrefuses
  · exact h.readOn.1
  · exact h.readOn.2
  · exact hsent
  · intro hidle
    rw [made_of_waiting_eq_nil (h.waiting_eq_nil hidle)] at hmade
    have hback : s.readOn.transport.outbound.sent <+: s.transport.outbound.sent := by
      rw [← hmade]
      exact List.prefix_append ..
    exact hback.eq_of_length_le hlength
  · exact fun _ _ _ hanswering ↦ hanswering.readOn

theorem Orderly.meanwhile_refuseOn (h : s.Orderly) : Meanwhile s s.refuseOn := by
  obtain ⟨hprofile, htold, hledger, hclosed, hout, horderly, hreceiver⟩ := h.refuseOn_spec
  have hsent : s.refuseOn.transport.outbound.sent = s.transport.outbound.sent := by rw [hout]; rfl
  constructor
  · exact hprofile
  · exact htold
  · rw [hledger]
  · rw [hledger]
  · intro hopen
    exact ⟨hclosed.symm.trans hopen, hledger⟩
  · intro _
    right
    rw [hout]
    rfl
  · exact horderly
  · exact hreceiver
  · exact ⟨[], by rw [hsent, List.append_nil]⟩
  · exact fun _ ↦ hsent
  · exact fun _ _ _ hanswering ↦ hanswering.refuseOn h

/-! ## Without anything in between -/

theorem Refuses.later {t : Session} (h : s.Refuses) (hlater : Later s t) : t.Refuses := by
  rcases h with hc | ha
  · exact .inl (hlater.closed hc)
  · right
    rw [Bool.eq_false_iff]
    intro ht
    rw [hlater.accepting ht] at ha
    cases ha

variable (s) in
theorem nodeTold_absorb (r : Response) : (s.absorb r).2.nodeTold = s.nodeTold := by
  cases hk : ResourceKind.ofTypeUrl? r.typeUrl with
  | none =>
    rw [absorb_of_none s hk]
    rfl
  | some k =>
    refine Eq.trans ?_ (s.aside_decodeBatch k r.payloads).nodeTold
    rw [absorb_of_some s hk, apply]
    split <;> rfl

end Session

end ProxyFleet
