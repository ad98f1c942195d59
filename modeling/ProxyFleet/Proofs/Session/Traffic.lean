import Mathlib.Logic.Relation
import ProxyFleet.Proofs.Session.Underway

/-!
# What happens to requests

A session has many ways to make a request, but few things can become of the requests on its stream.
First the other side may do something, read or stop accepting them (`served`). Then one sender acts,
the receiver or a caller, and `Act` lists what it can do: a request is refused, accepted, or left to
wait for room, or one that waits is given up. Whatever a session does, its stream goes through such
acts one after the other, and that is `Traffic`. A statement about the stream that the other side
and every act preserve is true after every move (`traffic_move`), and nobody has to look at the
moves again.

An act also says what its request was for. Nothing is made that was not asked for
(`Start.asked_of_made`).
-/

namespace ProxyFleet

theorem Outbound.requests_withdraw_subset {α : Type*} {o : Outbound α} (who : String) :
    (o.withdraw who).waiting.map (·.2) ⊆ o.waiting.map (·.2) :=
  List.map_subset _ (List.filter_subset_self _)

namespace Session

/-! ## Acts -/

/-- One thing that a sender can do to the requests of a session, where requests are only made of
drafts with a property. -/
inductive Act (who : String) (P : Draft → Prop) (s t : Session) : Prop
  /-- It leaves them alone. -/
  | aside (outbound : t.transport.outbound = s.transport.outbound) (told : t.nodeTold = s.nodeTold)
  /-- One is made and refused. -/
  | refused (refuses : s.Refuses) (outbound : t.transport.outbound = s.transport.outbound)
    (told : t.nodeTold = true)
  /-- One is made and accepted. -/
  | accepted (draft : Draft) (asked : P draft) (alive : ¬ s.Refuses)
    (room : s.transport.outbound.waiting = [] ∧ s.transport.outbound.hasRoom = true)
    (outbound : t.transport.outbound = { s.transport.outbound with
      sent := s.transport.outbound.sent ++ [(s.makeRequest draft).1] })
    (told : t.nodeTold = true)
  /-- One is made and waits for room. -/
  | waits (draft : Draft) (asked : P draft) (alive : ¬ s.Refuses)
    (full : ¬ (s.transport.outbound.waiting = [] ∧ s.transport.outbound.hasRoom = true))
    (outbound : t.transport.outbound = { s.transport.outbound with
      waiting := s.transport.outbound.waiting ++ [(who, (s.makeRequest draft).1)] })
    (told : t.nodeTold = true)
  /-- It takes back what waits. -/
  | withdrawn (outbound : t.transport.outbound = s.transport.outbound.withdraw who)
    (told : t.nodeTold = s.nodeTold)

/-- A sender acts one time after the other, and what no move takes back stays. -/
def Traffic (who : String) (P : Draft → Prop) : Session → Session → Prop :=
  Relation.ReflTransGen fun s t ↦ Later s t ∧ Act who P s t

variable {who : String} {P : Draft → Prop} {s t u : Session}

namespace Traffic

theorem refl (s : Session) : Traffic who P s s := Relation.ReflTransGen.refl

theorem trans (h : Traffic who P s t) (h' : Traffic who P t u) : Traffic who P s u :=
  Relation.ReflTransGen.trans h h'

theorem of_act (hlater : Later s t) (h : Act who P s t) : Traffic who P s t :=
  Relation.ReflTransGen.single ⟨hlater, h⟩

theorem of_same (hlater : Later s t) (hout : t.transport.outbound = s.transport.outbound)
    (htold : t.nodeTold = s.nodeTold) : Traffic who P s t := of_act hlater (.aside hout htold)

/-- What every act preserves is preserved. -/
theorem preserves {I : Session → Prop} (h : Traffic who P s t)
    (hact : ∀ s t, Later s t → Act who P s t → I s → I t) (hs : I s) : I t := by
  induction h with
  | refl => exact hs
  | tail _ hlast ih => exact hact _ _ hlast.1 hlast.2 ih

end Traffic

/-- A request that is on the stream or waits was there before, or was made of something that was
asked for. -/
theorem Act.mem_made (h : Act who P s t) {q : Request} (hq : q ∈ t.made) :
    q ∈ s.made ∨ P q.draft := by
  rw [made, List.mem_append] at hq ⊢
  cases h with
  | aside hout _ =>
    rw [hout] at hq
    exact .inl hq
  | refused _ hout _ =>
    rw [hout] at hq
    exact .inl hq
  | accepted draft hasked _ _ hout _ =>
    rw [hout, List.mem_append, List.mem_singleton] at hq
    rcases hq with (hq | rfl) | hq
    · exact .inl (.inl hq)
    · exact .inr hasked
    · exact .inl (.inr hq)
  | waits draft hasked _ _ hout _ =>
    rw [hout, List.map_append, List.mem_append, List.map_singleton, List.mem_singleton] at hq
    rcases hq with hq | hq | rfl
    · exact .inl (.inl hq)
    · exact .inl (.inr hq)
    · exact .inr hasked
  | withdrawn hout _ =>
    rw [hout] at hq
    exact .inl (hq.imp_right fun hw ↦ Outbound.requests_withdraw_subset who hw)

/-! ## What goes through acts -/

/-- A closed transport refuses everything, so nothing is said about what is asked for then. -/
theorem traffic_send (who : String) {draft : Draft} (hP : s.transport.closed = false → P draft) :
    Traffic who P s (s.send who draft).2 := by
  have hlater := (s.quiet_send who draft).toLater
  have htold := s.nodeTold_send who draft
  have htransport := s.transport_send who draft
  rcases s.transport.send_cases who draft.typeUrl (s.makeRequest draft).1 with
    ⟨hc, ha, hroom, hsend⟩ | ⟨hc, ha, hfull, hsend⟩ | ⟨hrefuses, e, hsend⟩
  · rw [hsend] at htransport
    exact .of_act hlater
      (.accepted draft (hP hc) (by simp [Refuses, hc, ha]) hroom (by rw [htransport]) htold)
  · rw [hsend] at htransport
    exact .of_act hlater
      (.waits draft (hP hc) (by simp [Refuses, hc, ha]) hfull (by rw [htransport]) htold)
  · rw [hsend] at htransport
    exact .of_act hlater (.refused hrefuses (by rw [htransport]) htold)

/-- Only on an open transport does a request wait for room. -/
theorem open_of_send_eq_none {who : String} {draft : Draft} (h : (s.send who draft).1 = none) :
    s.transport.closed = false := by
  rw [(s.send_spec who draft).1] at h
  rw [Bool.eq_false_iff]
  intro hc
  rw [Transport.send, if_pos hc] at h
  cases h

/-- The requests of steps are asked for, those that are made and those that are left to make. -/
theorem traffic_run (steps : List Step)
    (hP : s.transport.closed = false → ∀ d ∈ steps.filterMap Step.draft?, P d) :
    Traffic receiverName P s (s.run steps) ∧ ∀ d ∈ (s.run steps).receiver.pending, P d := by
  induction steps generalizing s with
  | nil => exact ⟨.of_same ⟨rfl, id, id, id⟩ rfl rfl, fun d hd ↦ by cases hd⟩
  | cons step rest ih =>
    cases step with
    | publish kind =>
      have hpublished : Traffic receiverName P s { s with events := (s.events.publish kind).2 } :=
        .of_same (Quiet.of_events (s.events.closed_publish kind)).toLater rfl rfl
      obtain ⟨hrun, hpending⟩ := ih (s := { s with events := (s.events.publish kind).2 }) hP
      exact ⟨hpublished.trans hrun, hpending⟩
    | send draft =>
      have hlater := (s.quiet_send receiverName draft).toLater
      have hsend : Traffic receiverName P s (s.send receiverName draft).2 :=
        traffic_send receiverName fun hopen ↦ hP hopen draft List.mem_cons_self
      have hrest : s.transport.closed = false → ∀ d ∈ rest.filterMap Step.draft?, P d :=
        fun hopen d hd ↦ hP hopen d (List.mem_cons_of_mem draft hd)
      rw [run_send]
      cases hres : (s.send receiverName draft).1 with
      | some _ =>
        obtain ⟨hrun, hpending⟩ := ih fun hopen ↦ hrest (hlater.opened hopen)
        exact ⟨hsend.trans hrun, hpending⟩
      | none =>
        have hleft : Traffic receiverName P (s.send receiverName draft).2
            { (s.send receiverName draft).2 with receiver := .sending draft.typeUrl rest } :=
          .of_same ⟨rfl, id, id, id⟩ rfl rfl
        exact ⟨hsend.trans hleft, hrest (open_of_send_eq_none hres)⟩

theorem traffic_sendAll (drafts : List Draft)
    (hP : s.transport.closed = false → ∀ d ∈ drafts, P d) :
    Traffic callerName P s (s.sendAll drafts).2 ∧ (s.sendAll drafts).2.receiver = s.receiver := by
  induction drafts generalizing s with
  | nil => exact ⟨.refl s, rfl⟩
  | cons draft rest ih =>
    have hlater := (s.quiet_send callerName draft).toLater
    have hreceiver := s.receiver_send callerName draft
    have hsend : Traffic callerName P s (s.send callerName draft).2 :=
      traffic_send callerName fun hopen ↦ hP hopen draft List.mem_cons_self
    rw [sendAll_cons]
    cases (s.send callerName draft).1 with
    | none =>
      refine ⟨hsend.trans (.of_act ?_ (.withdrawn rfl rfl)), hreceiver⟩
      exact ⟨rfl, id, id, id⟩
    | some outcome =>
      cases outcome with
      | ok _ =>
        obtain ⟨hall, hsame⟩ := ih fun hopen d hd ↦
          hP (hlater.opened hopen) d (List.mem_cons_of_mem draft hd)
        exact ⟨hsend.trans hall, hsame.trans hreceiver⟩
      | error e => exact ⟨hsend, hreceiver⟩

/-! ## Moves -/

variable (s) in
/-- The session once the other side has done its part of a move: it reads requests or stops
accepting them. -/
def served : Move → Session
  | .read => s.withOutbound s.transport.outbound.readAll.2
  | .refuse => s.withOutbound s.transport.outbound.stop.2
  | _ => s

/-- In whose name requests are made with a move. -/
def Move.sender : Move → String
  | .watch => callerName
  | _ => receiverName

variable (s) in
theorem later_served (m : Move) : Later s (s.served m) := by
  cases m with
  | read =>
    exact (s.quiet_withOutbound s.transport.outbound.accepting_readAll.symm.trans).toLater
  | refuse => exact (s.quiet_withOutbound fun h ↦ Bool.noConfusion h).toLater
  | _ => exact .refl s

variable (s) in
theorem mem_made_of_served {m : Move} {q : Request} (hq : q ∈ (s.served m).made) : q ∈ s.made := by
  cases m with
  | read =>
    rw [made, ← s.transport.outbound.readAll_spec.2]
    exact hq
  | refuse =>
    rw [made_of_waiting_eq_nil rfl] at hq
    exact List.mem_append_left _ hq
  | _ => exact hq

variable (s) in
/-- What a session can make requests of with a move: what its receiver had left to make, and what
the move asks for, if the session is open. -/
def Due (m : Move) (d : Draft) : Prop :=
  d ∈ s.receiver.pending ∨ s.transport.closed = false ∧ d ∈ s.asks m

variable (s) in
theorem traffic_watch : Traffic callerName (s.Due .watch) s s.watch.2 ∧
    s.watch.2.receiver = s.receiver := by
  have hclaimed : ∀ ledger,
      Traffic callerName (s.Due .watch) s { s with ledger, watchBegun := true } :=
    fun _ ↦ .of_same ⟨rfl, id, id, id⟩ rfl rfl
  rw [watch]
  split
  · exact ⟨.refl s, rfl⟩
  · rw [claimWatch]
    cases hbegun : s.watchBegun with
    | true => exact ⟨hclaimed _, rfl⟩
    | false =>
      have hasks : s.asks .watch = s.profile.mode.opening := by
        rw [asks, hbegun]
        rfl
      obtain ⟨hall, hreceiver⟩ := traffic_sendAll s.profile.mode.opening (P := s.Due .watch)
        (s := { s with ledger := s.ledger.beginWatch s.profile.mode, watchBegun := true })
        fun hopen d hd ↦ .inr ⟨hopen, hasks ▸ hd⟩
      exact ⟨(hclaimed _).trans hall, hreceiver⟩

theorem traffic_respond (hidle : s.receiver = .idle) (r : Response) :
    Traffic receiverName (s.Due (.respond r)) s (s.respond r) ∧
      ∀ d ∈ (s.respond r).receiver.pending, s.Due (.respond r) d := by
  have hlater : Later s { s with receiver := .working } := ⟨rfl, id, id, id⟩
  have habsorbed := hlater.trans (later_absorb { s with receiver := .working } r)
  have hasks : s.asks (.respond r) = (s.ledger.reply s.profile r).2 := if_pos hidle
  obtain ⟨hrun, hpending⟩ := traffic_run (P := s.Due (.respond r))
    ({ s with receiver := .working }.absorb r).1 fun hopen d hd ↦ by
      rw [(absorb_spec _ hopen).1] at hd
      exact .inr ⟨habsorbed.opened hopen, hasks ▸ hd⟩
  have hsame : Traffic receiverName (s.Due (.respond r)) s
      ({ s with receiver := .working }.absorb r).2 :=
    .of_same habsorbed (outbound_absorb _ r) (nodeTold_absorb _ r)
  exact ⟨hsame.trans hrun, hpending⟩

theorem traffic_teardown (s : Session) (reason : Option Failure) :
    Traffic who P s (s.teardown reason) := by
  have htold : (s.teardown reason).nodeTold = s.nodeTold := by
    rw [teardown, latchClose_eq]
    split <;> rfl
  exact .of_same (s.quiet_teardown reason).toLater (s.teardown_spec reason).2.1 htold

/-- A receiver that goes on makes what it had left to make. -/
theorem traffic_resume (outcome : Except Failure Unit) (hP : ∀ d ∈ s.receiver.pending, P d) :
    Traffic receiverName P s (s.resume outcome) ∧
      ∀ d ∈ (s.resume outcome).receiver.pending, P d := by
  cases hreceiver : s.receiver with
  | sending url rest =>
    rw [hreceiver] at hP
    cases outcome with
    | ok _ =>
      rw [resume_of_sending hreceiver]
      exact traffic_run rest fun _ ↦ hP
    | error e =>
      rw [resume_of_unsent hreceiver]
      obtain ⟨hrun, hpending⟩ := traffic_run (s := s.warn (.unsent e)) rest fun _ ↦ hP
      have hwarned : Traffic receiverName P s (s.warn (.unsent e)) :=
        .of_same (s.quiet_warn _).toLater rfl rfl
      exact ⟨hwarned.trans hrun, hpending⟩
  | _ =>
    have hsame : s.resume outcome = s := by
      rw [resume.eq_def, hreceiver]
    rw [hsame]
    exact ⟨.refl s, hP⟩

theorem traffic_makeRoom (hP : ∀ d ∈ s.receiver.pending, P d) :
    Traffic receiverName P (s.withOutbound s.transport.outbound.readAll.2) s.makeRoom ∧
      ∀ d ∈ s.makeRoom.receiver.pending, P d := by
  rw [makeRoom]
  split
  · exact traffic_resume (s := s.withOutbound s.transport.outbound.readAll.2) (.ok ()) hP
  · exact ⟨.refl _, hP⟩

theorem traffic_refuseRequests (hP : ∀ d ∈ s.receiver.pending, P d) :
    Traffic receiverName P (s.withOutbound s.transport.outbound.stop.2) s.refuseRequests ∧
      ∀ d ∈ s.refuseRequests.receiver.pending, P d := by
  rw [refuseRequests_eq]
  split
  · next url _ _ =>
    split
    · exact traffic_resume (s := s.withOutbound s.transport.outbound.stop.2)
        (.error (Transport.refusal url)) hP
    · exact ⟨.refl _, hP⟩
  · exact ⟨.refl _, hP⟩

/-- A move, after the other side has done its part, is traffic of what is due, and what is due is
also what the receiver has left to make. -/
theorem traffic_move (s : Session) (m : Move) :
    Traffic m.sender (s.Due m) (s.served m) (s.move m) ∧
      ∀ d ∈ (s.move m).receiver.pending, s.Due m d := by
  have hleft : ∀ d ∈ s.receiver.pending, s.Due m d := fun d hd ↦ .inl hd
  cases m with
  | watch =>
    obtain ⟨htraffic, hreceiver⟩ := s.traffic_watch
    refine ⟨htraffic, ?_⟩
    rw [move, hreceiver]
    exact hleft
  | close =>
    refine ⟨traffic_teardown s none, ?_⟩
    have hreceiver : (s.move .close).receiver = s.receiver := (s.teardown_spec none).2.2.1
    rw [hreceiver]
    exact hleft
  | respond r =>
    rw [move]
    split
    · next hidle => exact traffic_respond hidle r
    · exact ⟨.refl s, hleft⟩
  | fail e =>
    rw [move]
    split
    · have hended : Traffic receiverName (s.Due (.fail e)) s { s with receiver := .ended } :=
        .of_same ⟨rfl, id, id, id⟩ rfl rfl
      have hclosed := hended.trans (traffic_teardown _ (some e))
      refine ⟨hclosed.trans (.of_same ⟨rfl, id, id, id⟩ rfl rfl), fun d hd ↦ ?_⟩
      cases hd
    · exact ⟨.refl s, hleft⟩
  | inbound i => exact ⟨.of_same (s.later_move _) rfl rfl, hleft⟩
  | wait want millis => exact ⟨.of_same (s.later_move _) rfl rfl, hleft⟩
  | clear => exact ⟨.of_same (s.later_move _) rfl rfl, hleft⟩
  | read => exact traffic_makeRoom hleft
  | refuse => exact traffic_refuseRequests hleft

/-! ## What requests are for -/

variable (s) in
/-- Something that was asked for in a play: by a move, of a session that was open then. -/
def AskedIn (moves : List Move) (d : Draft) : Prop :=
  ∃ before m after, moves = before ++ m :: after ∧
    (s.play before).isClosed = false ∧ d ∈ (s.play before).asks m

theorem AskedIn.concat {moves : List Move} {d : Draft} (h : s.AskedIn moves d) (m : Move) :
    s.AskedIn (moves ++ [m]) d := by
  obtain ⟨before, n, after, rfl, hasked⟩ := h
  exact ⟨before, n, after ++ [m], by rw [List.append_assoc, List.cons_append], hasked⟩

theorem Due.asked {moves : List Move} {m : Move} {d : Draft} (h : (s.play moves).Due m d)
    (hlatch : (s.play moves).events.closed = (s.play moves).transport.closed) :
    d ∈ (s.play moves).receiver.pending ∨ s.AskedIn (moves ++ [m]) d := by
  rcases h with hpending | ⟨hopen, hasks⟩
  · exact .inl hpending
  · exact .inr ⟨moves, m, [], rfl, hlatch.trans hopen, hasks⟩

/-- Whatever is on the stream of a session, waits for room or is left to make, is one of the first
requests, or was asked for. -/
theorem Start.asked_of_made {p : Profile} {keepsStore : Bool} (hs : Start p keepsStore s)
    (moves : List Move) :
    (∀ q ∈ (s.play moves).made, q.draft ∈ p.mode.opening ∨ s.AskedIn moves q.draft) ∧
      ∀ d ∈ (s.play moves).receiver.pending, d ∈ p.mode.opening ∨ s.AskedIn moves d := by
  induction moves using List.reverseRecOn with
  | nil =>
    cases hs with
    | onStream => exact ⟨fun _ hq ↦ absurd hq List.not_mem_nil, fun _ hd ↦ by cases hd⟩
    | connected =>
      refine ⟨fun q hq ↦ .inl ?_, fun _ hd ↦ by cases hd⟩
      rw [← map_draft_openingRequests p]
      rw [made_of_waiting_eq_nil rfl] at hq
      exact List.mem_map_of_mem hq
  | append_singleton moves m ih =>
    rw [play_concat]
    obtain ⟨htraffic, hleft⟩ := traffic_move (s.play moves) m
    have hdue : ∀ d, (s.play moves).Due m d →
        d ∈ p.mode.opening ∨ s.AskedIn (moves ++ [m]) d := by
      intro d hd
      rcases hd.asked (hs.latched moves) with hpending | hasked
      · exact (ih.2 d hpending).imp_right (·.concat m)
      · exact .inr hasked
    refine ⟨?_, fun d hd ↦ hdue d (hleft d hd)⟩
    -- A move makes no request at once, but in acts: the statement goes through each of them.
    refine htraffic.preserves
      (I := fun t ↦ ∀ q ∈ t.made, q.draft ∈ p.mode.opening ∨ s.AskedIn (moves ++ [m]) q.draft)
      (fun t u _ hact ht q hq ↦ ?_)
      fun q hq ↦ (ih.1 q (mem_made_of_served _ hq)).imp_right (·.concat m)
    rcases hact.mem_made hq with hmade | hasked
    · exact ht q hmade
    · exact hdue _ hasked

end Session

end ProxyFleet
