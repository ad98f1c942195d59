import Mathlib.Data.List.Induction
import ProxyFleet.Proofs.Session.Reply

/-!
# The course of a session

What one move does, and from it what is true of every session after every play. Two things are
followed: what an open session remembers, and what it asked for. The first needs no luck. The second
is what the stream says only if all requests were accepted, which is a property of the play.

Both come as inductions, `Start.ledger_induction` and `Start.trace_induction`: a statement about
what was heard, what was asked for and what is remembered holds of every such session if it holds at
the beginning, survives the beginning of the subscriptions, and survives a reply. No move is looked
at after this file.
-/

namespace ProxyFleet

universe u

theorem Outbound.exists_letIn_eq {α : Type u} (steps : Nat) (o : Outbound α) :
    ∃ admitted : List (String × α), (letIn steps o).1 = admitted.map (·.1) ∧
      (letIn steps o).2.sent = o.sent ++ admitted.map (·.2) ∧
      o.waiting = admitted ++ (letIn steps o).2.waiting := by
  induction steps generalizing o with
  | zero => exact ⟨[], rfl, (List.append_nil _).symm, rfl⟩
  | succ steps ih =>
    rw [letIn]
    split
    · exact ⟨[], rfl, (List.append_nil _).symm, rfl⟩
    · next who request rest hw =>
      split
      · obtain ⟨admitted, hnames, hsent, hwaiting⟩ :=
          ih { o with sent := o.sent ++ [request], waiting := rest }
        refine ⟨(who, request) :: admitted, congrArg (who :: ·) hnames, ?_, ?_⟩
        · exact hsent.trans (List.append_assoc ..)
        · exact hw.trans (congrArg ((who, request) :: ·) hwaiting)
      · exact ⟨[], rfl, (List.append_nil _).symm, rfl⟩

theorem Outbound.exists_readAll_eq {α : Type u} (o : Outbound α) :
    ∃ admitted : List (String × α), o.readAll.1 = admitted.map (·.1) ∧
      o.readAll.2.sent = o.sent ++ admitted.map (·.2) ∧
      o.waiting = admitted ++ o.readAll.2.waiting := by
  rw [readAll]
  split
  · exact exists_letIn_eq _ { o with read := o.sent.length }
  · exact ⟨[], rfl, (List.append_nil _).symm, rfl⟩

theorem Outbound.readAll_spec {α : Type u} (o : Outbound α) :
    o.readAll.1 ++ o.readAll.2.waiting.map (·.1) = o.waiting.map (·.1) ∧
    o.readAll.2.sent ++ o.readAll.2.waiting.map (·.2) = o.sent ++ o.waiting.map (·.2) := by
  obtain ⟨admitted, hnames, hsent, hwaiting⟩ := o.exists_readAll_eq
  constructor
  · rw [hwaiting, List.map_append, hnames]
  · rw [hsent, hwaiting, List.map_append, List.append_assoc]

namespace Session

variable {s : Session}

/-! ## One move -/

/-- Nobody but the receiver can be let in. If it is then nobody waits any more, and if not then
those who waited still do. -/
theorem Orderly.readAll_cases (h : s.Orderly) :
    (receiverName ∈ s.transport.outbound.readAll.1 ∧
      (∃ url rest, s.receiver = .sending url rest) ∧
      s.transport.outbound.readAll.2.waiting = []) ∨
    receiverName ∉ s.transport.outbound.readAll.1 ∧
      s.transport.outbound.readAll.2.waiting.map (·.1) = s.receiver.waiters := by
  obtain ⟨hnames, -⟩ := s.transport.outbound.readAll_spec
  rw [h] at hnames
  by_cases hmem : receiverName ∈ s.transport.outbound.readAll.1
  · have hwaited : receiverName ∈ s.receiver.waiters := hnames ▸ List.mem_append_left _ hmem
    obtain ⟨url, rest, hr⟩ : ∃ url rest, s.receiver = .sending url rest := by
      cases hs : s.receiver with
      | sending url rest => exact ⟨url, rest, rfl⟩
      | _ => rw [hs] at hwaited; cases hwaited
    refine .inl ⟨hmem, ⟨url, rest, hr⟩, ?_⟩
    have hlength := congrArg List.length hnames
    rw [hr, List.length_append, List.length_map] at hlength
    have hpos := List.length_pos_of_mem hmem
    have hone : (Receiver.sending url rest).waiters.length = 1 := rfl
    exact List.length_eq_zero_iff.mp (by omega)
  · refine .inr ⟨hmem, ?_⟩
    have hadmitted : s.transport.outbound.readAll.1 = [] := by
      rw [List.eq_nil_iff_forall_not_mem]
      intro who hwho
      have hname := Receiver.eq_of_mem_waiters (hnames ▸ List.mem_append_left _ hwho)
      exact hmem (hname ▸ hwho)
    rw [hadmitted] at hnames
    exact hnames

theorem makeRoom_spec (h : s.Orderly) :
    s.makeRoom.Orderly ∧ (s.makeRoom.transport.closed = false →
      s.makeRoom.transport.outbound.accepting = true → s.makeRoom.requested = s.requested) := by
  obtain ⟨-, hsent⟩ := s.transport.outbound.readAll_spec
  -- Sent and waiting requests together are what they were, only the border between them moved.
  have hsent : s.transport.outbound.readAll.2.sent.map (·.draft) ++
      s.transport.outbound.readAll.2.waiting.map (·.2.draft) =
      s.wire ++ s.transport.outbound.waiting.map (·.2.draft) := by
    have hdrafts := congrArg (List.map (·.draft)) hsent
    rw [List.map_append, List.map_append, List.map_map, List.map_map] at hdrafts
    exact hdrafts
  rw [makeRoom]
  rcases h.readAll_cases with ⟨hmem, ⟨url, rest, hr⟩, hwait⟩ | ⟨hmem, hwaiters⟩
  · rw [if_pos hmem]
    have hresume : (s.withOutbound s.transport.outbound.readAll.2).resume (.ok ()) =
        (s.withOutbound s.transport.outbound.readAll.2).run rest := resume_of_sending hr
    rw [hresume]
    obtain ⟨horderly, hrequested⟩ :=
      run_spec (s := s.withOutbound s.transport.outbound.readAll.2) rest hwait
    refine ⟨horderly, fun hc ha ↦ (hrequested hc ha).trans ?_⟩
    rw [requested, hr, ← hsent, hwait, List.map_nil, List.append_nil]
    rfl
  · rw [if_neg hmem]
    refine ⟨hwaiters, fun _ _ ↦ ?_⟩
    rw [requested, requested, ← hsent]
    rfl

theorem orderly_refuseRequests (h : s.Orderly) : s.refuseRequests.Orderly := by
  rw [refuseRequests_eq]
  split
  · next url rest hr =>
    have hmem : receiverName ∈ s.transport.outbound.stop.1 := by
      rw [Outbound.stop, h, hr]
      exact List.mem_singleton_self _
    rw [if_pos hmem, resume_of_unsent (s := s.withOutbound s.transport.outbound.stop.2) hr]
    exact (run_spec (s := (s.withOutbound s.transport.outbound.stop.2).warn
      (.unsent (Transport.refusal url))) rest rfl).1
  · next hr =>
    rw [Orderly]
    change [] = s.receiver.waiters
    cases hs : s.receiver with
    | sending url rest => exact absurd hs (hr url rest)
    | _ => rfl

theorem respond_spec (h : s.Orderly) (hr : s.receiver = .idle) (r : Response) :
    (s.respond r).Orderly ∧ ((s.respond r).transport.closed = false →
      (s.respond r).transport.outbound.accepting = true →
      (s.respond r).requested = s.requested ++ (s.ledger.reply s.profile r).2) := by
  have hout := outbound_absorb { s with receiver := .working } r
  obtain ⟨horderly, hrequested⟩ :=
    run_spec ({ s with receiver := .working }.absorb r).1 (by rw [hout]; exact h.waiting_eq_nil hr)
  refine ⟨horderly, fun hc ha ↦ (hrequested hc ha).trans ?_⟩
  have hopen : ({ s with receiver := .working }.absorb r).2.transport.closed = false :=
    (quiet_run ..).opened hc
  rw [(absorb_spec _ hopen).1, wire, hout, h.requested_eq hr]
  rfl

theorem watch_spec (h : s.Orderly) :
    s.watch.2.Orderly ∧ (s.isClosed = false → s.watch.1 ≠ .blocked →
      s.watch.2.transport.closed = false → s.watch.2.transport.outbound.accepting = true →
      s.watch.2.requested =
        s.requested ++ if s.watchBegun then [] else s.profile.mode.opening) := by
  have hclaimed : ∀ ledger, Orderly { s with ledger, watchBegun := true } := fun _ ↦ h
  rw [watch]
  by_cases hc : s.isClosed = true
  · rw [if_pos hc]
    exact ⟨h, fun ho ↦ absurd hc (Bool.eq_false_iff.mp ho)⟩
  rw [if_neg hc, claimWatch]
  cases s.watchBegun with
  | true => exact ⟨hclaimed _, fun _ _ _ _ ↦ (List.append_nil _).symm⟩
  | false =>
    obtain ⟨horderly, hrequested⟩ := sendAll_spec s.profile.mode.opening
      (hclaimed (s.ledger.beginWatch s.profile.mode))
    exact ⟨horderly, fun _ ↦ hrequested⟩

theorem orderly_teardown (h : s.Orderly) (reason : Option Failure) :
    (s.teardown reason).Orderly := by
  obtain ⟨-, ho, hr, -⟩ := s.teardown_spec reason
  rw [Orderly, ho, hr]
  exact h

theorem orderly_move (h : s.Orderly) (m : Move) : (s.move m).Orderly := by
  cases m with
  | watch => exact (watch_spec h).1
  | close => exact orderly_teardown h none
  | inbound i => exact h
  | respond r =>
    rw [move]
    split
    · next hr => exact (respond_spec h hr r).1
    · exact h
  | fail e =>
    rw [move]
    split
    · next hr =>
      rw [Orderly]
      change (teardown _ _).transport.outbound.waiting.map _ = []
      rw [(teardown_spec ..).2.1]
      exact (congrArg _ (h.waiting_eq_nil hr)).trans List.map_nil
    · exact h
  | wait want millis => exact h
  | clear => exact h
  | read => exact (makeRoom_spec h).1
  | refuse => exact orderly_refuseRequests h

variable (s) in
theorem later_watch : Later s s.watch.2 := by
  have hclaimed : ∀ ledger, Later s { s with ledger, watchBegun := true } := fun _ ↦
    ⟨rfl, id, id, id⟩
  rw [watch]
  split
  · exact .refl s
  · rw [claimWatch]
    cases s.watchBegun with
    | true => exact hclaimed _
    | false =>
      exact (hclaimed (s.ledger.beginWatch s.profile.mode)).trans (quiet_sendAll ..).toLater

variable (s) in
theorem later_move (m : Move) : Later s (s.move m) := by
  cases m with
  | watch => exact later_watch s
  | respond r =>
    rw [move]
    split
    · exact later_respond s r
    · exact .refl s
  | _ => exact Quiet.toLater (s.quiet_move (fun h ↦ by cases h) (fun _ h ↦ by cases h))

theorem ledger_respond {r : Response} (hopen : (s.respond r).transport.closed = false) :
    (s.respond r).ledger = (s.ledger.reply s.profile r).1 := by
  have habsorbed : ({ s with receiver := .working }.absorb r).2.transport.closed = false :=
    (quiet_run ..).opened hopen
  have hledger := (absorb_spec { s with receiver := .working } habsorbed).2
  exact ((quiet_run ..).ledger hopen).trans hledger

theorem watchBegun_respond (r : Response) : (s.respond r).watchBegun = s.watchBegun := by
  have habsorbed :
      ({ s with receiver := .working }.absorb r).2.watchBegun = s.watchBegun := by
    rw [absorb]
    split
    · rfl
    · next kind _ =>
      have hdecoded :=
        (quiet_decodeBatch { s with receiver := .working } kind r.payloads).watchBegun
      refine Eq.trans ?_ hdecoded
      dsimp only
      rw [apply]
      split <;> rfl
  exact ((quiet_run ..).watchBegun).trans habsorbed

/-- All that a move which leaves the session open can mean: nothing, the beginning of the
subscriptions, or a response. -/
theorem move_cases (hlatch : s.events.closed = s.transport.closed) (m : Move)
    (hopen : (s.move m).transport.closed = false) :
    (s.hears m = [] ∧ s.asks m = [] ∧ (s.move m).watchBegun = s.watchBegun ∧
      (s.move m).ledger = s.ledger) ∨
    (s.hears m = [] ∧ s.asks m = s.profile.mode.opening ∧
      (s.watchBegun = false ∧ (s.move m).watchBegun = true) ∧
      (s.move m).ledger = s.ledger.beginWatch s.profile.mode) ∨
    ∃ r, s.hears m = [r] ∧ s.asks m = (s.ledger.reply s.profile r).2 ∧
      (s.move m).watchBegun = s.watchBegun ∧
      (s.move m).ledger = (s.ledger.reply s.profile r).1 := by
  cases m with
  | watch =>
    have hc : s.isClosed = false := hlatch.trans ((s.later_move .watch).opened hopen)
    rw [move, watch, if_neg (Bool.eq_false_iff.mp hc), claimWatch] at hopen ⊢
    rw [asks]
    cases hb : s.watchBegun with
    | true => exact .inl ⟨rfl, if_pos rfl, rfl, rfl⟩
    | false =>
      rw [hb] at hopen
      exact .inr (.inl ⟨rfl, if_neg Bool.false_ne_true, ⟨rfl, (quiet_sendAll ..).watchBegun⟩,
        (quiet_sendAll ..).ledger hopen⟩)
  | respond r =>
    rw [move] at hopen ⊢
    rw [hears, asks]
    by_cases hr : s.receiver = .idle
    · rw [if_pos hr] at hopen
      rw [if_pos hr, if_pos hr, if_pos hr]
      exact .inr (.inr ⟨r, rfl, rfl, watchBegun_respond r, ledger_respond hopen⟩)
    · rw [if_neg hr, if_neg hr, if_neg hr]
      exact .inl ⟨rfl, rfl, rfl, rfl⟩
  | _ =>
    refine .inl ⟨rfl, rfl, ?_, ?_⟩
    · exact Quiet.watchBegun (s.quiet_move (fun h ↦ by cases h) (fun _ h ↦ by cases h))
    · exact Quiet.ledger (s.quiet_move (fun h ↦ by cases h) (fun _ h ↦ by cases h)) hopen

/-- A move asks for what it has to, and if it is not refused it gets it in the end. -/
theorem requested_move (h : s.Orderly) (hlatch : s.events.closed = s.transport.closed) (m : Move)
    (hunblocked : m = .watch → s.watch.1 ≠ .blocked)
    (hopen : (s.move m).transport.closed = false)
    (haccepting : (s.move m).transport.outbound.accepting = true) :
    (s.move m).requested = s.requested ++ s.asks m := by
  cases m with
  | watch =>
    have hc : s.isClosed = false := hlatch.trans ((s.later_move .watch).opened hopen)
    exact (watch_spec h).2 hc (hunblocked rfl) hopen haccepting
  | respond r =>
    rw [move] at hopen haccepting ⊢
    rw [asks]
    by_cases hr : s.receiver = .idle
    · rw [if_pos hr] at hopen haccepting ⊢
      rw [if_pos hr]
      exact (respond_spec h hr r).2 hopen haccepting
    · rw [if_neg hr, if_neg hr, List.append_nil]
  -- Moves that close the session or refuse requests for good are none of those meant here.
  | close =>
    rw [move, close, (closed_teardown ..).1] at hopen
    cases hopen
  | fail e =>
    rw [move] at hopen ⊢
    split at hopen
    · have hclosed : (s.fail e).transport.closed = true := (closed_teardown ..).1
      rw [hclosed] at hopen
      cases hopen
    · next hr =>
      rw [if_neg hr]
      exact (List.append_nil _).symm
  | inbound i => exact (List.append_nil _).symm
  | wait want millis => exact (List.append_nil _).symm
  | clear => exact (List.append_nil _).symm
  | read => exact ((makeRoom_spec h).2 hopen haccepting).trans (List.append_nil _).symm
  | refuse =>
    have hstopped :
        (s.withOutbound s.transport.outbound.stop.2).transport.outbound.accepting = true :=
      s.quiet_refused.accepting haccepting
    cases hstopped

/-! ## Plays -/

/-- None of the requests that somebody made in a play was refused, and callers were not left without
room for theirs. -/
structure Unrefused (s : Session) (moves : List Move) : Prop where
  /-- The other side still accepts requests. -/
  accepting : (s.play moves).transport.outbound.accepting = true
  /-- No caller gave up. -/
  unblocked : ∀ before after, moves = before ++ .watch :: after → (s.play before).watch.1 ≠ .blocked

/-- All requests that somebody made in a play were accepted. -/
structure AllAccepted (s : Session) (moves : List Move) : Prop extends Unrefused s moves where
  /-- The receiver has sent what it had to send. -/
  idle : (s.play moves).receiver = .idle

variable (s) in
theorem later_play (moves : List Move) : Later s (s.play moves) := by
  induction moves using List.reverseRecOn with
  | nil => exact .refl s
  | append_singleton moves m ih =>
    rw [play_concat]
    exact ih.trans (later_move ..)

theorem orderly_play (h : s.Orderly) (moves : List Move) : (s.play moves).Orderly := by
  induction moves using List.reverseRecOn with
  | nil => exact h
  | append_singleton moves m ih =>
    rw [play_concat]
    exact orderly_move ih m

theorem Unrefused.of_concat {moves : List Move} {m : Move} (h : s.Unrefused (moves ++ [m])) :
    s.Unrefused moves ∧ (m = .watch → (s.play moves).watch.1 ≠ .blocked) := by
  refine ⟨⟨?_, fun before after hmoves ↦ ?_⟩, fun hm ↦ ?_⟩
  · have haccepting := h.accepting
    rw [play_concat] at haccepting
    exact (later_move ..).accepting haccepting
  · refine h.unblocked before (after ++ [m]) ?_
    rw [hmoves, List.append_assoc, List.cons_append]
  · exact h.unblocked moves [] (congrArg (moves ++ [·]) hm)

/-- Where nobody begins the subscriptions, no caller can be left without room. -/
theorem Unrefused.of_not_mem_watch {moves : List Move} (h : .watch ∉ moves)
    (haccepting : (s.play moves).transport.outbound.accepting = true) : s.Unrefused moves where
  accepting := haccepting
  unblocked _ _ hmoves := absurd (hmoves ▸ List.mem_append_right _ List.mem_cons_self) h

/-! ## From the beginning -/

theorem map_draft_openingRequests (p : Profile) :
    (openingRequests p).map (·.draft) = p.mode.opening := by
  rw [openingRequests, List.map_map]
  exact List.zipIdx_map_fst 0 _

namespace Start

variable {profile : Profile} {keepsStore : Bool} (hs : Start profile keepsStore s)

include hs

theorem orderly : s.Orderly := by
  cases hs <;> rfl

theorem latched (moves : List Move) :
    (s.play moves).events.closed = (s.play moves).transport.closed :=
  (later_play s moves).latched (by cases hs <;> rfl)

theorem profile_play (moves : List Move) : (s.play moves).profile = profile :=
  (later_play s moves).profile.trans (by cases hs <;> rfl)

theorem open_of_append {moves more : List Move}
    (hopen : (s.play (moves ++ more)).isClosed = false) : (s.play moves).isClosed = false := by
  rw [isClosed, hs.latched, play_append] at hopen
  exact (hs.latched moves).trans ((later_play ..).opened hopen)

theorem requested_concat {moves : List Move} {m : Move}
    (hopen : (s.play (moves ++ [m])).isClosed = false) (h : s.Unrefused (moves ++ [m])) :
    (s.play (moves ++ [m])).requested = (s.play moves).requested ++ (s.play moves).asks m := by
  have haccepting := h.accepting
  rw [isClosed, hs.latched, play_concat] at hopen
  rw [play_concat] at haccepting ⊢
  exact requested_move (orderly_play hs.orderly moves) (hs.latched moves) m h.of_concat.2 hopen
    haccepting

theorem wire_concat {moves : List Move} {m : Move} (hidle : (s.play moves).receiver = .idle)
    (hopen : (s.play (moves ++ [m])).isClosed = false) (h : s.AllAccepted (moves ++ [m])) :
    (s.play (moves ++ [m])).wire = (s.play moves).wire ++ (s.play moves).asks m := by
  rw [← (orderly_play hs.orderly _).requested_eq h.idle,
    ← (orderly_play hs.orderly moves).requested_eq hidle]
  exact hs.requested_concat hopen h.toUnrefused

theorem ledger_concat_respond {moves : List Move} {r : Response}
    (hidle : (s.play moves).receiver = .idle)
    (hopen : (s.play (moves ++ [.respond r])).isClosed = false) :
    (s.play (moves ++ [.respond r])).ledger = ((s.play moves).ledger.reply profile r).1 := by
  rw [isClosed, hs.latched, play_concat, move, if_pos hidle] at hopen
  rw [play_concat, move, if_pos hidle, ledger_respond hopen, hs.profile_play]

/-- What is true of the responses heard and of what is remembered, in every session that is still
open. -/
theorem ledger_induction {P : List Response → Ledger → Prop} (hnew : P [] (.new keepsStore))
    (hbegin : ∀ rs l, P rs l → P rs (l.beginWatch profile.mode))
    (hreply : ∀ rs l r, P rs l → P (rs ++ [r]) (l.reply profile r).1)
    (moves : List Move) (hopen : (s.play moves).isClosed = false) :
    P (s.heard moves) (s.play moves).ledger := by
  induction moves using List.reverseRecOn with
  | nil =>
    cases hs with
    | onStream => exact hnew
    | connected => exact hbegin [] _ hnew
  | append_singleton moves m ih =>
    specialize ih (hs.open_of_append hopen)
    rw [isClosed, hs.latched, play_concat] at hopen
    rw [play_concat, heard_concat]
    rcases move_cases (hs.latched moves) m hopen with
      ⟨hheard, -, -, hledger⟩ | ⟨hheard, -, -, hledger⟩ | ⟨r, hheard, -, -, hledger⟩
    · rw [hheard, hledger, List.append_nil]
      exact ih
    · rw [hheard, hledger, List.append_nil, hs.profile_play]
      exact hbegin _ _ ih
    · rw [hheard, hledger, hs.profile_play]
      exact hreply _ _ r ih

/-- The same, when no request was refused, with the requests that were asked for, and with whether
the subscriptions were begun. -/
theorem requested_induction {P : Bool → List Response → List Draft → Ledger → Prop}
    (hnew : P false [] [] (.new keepsStore))
    (hbegin : ∀ rs ds l, P false rs ds l →
      P true rs (ds ++ profile.mode.opening) (l.beginWatch profile.mode))
    (hreply : ∀ begun rs ds l r, P begun rs ds l →
      P begun (rs ++ [r]) (ds ++ (l.reply profile r).2) (l.reply profile r).1)
    (moves : List Move) (hopen : (s.play moves).isClosed = false) (h : s.Unrefused moves) :
    P (s.play moves).watchBegun (s.heard moves) (s.play moves).requested (s.play moves).ledger := by
  induction moves using List.reverseRecOn with
  | nil =>
    cases hs with
    | onStream => exact hnew
    | connected eventBuffer =>
      have hopening : (Session.connected profile keepsStore eventBuffer).requested
          = [] ++ profile.mode.opening := by
        rw [List.nil_append, ← map_draft_openingRequests]
        change ((openingRequests profile).map (·.draft) ++ []) ++ [] = _
        rw [List.append_nil, List.append_nil]
      exact hopening ▸ hbegin [] [] _ hnew
  | append_singleton moves m ih =>
    specialize ih (hs.open_of_append hopen) h.of_concat.1
    rw [hs.requested_concat hopen h, heard_concat]
    rw [isClosed, hs.latched, play_concat] at hopen
    rw [play_concat]
    rcases move_cases (hs.latched moves) m hopen with
      ⟨hheard, hasks, hbegun, hledger⟩ | ⟨hheard, hasks, ⟨hbefore, hbegun⟩, hledger⟩ |
      ⟨r, hheard, hasks, hbegun, hledger⟩
    · rw [hheard, hasks, hbegun, hledger, List.append_nil, List.append_nil]
      exact ih
    · rw [hbefore] at ih
      rw [hheard, hasks, hbegun, hledger, List.append_nil, hs.profile_play]
      exact hbegin _ _ _ ih
    · rw [hheard, hasks, hbegun, hledger, hs.profile_play]
      exact hreply _ _ _ _ r ih

/-- The same, when all requests were accepted, with what is on the stream. -/
theorem trace_induction {P : List Response → List Draft → Ledger → Prop}
    (hnew : P [] [] (.new keepsStore))
    (hbegin : ∀ rs ds l, P rs ds l → P rs (ds ++ profile.mode.opening) (l.beginWatch profile.mode))
    (hreply : ∀ rs ds l r, P rs ds l →
      P (rs ++ [r]) (ds ++ (l.reply profile r).2) (l.reply profile r).1)
    (moves : List Move) (hopen : (s.play moves).isClosed = false) (h : s.AllAccepted moves) :
    P (s.heard moves) (s.play moves).wire (s.play moves).ledger := by
  have hrequested := hs.requested_induction (P := fun _ ↦ P) hnew hbegin (fun _ ↦ hreply) moves
    hopen h.toUnrefused
  rw [(orderly_play hs.orderly moves).requested_eq h.idle] at hrequested
  exact hrequested

end Start

end Session

/-! ## Small plays -/

/-- A profile with the standard decoders. -/
def Profile.plain (mode : Mode) : Profile where
  mode := mode
  node :=
    { id := "plain", metadata := [], agentName := programName, agentVersion := programVersion }
  decoders := .standard

/-- A session that keeps what it hears, over a stream that was just opened. -/
def Session.plain (mode : Mode) : Session := .connected (.plain mode) true 4

theorem Session.Start.plain (mode : Mode) : Start (.plain mode) true (.plain mode) := .connected 4

/-- The cluster of a one-letter name whose endpoint assignment is that of the service `s`. -/
def sharingCluster (letter : UInt8) : Payload :=
  ⟨ResourceKind.cluster.typeUrl, [0x0a, 1, letter, 0x10, 3, 0x1a, 3, 0x12, 1, 0x73]⟩

/-- A response with such clusters, and with the names of clusters that are gone. -/
def clusterPush (nonce : String) (letters : List UInt8) (removed : List String) : Response where
  typeUrl := ResourceKind.cluster.typeUrl
  version := "1"
  nonce := nonce
  resources := letters.map fun letter ↦ some (sharingCluster letter)
  removed := removed

namespace Session

/-- Clusters come in, then something unknown, and then the same clusters again. -/
def pushTwice : List Move :=
  [.respond (clusterPush "a" [0x61, 0x62] []),
    .respond { typeUrl := "unknown", version := "2", nonce := "b", resources := [] },
    .respond (clusterPush "c" [0x61, 0x62] [])]

theorem allAccepted_pushTwice (mode : Mode) : (plain mode).AllAccepted pushTwice where
  toUnrefused := .of_not_mem_watch (by simp [pushTwice]) (by cases mode <;> decide +kernel)
  idle := by cases mode <;> decide +kernel

theorem open_pushTwice (mode : Mode) : ((plain mode).play pushTwice).isClosed = false := by
  cases mode <;> decide +kernel

end Session

end ProxyFleet
