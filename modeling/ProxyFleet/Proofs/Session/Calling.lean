import ProxyFleet.Proofs.Session.LateWatch
import ProxyFleet.Proofs.Session.Traffic

/-!
# Callers that try again

A caller that begins the subscriptions takes the right to do so before it makes a request, and does
not give it back if a request fails. The session stays open, and may be tried again; but the next
caller finds the right taken, and is told that all is well, although nobody makes the request that
failed.

`Calls` is a session and a caller that calls again and again, one call after the other. Between any
two moments of a call others may act: responses come in, the other side reads or stops accepting
requests, somebody closes the session. A call that finds no room for a request waits, or is given
up. What the stream has accepted of the first requests is noted. When a call succeeds, these are
all of them if and only if every call so far has succeeded (`success_means_subscribed_iff`).
-/

namespace ProxyFleet

/-- What a caller does that begins the subscriptions again and again. -/
inductive Caller
  /-- It has nothing to do. -/
  | idle
  /-- This is next in its call. -/
  | acts (next : Beginning)
  /-- It waits for room for a request, and has these left to make. -/
  | waits (draft : Draft) (left : List Draft)
deriving DecidableEq

/-- A session, and a caller that calls again and again. -/
structure Calls where
  session : Session
  /-- What the caller does. -/
  caller : Caller
  /-- What the stream accepted of the first requests: what it was opened with, and then what the
  calls sent. -/
  accepted : List Draft
  /-- What became of the calls that are over. -/
  results : List Session.WatchOutcome

/-- What happens next. -/
inductive Calls.Turn
  /-- The caller calls, if it does not yet. -/
  | call
  /-- It goes on for one moment. -/
  | goOn
  /-- It no longer waits for room. -/
  | giveUp
  /-- Others act. -/
  | other (m : Session.Move) (h : m ≠ .watch)

open Session

/-- Nobody has called yet. -/
def Session.calls (s : Session) : Calls where
  session := s
  caller := .idle
  accepted := s.wire
  results := []

namespace Calls

variable (x : Calls)

/-- The call goes on with this, or is over. -/
def proceed (s : Session) : Beginning → Calls
  | .done outcome => { x with session := s, caller := .idle, results := x.results ++ [outcome] }
  | next => { x with session := s, caller := .acts next }

/-- The stream accepts a request of the call. -/
def accept (s : Session) (draft : Draft) (left : List Draft) : Calls :=
  { x with session := s, caller := .acts (.send left), accepted := x.accepted ++ [draft] }

/-- One moment of the caller. It does what a caller does that calls once (`Session.beginOn`), except
that it can wait for room. -/
def goOn : Calls :=
  match x.caller with
  | .acts (.send (draft :: left)) =>
    match x.session.send callerName draft with
    | (some (.ok _), s) => x.accept s draft left
    | (some (.error e), s) => x.proceed s (.done (.failed e))
    | (none, s) => { x with session := s, caller := .waits draft left }
  | .acts next => x.proceed (x.session.beginOn next).2 (x.session.beginOn next).1
  | _ => x

/-- Others act. A caller that waits goes on when its request is let in, and fails when the other
side stops accepting requests. -/
def observe (m : Session.Move) : Calls :=
  match x.caller, m with
  | .waits draft left, .read =>
    if callerName ∈ x.session.transport.outbound.readAll.1 then
      x.accept (x.session.move .read) draft left
    else { x with session := x.session.move .read }
  | .waits draft _, .refuse =>
    x.proceed ((x.session.move .refuse).warn (.unsent (Transport.refusal draft.typeUrl)))
      (.done (.failed (Transport.refusal draft.typeUrl)))
  | _, m => { x with session := x.session.move m }

def turn : Turn → Calls
  | .call => if x.caller = .idle then { x with caller := .acts .look } else x
  | .goOn => x.goOn
  | .giveUp =>
    match x.caller with
    | .waits _ _ =>
      x.proceed (x.session.withOutbound (x.session.transport.outbound.withdraw callerName))
        (.done .blocked)
    | _ => x
  | .other m _ => x.observe m

def run (turns : List Turn) : Calls := turns.foldl turn x

theorem run_concat (turns : List Turn) (t : Turn) :
    x.run (turns ++ [t]) = (x.run turns).turn t := by
  rw [run, List.foldl_append]
  rfl

/-! ## What a turn is -/

variable {x}

theorem goOn_look (h : x.caller = .acts .look) :
    x.goOn = if x.session.isClosed then x.proceed x.session (.done (.failed .closed))
      else { x with caller := .acts .claim } := by
  rw [goOn, h]
  change x.proceed (x.session.beginOn .look).2 (x.session.beginOn .look).1 = _
  rw [Session.beginOn]
  split <;> rfl

theorem goOn_claim (h : x.caller = .acts .claim) :
    x.goOn = if x.session.watchBegun then
        x.proceed { x.session with watchBegun := true } (.done .done)
      else { x with session := { x.session with watchBegun := true }, caller := .acts .note } := by
  rw [goOn, h]
  change x.proceed (x.session.beginOn .claim).2 (x.session.beginOn .claim).1 = _
  rw [Session.beginOn, Session.claimWatch]
  cases x.session.watchBegun <;> rfl

theorem goOn_note (h : x.caller = .acts .note) :
    x.goOn = { x with
      session := x.session.beginWatch
      caller := .acts (.send x.session.profile.mode.opening) } := by
  rw [goOn, h]
  rfl

theorem goOn_sent (h : x.caller = .acts (.send [])) :
    x.goOn = x.proceed x.session (.done .done) := by
  rw [goOn, h]
  rfl

theorem goOn_send {draft : Draft} {left : List Draft}
    (h : x.caller = .acts (.send (draft :: left))) :
    x.goOn = match (x.session.send callerName draft).1 with
      | some (.ok _) => x.accept (x.session.send callerName draft).2 draft left
      | some (.error e) => x.proceed (x.session.send callerName draft).2 (.done (.failed e))
      | none =>
        { x with session := (x.session.send callerName draft).2, caller := .waits draft left } := by
  rw [goOn, h]
  dsimp only
  split <;> next heq => rw [heq]

/-- Others act on the session whatever the caller does, unless it waits and learns what becomes of
its request. -/
theorem observe_eq {m : Session.Move}
    (h : m = .read ∨ m = .refuse → ∀ draft left, x.caller ≠ .waits draft left) :
    x.observe m = { x with session := x.session.move m } := by
  rw [observe]
  · exact fun draft left hcaller hm ↦ h (.inl hm) draft left hcaller
  · exact fun draft left hcaller hm ↦ h (.inr hm) draft left hcaller

theorem observe_read {draft : Draft} {left : List Draft} (h : x.caller = .waits draft left) :
    x.observe .read = if callerName ∈ x.session.transport.outbound.readAll.1 then
        x.accept (x.session.move .read) draft left
      else { x with session := x.session.move .read } := by
  unfold observe
  rw [h]

theorem observe_refuse {draft : Draft} {left : List Draft} (h : x.caller = .waits draft left) :
    x.observe .refuse =
      x.proceed ((x.session.move .refuse).warn (.unsent (Transport.refusal draft.typeUrl)))
        (.done (.failed (Transport.refusal draft.typeUrl))) := by
  unfold observe
  rw [h]

/-- Calls take nothing back that no move takes back. -/
theorem later_goOn : Later x.session x.goOn.session := by
  have hsame : ∀ ledger begun,
      Later x.session { x.session with ledger, watchBegun := begun } := fun _ _ ↦ ⟨rfl, id, id, id⟩
  cases hcaller : x.caller with
  | idle =>
    rw [goOn, hcaller]
    exact .refl _
  | waits draft left =>
    rw [goOn, hcaller]
    exact .refl _
  | acts next =>
    cases next with
    | look =>
      rw [goOn_look hcaller]
      split <;> exact .refl _
    | claim =>
      rw [goOn_claim hcaller]
      split <;> exact hsame _ _
    | note =>
      rw [goOn_note hcaller]
      exact hsame _ _
    | send left =>
      cases left with
      | nil =>
        rw [goOn_sent hcaller]
        exact .refl _
      | cons draft left =>
        have hsend := (x.session.quiet_send callerName draft).toLater
        rw [goOn_send hcaller]
        split <;> exact hsend
    | done outcome =>
      rw [goOn, hcaller]
      exact .refl _

theorem later_observe (m : Session.Move) : Later x.session (x.observe m).session := by
  have hmove := x.session.later_move m
  unfold observe
  split
  · split <;> exact hmove
  · exact hmove.trans (quiet_warn ..).toLater
  · exact hmove

theorem later_turn (t : Turn) : Later x.session (x.turn t).session := by
  cases t with
  | call =>
    rw [turn]
    split <;> exact .refl _
  | goOn => exact later_goOn
  | giveUp =>
    rw [turn]
    split
    · exact ⟨rfl, id, id, id⟩
    · exact .refl _
  | other m h => exact later_observe m

/-! ## A call with nothing in between -/

/-- The caller alone can bring this session about, with these results of its calls. -/
def Attains (x : Calls) (s : Session) (results : List WatchOutcome) : Prop :=
  ∃ turns, (∀ m h, .other m h ∉ turns) ∧ (x.run turns).session = s ∧ (x.run turns).results = results

theorem Attains.refl (x : Calls) : x.Attains x.session x.results :=
  ⟨[], fun _ _ ↦ List.not_mem_nil, rfl, rfl⟩

theorem Attains.of_turn {s : Session} {results : List WatchOutcome} (t : Turn)
    (ht : ∀ m h, .other m h ≠ t) (h : (x.turn t).Attains s results) : x.Attains s results := by
  obtain ⟨turns, halone, hsession, hresults⟩ := h
  refine ⟨t :: turns, fun m hm hmem ↦ ?_, hsession, hresults⟩
  rcases List.mem_cons.mp hmem with hfirst | hmem
  · exact ht m hm hfirst
  · exact halone m hm hmem

theorem attains_sendAll (drafts : List Draft) (h : x.caller = .acts (.send drafts)) :
    x.Attains (x.session.sendAll drafts).2 (x.results ++ [(x.session.sendAll drafts).1]) := by
  induction drafts generalizing x with
  | nil =>
    refine .of_turn .goOn (fun _ _ ↦ Turn.noConfusion) ?_
    rw [turn, goOn_sent h]
    exact .refl _
  | cons draft rest ih =>
    refine .of_turn .goOn (fun _ _ ↦ Turn.noConfusion) ?_
    rw [turn, goOn_send h, sendAll_cons]
    cases (x.session.send callerName draft).1 with
    | none =>
      refine .of_turn .giveUp (fun _ _ ↦ Turn.noConfusion) ?_
      exact .refl _
    | some outcome =>
      cases outcome with
      | ok _ => exact ih (x := x.accept (x.session.send callerName draft).2 draft rest) rfl
      | error e => exact .refl _

theorem attains_watch (h : x.caller = .idle) :
    x.Attains x.session.watch.2 (x.results ++ [x.session.watch.1]) := by
  refine .of_turn .call (fun _ _ ↦ Turn.noConfusion) ?_
  rw [turn, if_pos h]
  refine .of_turn .goOn (fun _ _ ↦ Turn.noConfusion) ?_
  rw [turn, goOn_look rfl, watch]
  by_cases hclosed : x.session.isClosed = true
  · rw [if_pos hclosed, if_pos hclosed]
    exact .refl _
  rw [if_neg hclosed, if_neg hclosed, claimWatch]
  refine .of_turn .goOn (fun _ _ ↦ Turn.noConfusion) ?_
  rw [turn, goOn_claim rfl]
  dsimp only
  cases x.session.watchBegun with
  | true => exact .refl _
  | false =>
    refine .of_turn .goOn (fun _ _ ↦ Turn.noConfusion) ?_
    rw [turn, if_neg Bool.false_ne_true, goOn_note rfl]
    exact attains_sendAll x.session.profile.mode.opening rfl

end Calls

/-! ## What the stream accepted -/

namespace Session

variable {s t : Session} {P : Draft → Prop} {who other : String}

/-- What waits for room in the name of somebody. -/
def waitsAs (s : Session) (who : String) : List Draft :=
  (s.transport.outbound.waiting.filter (·.1 = who)).map (·.2.draft)

/-- One sender leaves alone what is on the stream, and what waits in the name of another one. -/
theorem Traffic.undisturbed (h : Traffic who P s t) (hne : other ≠ who) :
    s.wire <+: t.wire ∧ t.waitsAs other = s.waitsAs other := by
  refine h.preserves (I := fun u ↦ s.wire <+: u.wire ∧ u.waitsAs other = s.waitsAs other)
    (fun u v _ hact hu ↦ ?_) ⟨List.prefix_rfl, rfl⟩
  cases hact with
  | aside hout _ | refused _ hout _ =>
    rw [wire, wire, waitsAs, hout]
    exact hu
  | accepted draft _ _ _ hout _ =>
    refine ⟨hu.1.trans ?_, ?_⟩
    · rw [wire, wire, hout, List.map_append]
      exact List.prefix_append ..
    · rw [waitsAs, hout]
      exact hu.2
  | waits draft _ _ _ hout _ =>
    refine ⟨?_, ?_⟩
    · rw [wire, wire, hout]
      exact hu.1
    · rw [waitsAs, hout, List.filter_append, List.filter_cons_of_neg (by simpa using hne.symm),
        List.filter_nil, List.append_nil]
      exact hu.2
  | withdrawn hout _ =>
    refine ⟨?_, ?_⟩
    · rw [wire, wire, hout]
      exact hu.1
    · have hothers : (u.transport.outbound.waiting.filter (·.1 ≠ who)).filter (·.1 = other) =
          u.transport.outbound.waiting.filter (·.1 = other) := by
        rw [List.filter_filter]
        refine List.filter_congr fun w _ ↦ ?_
        by_cases hw : w.1 = other
        · simp [hw, hne]
        · simp [hw]
      rw [waitsAs, hout, Outbound.withdraw, hothers]
      exact hu.2

/-- When the other side reads, it lets in what waits in the name of somebody from the front. -/
theorem exists_waitsAs_eq (s : Session) (who : String) : ∃ front : List Draft,
    s.waitsAs who = front ++ (s.served .read).waitsAs who ∧
      (who ∈ s.transport.outbound.readAll.1 ↔ front ≠ []) ∧
      ∀ drafts : List Draft, drafts.Sublist s.wire →
        (drafts ++ front).Sublist (s.served .read).wire := by
  obtain ⟨admitted, hnames, hsent, hwaiting⟩ := s.transport.outbound.exists_readAll_eq
  refine ⟨(admitted.filter (·.1 = who)).map (·.2.draft), ?_, ?_, fun drafts hdrafts ↦ ?_⟩
  · rw [waitsAs, hwaiting, List.filter_append, List.map_append]
    rfl
  · rw [hnames]
    simp
  · have hwire : (s.served .read).wire = s.wire ++ admitted.map (·.2.draft) := by
      rw [wire, wire]
      change s.transport.outbound.readAll.2.sent.map _ = _
      rw [hsent, List.map_append, List.map_map]
      rfl
    rw [hwire]
    exact hdrafts.append (List.Sublist.map _ List.filter_sublist)

theorem served_spec (s : Session) (m : Move) (who : String) :
    s.wire.Sublist (s.served m).wire ∧
      (s.waitsAs who = [] → (s.served m).waitsAs who = []) := by
  cases m with
  | read =>
    obtain ⟨front, hsplit, -, hsublist⟩ := s.exists_waitsAs_eq who
    refine ⟨?_, fun hnone ↦ (List.append_eq_nil_iff.mp (hsplit.symm.trans hnone)).2⟩
    exact (List.sublist_append_left ..).trans (hsublist s.wire (.refl _))
  | refuse => exact ⟨.refl _, fun _ ↦ rfl⟩
  | _ => exact ⟨.refl _, id⟩

end Session

/-- What waits in the name of a caller. -/
def Caller.waiting : Caller → List Draft
  | .waits draft _ => [draft]
  | _ => []

namespace Calls

/-- What the calls got and what they wait with is on the stream and waits for room. -/
structure Tracked (x : Calls) : Prop where
  /-- What the stream accepted is on it, in this order. -/
  accepted : x.accepted.Sublist x.session.wire
  /-- What waits in the name of the caller is what it waits with. -/
  waiting : x.session.waitsAs callerName = x.caller.waiting

namespace Tracked

variable {x y : Calls} (h : x.Tracked)

include h

theorem of_same (haccepted : y.accepted = x.accepted)
    (hout : y.session.transport.outbound = x.session.transport.outbound)
    (hwaiting : y.caller.waiting = x.caller.waiting) : y.Tracked where
  accepted := by
    rw [haccepted, wire, hout]
    exact h.accepted
  waiting := by
    rw [waitsAs, hout, hwaiting]
    exact h.waiting

theorem goOn : x.goOn.Tracked := by
  cases hcaller : x.caller with
  | idle =>
    rw [Calls.goOn, hcaller]
    exact h
  | waits draft left =>
    rw [Calls.goOn, hcaller]
    exact h
  | acts next =>
    have hnone : x.caller.waiting = [] := congrArg Caller.waiting hcaller
    cases next with
    | look =>
      rw [goOn_look hcaller]
      split <;> exact h.of_same rfl rfl hnone.symm
    | claim =>
      rw [goOn_claim hcaller]
      split <;> exact h.of_same rfl rfl hnone.symm
    | note =>
      rw [goOn_note hcaller]
      exact h.of_same rfl rfl hnone.symm
    | done outcome =>
      rw [Calls.goOn, hcaller]
      exact h.of_same rfl rfl hnone.symm
    | send left =>
      cases left with
      | nil =>
        rw [goOn_sent hcaller]
        exact h.of_same rfl rfl hnone.symm
      | cons draft left =>
        have hwaits := h.waiting.trans hnone
        rw [goOn_send hcaller]
        rcases x.session.send_cases callerName draft with
          ⟨q, rfl, hres, -, hout⟩ | ⟨q, rfl, hres, hout⟩ | ⟨e, hres, hout, -⟩
        · rw [hres]
          constructor
          · change (x.accepted ++ [q.draft]).Sublist
              ((x.session.send callerName q.draft).2.transport.outbound.sent.map (·.draft))
            rw [hout, List.map_append]
            exact h.accepted.append (.refl _)
          · change (x.session.send callerName q.draft).2.waitsAs callerName = []
            rw [waitsAs, hout]
            exact hwaits
        · rw [hres]
          constructor
          · change x.accepted.Sublist
              ((x.session.send callerName q.draft).2.transport.outbound.sent.map (·.draft))
            rw [hout]
            exact h.accepted
          · change (x.session.send callerName q.draft).2.waitsAs callerName = [q.draft]
            rw [waitsAs, hout, List.filter_append, List.map_append]
            change x.session.waitsAs callerName ++ _ = _
            rw [hwaits, List.filter_cons_of_pos (by simp)]
            rfl
        · rw [hres]
          exact h.of_same rfl hout hnone.symm

theorem observe {m : Move} (hm : m ≠ .watch) : (x.observe m).Tracked := by
  have hsender : callerName ≠ m.sender := by
    cases m with
    | watch => exact absurd rfl hm
    | _ => exact (by decide : callerName ≠ receiverName)
  obtain ⟨hwire, hwaits⟩ := (traffic_move x.session m).1.undisturbed hsender
  obtain ⟨hserved, hnobody⟩ := x.session.served_spec m callerName
  have hon : x.accepted.Sublist (x.session.move m).wire :=
    (h.accepted.trans hserved).trans hwire.sublist
  -- First the other side does its part, and then the receiver acts, in another name. So only the
  -- other side can decide what becomes of a request of the caller that waits.
  cases hcaller : x.caller with
  | waits draft left =>
    have hone : x.session.waitsAs callerName = [draft] :=
      h.waiting.trans (congrArg Caller.waiting hcaller)
    cases m with
    | read =>
      obtain ⟨front, hsplit, hfront, hsublist⟩ := x.session.exists_waitsAs_eq callerName
      rw [observe_read hcaller]
      rcases List.append_eq_singleton_iff.mp (hsplit.symm.trans hone) with
        ⟨rfl, hback⟩ | ⟨rfl, hback⟩
      · rw [if_neg fun hmem ↦ hfront.mp hmem rfl]
        exact ⟨hon, (hwaits.trans hback).trans (congrArg Caller.waiting hcaller).symm⟩
      · rw [if_pos (hfront.mpr (List.cons_ne_nil _ _))]
        exact ⟨(hsublist x.accepted h.accepted).trans hwire.sublist, hwaits.trans hback⟩
    | refuse =>
      rw [observe_refuse hcaller]
      exact ⟨hon, hwaits⟩
    | watch => exact absurd rfl hm
    | _ =>
      rw [observe_eq fun hm ↦ by rcases hm with hm | hm <;> cases hm]
      exact ⟨hon, hwaits.trans h.waiting⟩
  | _ =>
    have hnone : x.caller.waiting = [] := congrArg Caller.waiting hcaller
    rw [observe_eq fun _ draft left hwaiting ↦ by rw [hcaller] at hwaiting; cases hwaiting]
    exact ⟨hon, (hwaits.trans (hnobody (h.waiting.trans hnone))).trans hnone.symm⟩

theorem giveUp : (x.turn .giveUp).Tracked := by
  rw [Calls.turn]
  split
  · refine ⟨h.accepted, ?_⟩
    change (List.filter _ (List.filter _ _)).map _ = []
    rw [List.filter_filter]
    simp
  · exact h

theorem turn (t : Turn) : (x.turn t).Tracked := by
  cases t with
  | call =>
    rw [Calls.turn]
    split
    · next hidle => exact h.of_same rfl rfl (congrArg Caller.waiting hidle).symm
    · exact h
  | goOn => exact h.goOn
  | giveUp => exact h.giveUp
  | other m hm => exact h.observe hm

end Tracked

end Calls

/-! ## How far the calls are -/

/-- A caller that has not taken the right to begin the subscriptions with its call. -/
def Caller.Free (c : Caller) : Prop := c = .idle ∨ c = .acts .look ∨ c = .acts .claim

/-- The first requests that a caller has yet to make, if it took the right to make them. -/
def Caller.left? (p : Profile) : Caller → Option (List Draft)
  | .acts .note => some p.mode.opening
  | .acts (.send left) => some left
  | .waits draft left => some (draft :: left)
  | _ => none

theorem Caller.Free.left?_eq_none {c : Caller} {p : Profile} (h : c.Free) : c.left? p = none := by
  rcases h with rfl | rfl | rfl <;> rfl

theorem Caller.of_left?_eq_some {c : Caller} {p : Profile} {left : List Draft}
    (h : c.left? p = some left) : (c = .acts .note ∧ left = p.mode.opening) ∨
      c = .acts (.send left) ∨ ∃ draft rest, c = .waits draft rest ∧ left = draft :: rest := by
  cases c with
  | idle => cases h
  | waits draft rest =>
    cases h
    exact .inr (.inr ⟨draft, rest, rfl, rfl⟩)
  | acts next =>
    cases next with
    | note =>
      cases h
      exact .inl ⟨rfl, rfl⟩
    | send rest =>
      cases h
      exact .inr (.inl rfl)
    | look => cases h
    | claim => cases h
    | done outcome => cases h

theorem Caller.Free.ne_waits {c : Caller} (h : c.Free) (draft : Draft) (left : List Draft) :
    c ≠ .waits draft left := by
  rintro rfl
  rcases h with h | h | h <;> cases h

namespace Calls

/-- All calls succeeded, or the session is closed, and no call succeeds any more. -/
def Smooth (x : Calls) : Prop :=
  (∀ outcome ∈ x.results, outcome = .done) ∨
    x.session.transport.closed = true ∧ x.caller ≠ .acts .claim ∧ x.results.getLast? ≠ some .done

/-- How far the calls are with the first requests. -/
inductive Progress (p : Profile) (x : Calls) : Prop
  /-- Nobody has taken the right to make them. -/
  | untaken (free : x.caller.Free) (begun : x.session.watchBegun = false)
    (accepted : x.accepted = []) (results : .done ∉ x.results) (smooth : x.Smooth)
  /-- The first call makes them. -/
  | underWay (left : List Draft) (caller : x.caller.left? p = some left)
    (begun : x.session.watchBegun = true) (accepted : x.accepted ++ left = p.mode.opening)
    (results : x.results = [])
  /-- They are all accepted. -/
  | whole (free : x.caller.Free) (begun : x.session.watchBegun = true)
    (accepted : x.accepted = p.mode.opening) (smooth : x.Smooth)
  /-- They are not, and the call that made them failed. -/
  | short (free : x.caller.Free) (begun : x.session.watchBegun = true)
    (accepted : x.accepted ≠ p.mode.opening) (failed : ∃ outcome ∈ x.results, outcome ≠ .done)

variable {p : Profile} {x y : Calls}

/-- Nothing happens that has to do with the first requests. -/
structure Idles (x y : Calls) : Prop where
  free : y.caller.Free
  begun : y.session.watchBegun = x.session.watchBegun
  accepted : y.accepted = x.accepted
  results : y.results = x.results ∨ y.results = x.results ++ [.failed .closed]
  smooth : x.Smooth → y.Smooth

theorem Progress.idles (h : x.Progress p) (hfree : x.caller.Free) (hy : Idles x y) :
    y.Progress p := by
  cases h with
  | untaken _ hbegun haccepted hresults hsmooth =>
    refine .untaken hy.free (hy.begun.trans hbegun) (hy.accepted.trans haccepted) ?_
      (hy.smooth hsmooth)
    rcases hy.results with hsame | hmore
    · rw [hsame]
      exact hresults
    · rw [hmore]
      simpa using hresults
  | underWay left hcaller =>
    rw [hfree.left?_eq_none] at hcaller
    cases hcaller
  | whole _ hbegun haccepted hsmooth =>
    exact .whole hy.free (hy.begun.trans hbegun) (hy.accepted.trans haccepted) (hy.smooth hsmooth)
  | short _ hbegun haccepted hfailed =>
    refine .short hy.free (hy.begun.trans hbegun) (hy.accepted ▸ haccepted) ?_
    obtain ⟨outcome, hmem, hfailed⟩ := hfailed
    rcases hy.results with hsame | hmore
    · exact ⟨outcome, hsame ▸ hmem, hfailed⟩
    · exact ⟨outcome, hmore ▸ List.mem_append_left _ hmem, hfailed⟩

/-- To look is to come to the point where the right is taken, or to find the session closed. -/
theorem idles_goOn_look (hcaller : x.caller = .acts .look)
    (hlatch : x.session.events.closed = x.session.transport.closed) : Idles x x.goOn := by
  rw [goOn_look hcaller]
  by_cases hclosed : x.session.isClosed = true
  · rw [if_pos hclosed]
    refine ⟨.inl rfl, rfl, rfl, .inr rfl, fun _ ↦ .inr ⟨hlatch.symm.trans hclosed, ?_, ?_⟩⟩
    · exact Caller.noConfusion
    · change (x.results ++ [_]).getLast? ≠ _
      rw [List.getLast?_concat]
      decide
  · rw [if_neg hclosed]
    refine ⟨.inr (.inr rfl), rfl, rfl, .inl rfl, fun hsmooth ↦ hsmooth.imp_right ?_⟩
    rintro ⟨hc, -⟩
    exact absurd (hlatch.trans hc) hclosed

theorem Smooth.of_claim (h : x.Smooth) (hcaller : x.caller = .acts .claim) :
    ∀ outcome ∈ x.results, outcome = .done :=
  h.resolve_right fun hbad ↦ hbad.2.1 hcaller

theorem Progress.free_or_left (h : x.Progress p) :
    x.caller.Free ∨ ∃ left, x.caller.left? p = some left := by
  cases h with
  | underWay left hleft => exact .inr ⟨left, hleft⟩
  | untaken hfree | whole hfree | short hfree => exact .inl hfree

theorem Progress.of_left (h : x.Progress p) {left : List Draft}
    (hcaller : x.caller.left? p = some left) : x.session.watchBegun = true ∧
      x.accepted ++ left = p.mode.opening ∧ x.results = [] := by
  cases h with
  | underWay left' hleft hbegun haccepted hresults =>
    cases hcaller.symm.trans hleft
    exact ⟨hbegun, haccepted, hresults⟩
  | untaken hfree | whole hfree | short hfree =>
    rw [hfree.left?_eq_none] at hcaller
    cases hcaller

section

variable {s : Session} {draft : Draft} {left : List Draft}

theorem Progress.of_accepted (hbegun : s.watchBegun = true)
    (haccepted : x.accepted ++ draft :: left = p.mode.opening) (hresults : x.results = []) :
    (x.accept s draft left).Progress p := by
  refine .underWay left rfl hbegun ?_ hresults
  change x.accepted ++ [draft] ++ left = _
  rw [List.append_assoc]
  exact haccepted

theorem Progress.of_failed {outcome : WatchOutcome} (hbegun : s.watchBegun = true)
    (haccepted : x.accepted ++ draft :: left = p.mode.opening) (hfailed : outcome ≠ .done) :
    (x.proceed s (.done outcome)).Progress p := by
  refine .short (.inl rfl) hbegun (fun hall : x.accepted = _ ↦ ?_)
    ⟨outcome, List.mem_append_right _ (List.mem_singleton_self _), hfailed⟩
  rw [hall] at haccepted
  exact List.cons_ne_nil _ _ (List.append_right_eq_self.mp haccepted)

end

theorem Progress.goOn_claim (h : x.Progress p) (hcaller : x.caller = .acts .claim) :
    x.goOn.Progress p := by
  rw [Calls.goOn_claim hcaller]
  cases h with
  | untaken _ hbegun haccepted hresults hsmooth =>
    rw [if_neg (Bool.eq_false_iff.mp hbegun)]
    refine .underWay p.mode.opening rfl rfl ?_ ?_
    · change x.accepted ++ _ = _
      rw [haccepted]
      rfl
    -- Whoever takes the right has only succeeded so far, and nobody has succeeded before.
    · refine List.eq_nil_iff_forall_not_mem.mpr fun outcome hmem ↦ hresults ?_
      exact hsmooth.of_claim hcaller outcome hmem ▸ hmem
  | underWay left hleft =>
    rw [hcaller] at hleft
    cases hleft
  | whole _ hbegun haccepted hsmooth =>
    rw [if_pos hbegun]
    refine .whole (.inl rfl) rfl haccepted (.inl fun outcome hmem ↦ ?_)
    rcases List.mem_append.mp hmem with hmem | hmem
    · exact hsmooth.of_claim hcaller outcome hmem
    · exact List.mem_singleton.mp hmem
  | short _ hbegun haccepted hfailed =>
    -- The call succeeds, and nobody makes the request that failed.
    rw [if_pos hbegun]
    obtain ⟨outcome, hmem, hfailed⟩ := hfailed
    exact .short (.inl rfl) rfl haccepted ⟨outcome, List.mem_append_left _ hmem, hfailed⟩

/-- What is accepted and what is left are the first requests, until a request fails. -/
theorem Progress.goOn_left (h : x.Progress p) (hp : x.session.profile = p) {left : List Draft}
    (hleft : x.caller.left? p = some left) : x.goOn.Progress p := by
  obtain ⟨hbegun, haccepted, hresults⟩ := h.of_left hleft
  rcases Caller.of_left?_eq_some hleft with ⟨hcaller, rfl⟩ | hcaller | ⟨draft, rest, hcaller, rfl⟩
  · rw [goOn_note hcaller, hp]
    exact .underWay p.mode.opening rfl hbegun haccepted hresults
  · cases left with
    | nil =>
      rw [goOn_sent hcaller]
      refine .whole (.inl rfl) hbegun (by rw [← haccepted]; exact (List.append_nil _).symm)
        (.inl fun outcome hmem ↦ ?_)
      change outcome ∈ x.results ++ _ at hmem
      rw [hresults] at hmem
      exact List.mem_singleton.mp hmem
    | cons draft left =>
      have hsent : (x.session.send callerName draft).2.watchBegun = true :=
        (x.session.quiet_send callerName draft).watchBegun.trans hbegun
      rw [goOn_send hcaller]
      split
      · exact .of_accepted hsent haccepted hresults
      · exact .of_failed hsent haccepted fun h ↦ by cases h
      · exact .underWay (draft :: left) rfl hsent haccepted hresults
  · rw [goOn, hcaller]
    exact h

theorem Progress.goOn (h : x.Progress p) (hp : x.session.profile = p)
    (hlatch : x.session.events.closed = x.session.transport.closed) : x.goOn.Progress p := by
  rcases h.free_or_left with hfree | ⟨left, hleft⟩
  · rcases id hfree with hcaller | hcaller | hcaller
    · rw [Calls.goOn, hcaller]
      exact h
    · exact h.idles hfree (idles_goOn_look hcaller hlatch)
    · exact h.goOn_claim hcaller
  · exact h.goOn_left hp hleft

theorem watchBegun_move (s : Session) {m : Move} (hm : m ≠ .watch) :
    (s.move m).watchBegun = s.watchBegun := by
  cases m with
  | watch => exact absurd rfl hm
  | respond r =>
    rw [move]
    split
    · exact watchBegun_respond r
    · rfl
  | _ => exact Quiet.watchBegun (s.quiet_move (fun h ↦ by cases h) fun _ h ↦ by cases h)

theorem Progress.observe (h : x.Progress p) {m : Move} (hm : m ≠ .watch) :
    (x.observe m).Progress p := by
  have hbegun' := watchBegun_move x.session hm
  rcases h.free_or_left with hfree | ⟨left, hleft⟩
  · rw [observe_eq fun _ ↦ hfree.ne_waits]
    refine h.idles hfree ⟨hfree, hbegun', rfl, .inl rfl, fun hsmooth ↦ hsmooth.imp_right ?_⟩
    rintro ⟨hclosed, hothers⟩
    exact ⟨(x.session.later_move m).closed hclosed, hothers⟩
  · obtain ⟨hbegun, haccepted, hresults⟩ := h.of_left hleft
    have hstill : ({ x with session := x.session.move m } : Calls).Progress p :=
      .underWay left hleft (hbegun'.trans hbegun) haccepted hresults
    by_cases hwaits : ∃ draft rest, x.caller = .waits draft rest
    · obtain ⟨draft, rest, hcaller⟩ := hwaits
      rw [hcaller] at hleft
      cases hleft
      cases m with
      | read =>
        rw [observe_read hcaller]
        split
        · exact .of_accepted (hbegun'.trans hbegun) haccepted hresults
        · exact hstill
      | refuse =>
        rw [observe_refuse hcaller]
        exact .of_failed (hbegun'.trans hbegun) haccepted fun h ↦ by cases h
      | _ =>
        rw [observe_eq fun hm ↦ by rcases hm with hm | hm <;> cases hm]
        exact hstill
    · rw [observe_eq fun _ draft rest hcaller ↦ hwaits ⟨draft, rest, hcaller⟩]
      exact hstill

theorem Progress.turn (h : x.Progress p) (hp : x.session.profile = p)
    (hlatch : x.session.events.closed = x.session.transport.closed) (t : Turn) :
    (x.turn t).Progress p := by
  cases t with
  | call =>
    rw [Calls.turn]
    split
    · next hidle =>
      refine h.idles (.inl hidle) ⟨.inr (.inl rfl), rfl, rfl, .inl rfl, fun hsmooth ↦ ?_⟩
      refine hsmooth.imp_right fun ⟨hclosed, _, hlast⟩ ↦ ⟨hclosed, ?_, hlast⟩
      exact fun hclaim ↦ by cases hclaim
    · exact h
  | goOn => exact h.goOn hp hlatch
  | giveUp =>
    rw [Calls.turn]
    split
    · next draft rest hcaller =>
      have hleft : x.caller.left? p = some (draft :: rest) := by rw [hcaller]; rfl
      obtain ⟨hbegun, haccepted, -⟩ := h.of_left hleft
      exact .of_failed hbegun haccepted fun h ↦ by cases h
    · exact h
  | other m hm => exact h.observe hm

end Calls

/-! ## All that can happen -/

namespace Session

open Calls

variable {s : Session} {p : Profile} {keepsStore : Bool}

theorem Start.calls_spec (hs : Start p keepsStore s) (turns : List Calls.Turn) :
    Later s (s.calls.run turns).session ∧ (s.calls.run turns).Tracked ∧
      (s.calls.run turns).Progress p := by
  induction turns using List.reverseRecOn with
  | nil =>
    refine ⟨.refl s, ?_, ?_⟩
    · cases hs <;> exact ⟨.refl _, rfl⟩
    · cases hs with
      | onStream =>
        exact .untaken (.inl rfl) rfl rfl List.not_mem_nil (.inl fun _ h ↦ by cases h)
      | connected eventBuffer =>
        exact .whole (.inl rfl) rfl (map_draft_openingRequests p) (.inl fun _ h ↦ by cases h)
  | append_singleton turns t ih =>
    obtain ⟨hlater, htracked, hprogress⟩ := ih
    have hp : (s.calls.run turns).session.profile = p :=
      hlater.profile.trans (hs.profile_play [])
    rw [run_concat]
    exact ⟨hlater.trans (later_turn t), htracked.turn t,
      hprogress.turn hp (hlater.latched (hs.latched [])) t⟩

/-- One caller begins the subscriptions again and again, in either mode and from either beginning,
and others act between any two moments of a call. What the stream accepted of the first requests is
on it, and whenever the last call that is over has succeeded, these are all of them if and only if
every call so far has succeeded. -/
theorem success_means_subscribed_iff (hs : Start p keepsStore s) (turns : List Calls.Turn)
    (hlast : (s.calls.run turns).results.getLast? = some .done) :
    (s.calls.run turns).accepted.Sublist (s.calls.run turns).session.wire ∧
      ((s.calls.run turns).accepted = p.mode.opening ↔
        ∀ outcome ∈ (s.calls.run turns).results, outcome = .done) := by
  obtain ⟨-, htracked, hprogress⟩ := hs.calls_spec turns
  refine ⟨htracked.accepted, ?_⟩
  cases hprogress with
  | untaken _ _ _ hresults _ => exact absurd (List.mem_of_getLast? hlast) hresults
  | underWay _ _ _ _ hresults =>
    rw [hresults] at hlast
    cases hlast
  | whole _ _ haccepted hsmooth =>
    exact iff_of_true haccepted (hsmooth.resolve_right fun hbad ↦ hbad.2.2 hlast)
  | short _ _ haccepted hfailed =>
    obtain ⟨outcome, hmem, hfailed⟩ := hfailed
    exact iff_of_false haccepted fun hall ↦ hfailed (hall outcome hmem)

/-- The other side stops accepting requests, a call fails at its first request, and another call
succeeds. -/
def calledAgain : List Calls.Turn :=
  [.other .refuse (by simp), .call, .goOn, .goOn, .goOn, .goOn, .call, .goOn, .goOn]

theorem results_calledAgain (mode : Mode) : ((fresh mode).calls.run calledAgain).results =
    [.failed (Transport.refusal ResourceKind.cluster.typeUrl), .done] := by
  cases mode <;> decide +kernel

/-- The second call succeeds although the first requests are not accepted, because the first call
failed. -/
theorem success_means_subscribed_iff_calledAgain :
    ((fresh .incremental).calls.run calledAgain).results.getLast? = some .done ∧
      (((fresh .incremental).calls.run calledAgain).accepted = Mode.incremental.opening ↔
        ∀ outcome ∈ ((fresh .incremental).calls.run calledAgain).results, outcome = .done) ∧
      ((fresh .incremental).calls.run calledAgain).accepted = [] := by
  have hlast : ((fresh .incremental).calls.run calledAgain).results.getLast? = some .done := by
    rw [results_calledAgain]
    rfl
  obtain ⟨-, hiff⟩ := success_means_subscribed_iff (.fresh .incremental) calledAgain hlast
  exact ⟨hlast, hiff, by decide +kernel⟩

/-- In neither mode are the first requests on the stream of every open session whose last call has
succeeded. -/
theorem not_always_subscribed :
    ¬ ∃ mode, ∀ turns : List Calls.Turn, ((fresh mode).calls.run turns).session.isClosed = false →
      ((fresh mode).calls.run turns).results.getLast? = some .done →
        ∀ draft ∈ mode.opening, draft ∈ ((fresh mode).calls.run turns).session.wire := by
  rintro ⟨mode, h⟩
  have hopen : ((fresh mode).calls.run calledAgain).session.isClosed = false := by
    cases mode <;> decide +kernel
  have hlast : ((fresh mode).calls.run calledAgain).results.getLast? = some .done := by
    rw [results_calledAgain]
    rfl
  have hwire : ((fresh mode).calls.run calledAgain).session.wire = [] := by
    cases mode <;> decide +kernel
  have hfirst : ({ typeUrl := ResourceKind.cluster.typeUrl } : Draft) ∈ mode.opening := by
    cases mode <;> exact List.mem_cons_self
  have hsent := h calledAgain hopen hlast _ hfirst
  rw [hwire] at hsent
  cases hsent

end Session

end ProxyFleet
