import ProxyFleet.Proofs.Session.Moments
import ProxyFleet.Proofs.Watch.Wanted

/-!
# Subscriptions that begin while the session is closed

A caller that begins the subscriptions first looks whether the session is closed, then takes the
right to begin them, then notes them, and then sends the requests. It does not look again when it
notes them, as a response does, and what it looks at is what a close changes last. So somebody may
close the session in between, and clear the subscriptions before the caller notes them. Then they
stay, in a session that is closed for good, although the requests for them are refused.

An `Encounter` is one caller and one close at any two moments. Nothing is wanted in the end just
when the caller did not come too late, `Encounter.TooLate`.
-/

namespace ProxyFleet

/-- What a caller that begins the subscriptions does next. -/
inductive Beginning
  /-- Look whether the session is closed. -/
  | look
  /-- Take the right to begin them. -/
  | claim
  /-- Note the first subscriptions. -/
  | note
  /-- Send the requests that are left. -/
  | send (left : List Draft)
  /-- Nothing more. -/
  | done (outcome : Session.WatchOutcome)
deriving DecidableEq

namespace Session

variable (s : Session)

/-! ## A caller, moment by moment -/

/-- One moment of a caller that begins the subscriptions, and what it does next. -/
def beginOn : Beginning → Beginning × Session
  | .look => if s.isClosed then (.done (.failed .closed), s) else (.claim, s)
  | .claim =>
    match s.claimWatch with
    | (false, s) => (.done .done, s)
    | (true, s) => (.note, s)
  | .note => (.send s.profile.mode.opening, s.beginWatch)
  | .send [] => (.done .done, s)
  | .send (draft :: rest) =>
    match s.send callerName draft with
    | (some (.ok _), s) => (.send rest, s)
    | (some (.error e), s) => (.done (.failed e), s)
    | (none, s) => (.done .blocked, s.withOutbound (s.transport.outbound.withdraw callerName))
  | .done outcome => (.done outcome, s)

theorem beginOn_send (draft : Draft) (rest : List Draft) :
    s.beginOn (.send (draft :: rest)) = match (s.send callerName draft).1 with
      | some (.ok _) => (.send rest, (s.send callerName draft).2)
      | some (.error e) => (.done (.failed e), (s.send callerName draft).2)
      | none => (.done .blocked, (s.send callerName draft).2.withOutbound
          ((s.send callerName draft).2.transport.outbound.withdraw callerName)) := by
  rw [beginOn]
  split <;> next heq => rw [heq]

theorem watches_beginOn (b : Beginning) : (s.beginOn b).2.ledger.watches =
    if b = .note then (s.ledger.beginWatch s.profile.mode).watches else s.ledger.watches := by
  cases b with
  | look =>
    rw [beginOn]
    split <;> rfl
  | claim =>
    rw [beginOn, claimWatch]
    cases s.watchBegun <;> rfl
  | send left =>
    cases left with
    | nil => rfl
    | cons draft rest =>
      have hledger := congrArg Session.ledger (s.send_spec callerName draft).2
      rw [beginOn_send]
      split <;> exact congrArg Ledger.watches hledger
  | _ => rfl

/-- So many moments of a caller, one after the other. -/
def begins : Nat → Beginning → Session → Beginning × Session
  | 0, b, s => (b, s)
  | moments + 1, b, s => begins moments (s.beginOn b).1 (s.beginOn b).2

variable {s}

theorem exists_begins_eq_sendAll (drafts : List Draft) : ∃ moments,
    begins moments (.send drafts) s = (.done (s.sendAll drafts).1, (s.sendAll drafts).2) := by
  induction drafts generalizing s with
  | nil => exact ⟨1, rfl⟩
  | cons draft rest ih =>
    rw [sendAll_cons]
    cases hsent : (s.send callerName draft).1 with
    | none =>
      refine ⟨1, ?_⟩
      rw [begins, beginOn_send, hsent]
      rfl
    | some outcome =>
      cases outcome with
      | ok _ =>
        obtain ⟨moments, hrest⟩ := ih (s := (s.send callerName draft).2)
        refine ⟨moments + 1, ?_⟩
        rw [begins, beginOn_send, hsent]
        exact hrest
      | error e =>
        refine ⟨1, ?_⟩
        rw [begins, beginOn_send, hsent]
        rfl

variable (s) in
/-- A caller that begins the subscriptions with nothing in between goes through these moments. -/
theorem exists_begins_eq_watch :
    ∃ moments, begins moments .look s = (.done s.watch.1, s.watch.2) := by
  rw [watch]
  by_cases hclosed : s.isClosed = true
  · refine ⟨1, ?_⟩
    rw [begins, beginOn, if_pos hclosed, if_pos hclosed]
    rfl
  · have hlook : s.beginOn .look = (.claim, s) := if_neg hclosed
    rw [if_neg hclosed]
    cases hbegun : s.watchBegun with
    | true =>
      refine ⟨2, ?_⟩
      have hclaim : s.claimWatch = (false, { s with watchBegun := true }) := by
        rw [claimWatch, hbegun]
        rfl
      rw [begins, begins, hlook, beginOn, hclaim]
      rfl
    | false =>
      have hclaim : s.claimWatch = (true, { s with watchBegun := true }) := by
        rw [claimWatch, hbegun]
        rfl
      obtain ⟨moments, hrest⟩ := exists_begins_eq_sendAll s.profile.mode.opening
        (s := { s with watchBegun := true }.beginWatch)
      refine ⟨moments + 3, ?_⟩
      rw [begins, begins, begins, hlook, beginOn, hclaim]
      exact hrest

end Session

/-! ## A caller and a close -/

/-- A caller begins the subscriptions while somebody closes the session. -/
structure Encounter where
  session : Session
  /-- What the caller does next. -/
  caller : Beginning
  /-- Why the session is closed. -/
  reason : Option Failure
  /-- What the one who closes it does next. -/
  closing : Closing

/-- One of the two. -/
inductive Party
  /-- The one who begins the subscriptions. -/
  | caller
  /-- The one who closes the session. -/
  | closer

/-- Both are about to act. -/
def Session.meet (s : Session) (reason : Option Failure) : Encounter where
  session := s
  caller := .look
  reason := reason
  closing := .transport

namespace Encounter

variable (x : Encounter)

/-- One of the two acts. -/
def turn : Party → Encounter
  | .caller =>
    { x with session := (x.session.beginOn x.caller).2, caller := (x.session.beginOn x.caller).1 }
  | .closer =>
    { x with session := x.session.closeOn x.reason x.closing, closing := x.closing.next }

/-- They act in this order. -/
def run (parties : List Party) : Encounter := parties.foldl turn x

/-- Both are done. -/
def Finished : Prop := (∃ outcome, x.caller = .done outcome) ∧ x.closing = .done

/-- The subscriptions are cleared. -/
def Cleared : Prop := x.closing = .latch ∨ x.closing = .done

/-- The caller notes its subscriptions once they are cleared. -/
def TooLate (parties : List Party) : Prop :=
  ∃ before after, parties = before ++ .caller :: after ∧
    (x.run before).caller = .note ∧ (x.run before).Cleared

theorem run_concat (parties : List Party) (p : Party) :
    x.run (parties ++ [p]) = (x.run parties).turn p := by
  rw [run, List.foldl_append]
  rfl

theorem tooLate_concat (parties : List Party) (p : Party) :
    x.TooLate (parties ++ [p]) ↔ x.TooLate parties ∨
      p = .caller ∧ (x.run parties).caller = .note ∧ (x.run parties).Cleared := by
  constructor
  · rintro ⟨before, after, hparties, hlate⟩
    rcases List.eq_nil_or_concat after with rfl | ⟨after, q, rfl⟩
    · obtain ⟨rfl, hp⟩ := List.append_inj' hparties rfl
      exact .inr ⟨List.singleton_inj.mp hp, hlate⟩
    · rw [List.concat_eq_append, ← List.cons_append, ← List.append_assoc] at hparties
      obtain ⟨rfl, -⟩ := List.append_inj' hparties rfl
      exact .inl ⟨before, after, rfl, hlate⟩
  · rintro (⟨before, after, rfl, hlate⟩ | ⟨rfl, hlate⟩)
    · exact ⟨before, after ++ [p], by rw [List.append_assoc, List.cons_append], hlate⟩
    · exact ⟨parties, [], rfl, hlate⟩

variable {x}

theorem Cleared.turn (h : x.Cleared) (p : Party) : (x.turn p).Cleared := by
  cases p with
  | caller => exact h
  | closer =>
    right
    change x.closing.next = .done
    rcases h with h | h <;> rw [h] <;> rfl

theorem TooLate.cleared {parties : List Party} (h : x.TooLate parties) :
    (x.run parties).Cleared := by
  induction parties using List.reverseRecOn with
  | nil =>
    obtain ⟨before, after, hnil, -⟩ := h
    exact absurd hnil (by simp)
  | append_singleton parties p ih =>
    rw [run_concat]
    rcases (tooLate_concat ..).mp h with h | ⟨-, -, hcleared⟩
    · exact (ih h).turn p
    · exact hcleared.turn p

theorem watches_beginWatch_ne_empty (l : Ledger) (m : Mode) :
    (l.beginWatch m).watches ≠ .empty := by
  intro hempty
  have hbegun : (l.beginWatch m).watches.begun .cluster = true := by
    cases m with
    | complete =>
      change (l.watches.update .cluster []).begun .cluster = true
      rw [WatchTable.begun_update]
      exact Bool.or_true _
    | incremental =>
      change ((l.watches.update .cluster []).update .listener []).begun .cluster = true
      rw [WatchTable.begun_update, WatchTable.begun_update]
      simp
  rw [hempty, WatchTable.begun, WatchTable.find?_empty] at hbegun
  cases hbegun

variable (x)

/-- As soon as the subscriptions are cleared, nothing is wanted but what the caller notes later. -/
theorem watches_eq_empty_iff (parties : List Party) (hcleared : (x.run parties).Cleared)
    (hbefore : ¬ x.Cleared) :
    (x.run parties).session.ledger.watches = .empty ↔ ¬ x.TooLate parties := by
  induction parties using List.reverseRecOn with
  | nil => exact absurd hcleared hbefore
  | append_singleton parties p ih =>
    rw [run_concat] at hcleared
    rw [run_concat, tooLate_concat]
    cases p with
    | caller =>
      have hcleared' : (x.run parties).Cleared := hcleared
      have ih := ih hcleared'
      change ((x.run parties).session.beginOn (x.run parties).caller).2.ledger.watches = _ ↔ _
      rw [Session.watches_beginOn]
      by_cases hnote : (x.run parties).caller = .note
      · rw [if_pos hnote]
        refine iff_of_false (watches_beginWatch_ne_empty _ _) ?_
        rw [not_not]
        exact .inr ⟨rfl, hnote, hcleared'⟩
      · rw [if_neg hnote, ih]
        refine not_congr (or_iff_left ?_).symm
        rintro ⟨-, h, -⟩
        exact hnote h
    | closer =>
      change ((x.run parties).session.closeOn _ (x.run parties).closing).ledger.watches = _ ↔ _
      rw [Session.watches_closeOn]
      by_cases hwatches : (x.run parties).closing = .watches
      · rw [if_pos hwatches]
        refine iff_of_true rfl ?_
        rintro (hlate | ⟨hcaller, -⟩)
        · rcases hlate.cleared with h | h <;> rw [hwatches] at h <;> cases h
        · cases hcaller
      · rw [if_neg hwatches]
        have hcleared' : (x.run parties).Cleared := by
          change (x.run parties).closing.next = .latch ∨ (x.run parties).closing.next = .done
            at hcleared
          rw [Cleared]
          cases h : (x.run parties).closing with
          | transport => rw [h] at hcleared; rcases hcleared with h | h <;> cases h
          | watches => exact absurd h hwatches
          | latch => exact .inl rfl
          | done => exact .inr rfl
        rw [ih hcleared']
        refine not_congr (or_iff_left ?_).symm
        rintro ⟨h, -⟩
        cases h

end Encounter

namespace Session

variable {x : Encounter}

/-- However the moments of a caller that begins the subscriptions and those of a close are
interleaved, in either mode and from every state of a session: once both are done nothing is wanted
if and only if the caller did not note its subscriptions after they were cleared. -/
theorem nothing_wanted_iff_not_tooLate (s : Session) (reason : Option Failure)
    (parties : List Party) (hx : (s.meet reason).run parties = x) (hdone : x.Finished) :
    x.session.ledger.watches = .empty ↔ ¬ (s.meet reason).TooLate parties := by
  subst hx
  refine (s.meet reason).watches_eq_empty_iff parties (.inr hdone.2) ?_
  rintro (h | h) <;> cases h

/-- A session over a stream on which nothing was sent yet. -/
def fresh (mode : Mode) : Session := .onStream (.plain mode) true 4 none

theorem Start.fresh (mode : Mode) : Start (.plain mode) true (fresh mode) := .onStream 4 none

/-- The caller looks, the session is closed, the caller notes its subscriptions, and then those who
ask are told of the close. -/
def lateWatch : List Party :=
  [.caller, .caller, .closer, .closer, .caller, .caller, .closer]

theorem finished_lateWatch (mode : Mode) : (((fresh mode).meet none).run lateWatch).Finished := by
  cases mode with
  | complete => exact ⟨⟨.failed .closed, by decide +kernel⟩, by decide +kernel⟩
  | incremental => exact ⟨⟨.failed .closed, by decide +kernel⟩, by decide +kernel⟩

theorem nothing_wanted_iff_not_tooLate_lateWatch :
    (((fresh .incremental).meet none).run lateWatch).Finished ∧
      ((((fresh .incremental).meet none).run lateWatch).session.ledger.watches = .empty ↔
        ¬ ((fresh .incremental).meet none).TooLate lateWatch) :=
  ⟨finished_lateWatch .incremental,
    nothing_wanted_iff_not_tooLate _ none lateWatch rfl (finished_lateWatch .incremental)⟩

/-- In neither mode is nothing wanted whenever both are done: the session is closed then, and wants
what the caller noted. -/
theorem not_always_nothing_wanted :
    ¬ ∃ mode, ∀ (parties : List Party) (x : Encounter),
      ((fresh mode).meet none).run parties = x → x.Finished →
        x.session.ledger.watches = .empty := by
  rintro ⟨mode, h⟩
  have hempty := h lateWatch _ rfl (finished_lateWatch mode)
  revert hempty
  cases mode <;> decide +kernel

end Session

end ProxyFleet
