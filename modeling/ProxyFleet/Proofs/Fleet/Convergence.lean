import Mathlib.Data.List.Basic
import ProxyFleet.Fleet.Report
import ProxyFleet.Proofs.Event.Delivery
import ProxyFleet.Proofs.Session.Course

/-!
# What it takes to converge

While somebody waits for a session to converge, updates come in, the session may close, and the one
who waits looks at the queue now and then. When it looks makes no difference: it converges if and
only if clusters were accepted and, after them, listeners. An update that comes before its turn is
passed over and forgotten, so listeners that come first do not count, although the session has
received them.

The invariant is about all that is still to come: what is missing must be a sublist of what is
buffered and of what will be accepted (`Pursuit.hopeful_step`).
-/

open scoped List

namespace ProxyFleet

universe u

/-- Elements that are not looked for may be left out. -/
theorem cons_sublist_append_iff {α : Type u} {a : α} {l passed rest : List α} (h : a ∉ passed) :
    a :: l <+ passed ++ rest ↔ a :: l <+ rest := by
  induction passed with
  | nil => rfl
  | cons b passed ih =>
    obtain ⟨hne, htail⟩ := not_or.mp (mt List.mem_cons.mpr h)
    rw [List.cons_append, List.sublist_cons_iff, ih htail, or_iff_left]
    rintro ⟨r, hcons, -⟩
    exact hne (List.cons.inj hcons).1

theorem not_cons_sublist_of_not_mem {α : Type u} {a : α} {l found : List α} (h : a ∉ found) :
    ¬a :: l <+ found :=
  fun hsub ↦ h (hsub.subset List.mem_cons_self)

namespace EventQueue

theorem not_mem_of_unwanted {kind : ResourceKind} {kinds : List ResourceKind}
    (h : ∀ k ∈ kinds, wants (some (.update kind)) k = false) : kind ∉ kinds := by
  intro hmem
  simpa using h kind hmem

/-- One who waits for updates of some kinds while nothing else happens gets them if and only if they
are buffered in this order. -/
theorem awaitAll_eq_ok_iff (q : EventQueue) (millis : Nat) (kinds : List ResourceKind) :
    (q.awaitAll millis kinds).1 = .ok () ↔ kinds <+ q.buffer := by
  induction kinds generalizing q with
  | nil => exact iff_of_true rfl (List.nil_sublist _)
  | cons kind rest ih =>
    rw [awaitAll]
    rcases q.wait_cases (some (.update kind)) millis with
      ⟨passed, first, behind, hbuffer, hpassed, hfirst, hwait⟩ | ⟨hnone, -, hwait⟩ |
      ⟨hnone, -, hwait⟩
    · have hkind : kind = first := by simpa using hfirst
      rw [hwait, hbuffer, cons_sublist_append_iff (not_mem_of_unwanted hpassed), ← hkind,
        List.cons_sublist_cons]
      exact ih { q with buffer := behind }
    · rw [hwait, takeClose_of_not _ (by simp)]
      exact iff_of_false (by simp) (not_cons_sublist_of_not_mem (not_mem_of_unwanted hnone))
    · rw [hwait]
      exact iff_of_false (by simp) (not_cons_sublist_of_not_mem (not_mem_of_unwanted hnone))

end EventQueue

/-! ## Waiting while things happen -/

/-- What happens while somebody waits for a session to converge. -/
inductive Happening
  /-- An update comes in. -/
  | comes (kind : ResourceKind)
  /-- The session is closed. -/
  | closes
  /-- The one who waits looks what is there. -/
  | looks
deriving DecidableEq

/-- One who waits for updates of some kinds, one after the other. -/
structure Pursuit where
  /-- The events of the session. -/
  queue : EventQueue
  /-- The kinds that are still waited for. -/
  missing : List ResourceKind
  /-- Why it was given up. -/
  failure : Option Failure := none

namespace Pursuit

variable (p : Pursuit) (h : Happening)

/-- The one who waits looks for the next missing update, and gives up if the session is closed. -/
def look : Pursuit :=
  match p.failure, p.missing with
  | none, kind :: rest =>
    match p.queue.poll (some (.update kind)) with
    | (some (.ok _), q) => { p with queue := q, missing := rest }
    | (some (.error e), q) => { p with queue := q, failure := some e }
    | (none, q) => { p with queue := q }
  | _, _ => p

/-- What becomes of one who waits. -/
def step : Happening → Pursuit
  | .comes kind => { p with queue := (p.queue.publish kind).2 }
  | .closes => { p with queue := p.queue.publishClose.2 }
  | .looks => p.look

/-- The updates that get into the queue. -/
def admits : Happening → List ResourceKind
  | .comes kind => p.queue.accepts (.publish kind)
  | _ => []

/-- What becomes of one who waits, one thing happening after the other. -/
def run : Pursuit → List Happening → Pursuit
  | p, [] => p
  | p, h :: rest => (p.step h).run rest

/-- The updates that get into the queue, one thing happening after the other. -/
def admitted : Pursuit → List Happening → List ResourceKind
  | _, [] => []
  | p, h :: rest => p.admits h ++ (p.step h).admitted rest

/-- What comes of it when the time is over, after a last look. -/
def result (millis : Nat) : Except Failure Unit :=
  match p.failure with
  | some e => .error e
  | none => (p.queue.awaitAll millis p.missing).1

/-- All missing updates are there or will come, in order. -/
def Hopeful (future : List ResourceKind) : Prop :=
  p.failure = none ∧ p.missing <+ p.queue.buffer ++ future

/-! ## One step -/

theorem result_eq_ok_iff (millis : Nat) : p.result millis = .ok () ↔ p.Hopeful [] := by
  rw [result, Hopeful, List.append_nil]
  cases p.failure with
  | some e => exact iff_of_false (by simp) (by simp)
  | none => rw [EventQueue.awaitAll_eq_ok_iff, and_iff_right rfl]

/-- Looking takes no hope away and gives none, if nothing can come into a closed queue. -/
theorem hopeful_look {future : List ResourceKind} (hclosed : p.queue.closed = true → future = []) :
    p.look.Hopeful future ↔ p.Hopeful future := by
  obtain ⟨q, missing, failure⟩ := p
  match failure, missing with
  | some e, _ => rfl
  | none, [] => rfl
  | none, kind :: rest =>
    rw [Hopeful, Hopeful, look]
    dsimp only
    rcases q.poll_cases (some (.update kind)) with
      ⟨passed, first, behind, hbuffer, hpassed, hfirst, hpoll⟩ | ⟨hnone, hc, hpoll⟩ |
      ⟨hnone, -, hpoll⟩
    · have hkind : kind = first := by simpa using hfirst
      rw [hpoll, hbuffer, List.append_assoc,
        cons_sublist_append_iff (EventQueue.not_mem_of_unwanted hpassed), ← hkind, List.cons_append,
        List.cons_sublist_cons]
    · rw [hpoll, EventQueue.takeClose_of_not _ (by simp), hclosed hc]
      refine iff_of_false (by simp) ?_
      rintro ⟨-, hsub⟩
      rw [List.append_nil] at hsub
      exact not_cons_sublist_of_not_mem (EventQueue.not_mem_of_unwanted hnone) hsub
    · rw [hpoll, cons_sublist_append_iff (EventQueue.not_mem_of_unwanted hnone), List.nil_append]

/-- What happens next only turns hope for it into what is there. -/
theorem hopeful_step {future : List ResourceKind}
    (hclosed : p.queue.closed = true → future = []) :
    (p.step h).Hopeful future ↔ p.Hopeful (p.admits h ++ future) := by
  cases h with
  | comes kind =>
    have hbuffer : p.queue.buffer ++ p.queue.accepts (.publish kind) =
        (p.queue.publish kind).2.buffer := p.queue.buffer_call (.publish kind)
    rw [Hopeful, Hopeful, admits, ← List.append_assoc, hbuffer]
    rfl
  | closes => rfl
  | looks => exact p.hopeful_look hclosed

theorem closed_step (hc : p.queue.closed = true) : (p.step h).queue.closed = true := by
  cases h with
  | comes kind => exact (p.queue.closed_publish kind).trans hc
  | closes => rfl
  | looks =>
    rw [step, look]
    split
    · next kind rest _ _ =>
      have hpoll := p.queue.closed_poll (some (.update kind))
      split
      all_goals
        next heq =>
          rw [heq] at hpoll
          exact hpoll.trans hc
    · exact hc

theorem admitted_of_closed (hc : p.queue.closed = true) (hs : List Happening) :
    p.admitted hs = [] := by
  induction hs generalizing p with
  | nil => rfl
  | cons h rest ih =>
    have hnone : p.admits h = [] := by
      cases h with
      | comes kind => simp [admits, EventQueue.accepts, EventQueue.publish, hc]
      | _ => rfl
    rw [admitted, hnone, List.nil_append]
    exact ih (p.step h) (p.closed_step h hc)

/-! ## All that happens -/

theorem hopeful_run (hs : List Happening) :
    (p.run hs).Hopeful [] ↔ p.Hopeful (p.admitted hs) := by
  induction hs generalizing p with
  | nil => rfl
  | cons h rest ih =>
    rw [run, ih, admitted]
    refine p.hopeful_step h fun hc ↦ ?_
    exact (p.step h).admitted_of_closed (p.closed_step h hc) rest

end Pursuit

/-! ## Sessions and the fleet -/

namespace Session

variable (s : Session) (hs : List Happening) (millis : Nat)

/-- One who begins to wait for the session to converge. -/
def pursuit : Pursuit where
  queue := s.events
  missing := convergenceKinds

/-- The updates that the session has for one who waits for it, those that are there already first.
-/
def arrivals : List ResourceKind := s.events.buffer ++ s.pursuit.admitted hs

/-- What comes of waiting for the session to converge while things happen. -/
def convergence : Except Failure Unit := (s.pursuit.run hs).result millis

theorem convergence_eq_ok_iff :
    s.convergence hs millis = .ok () ↔ [.cluster, .listener] <+ s.arrivals hs := by
  rw [convergence, Pursuit.result_eq_ok_iff, Pursuit.hopeful_run, Pursuit.Hopeful]
  exact and_iff_right rfl

end Session

theorem Slot.convergence_outcome_isSome_iff (rules : SlotRules) (now : Instant)
    (result : Except Failure Unit) (nanos : Nat) (ending : SessionEnd) :
    (outcome rules [.opened now (some (result.map fun _ ↦ nanos)) ending]).convergence.isSome = true ↔
      (now.after? rules.convergenceSeconds).isSome = true ∧ result = .ok () := by
  rw [outcome, run]
  cases now.after? rules.convergenceSeconds with
  | none => exact iff_of_false Bool.false_ne_true (fun h ↦ by cases h.1)
  | some deadline =>
    rw [Option.isSome_some, and_iff_right rfl]
    cases result with
    | ok u =>
      refine iff_of_true ?_ rfl
      cases ending with
      | closed => rfl
      | cancelled kept =>
        dsimp only
        split <;> rfl
    | error e =>
      refine iff_of_false ?_ (by simp)
      cases ending with
      | closed => exact Bool.false_ne_true
      | cancelled kept =>
        dsimp only
        split <;> exact Bool.false_ne_true

theorem FleetReport.converged_cons (c : Comparison) (sessions : Nat) (o : SlotOutcome)
    (outcomes : List SlotOutcome) : (ofOutcomes c sessions (o :: outcomes)).converged =
      (ofOutcomes c sessions outcomes).converged + if o.convergence.isSome then 1 else 0 := by
  change (List.filterMap _ (o :: outcomes)).length = (List.filterMap _ outcomes).length + _
  cases hc : o.convergence with
  | none =>
    rw [List.filterMap_cons_none hc]
    rfl
  | some nanos =>
    rw [List.filterMap_cons_some hc]
    rfl

namespace Session

/-- Whatever happens while somebody waits for a session to converge, and whenever it looks. The
session converges if and only if clusters and, after them, listeners get into its queue, with any
other updates around them; and just then the fleet counts its slot among those that converged,
unless the clock cannot show the end of the time to do so. -/
theorem converges_iff_listeners_follow_clusters (s : Session) (hs : List Happening) (millis : Nat) :
    (s.convergence hs millis = .ok () ↔
      ∃ before between behind,
        s.arrivals hs = before ++ .cluster :: between ++ .listener :: behind) ∧
    ∀ (rules : SlotRules) (now : Instant) (nanos : Nat) (ending : SessionEnd) (sessions : Nat)
      (others : List SlotOutcome) (c : Comparison),
      (FleetReport.ofOutcomes c sessions (Slot.outcome rules [.opened now
        (some ((s.convergence hs millis).map fun _ ↦ nanos)) ending] :: others)).converged =
      (FleetReport.ofOutcomes c sessions others).converged +
        if (now.after? rules.convergenceSeconds).isSome ∧
          [.cluster, .listener] <+ s.arrivals hs then 1 else 0 := by
  constructor
  · rw [convergence_eq_ok_iff]
    constructor
    · intro hsub
      obtain ⟨front, rest, harrivals, hcluster, hlistener⟩ := List.cons_sublist_iff.mp hsub
      obtain ⟨before, between, rfl⟩ := List.append_of_mem hcluster
      obtain ⟨passed, behind, rfl⟩ := List.append_of_mem (List.singleton_sublist.mp hlistener)
      refine ⟨before, between ++ passed, behind, ?_⟩
      rw [harrivals]
      simp
    · rintro ⟨before, between, behind, harrivals⟩
      rw [harrivals]
      have hlisteners : [.listener] <+ between ++ .listener :: behind :=
        List.singleton_sublist.mpr (List.mem_append_right _ List.mem_cons_self)
      rw [List.append_assoc, List.cons_append]
      exact (hlisteners.cons_cons _).trans (List.sublist_append_right ..)
  · intro rules now nanos ending sessions others c
    rw [FleetReport.converged_cons]
    refine congrArg _ (if_congr ?_ rfl rfl)
    rw [Slot.convergence_outcome_isSome_iff, convergence_eq_ok_iff]

/-- A response with a listener. -/
def listenerPush : Response where
  typeUrl := ResourceKind.listener.typeUrl
  version := "1"
  nonce := "l"
  resources := [some ⟨ResourceKind.listener.typeUrl, [0x0a, 1, 0x6c]⟩]

/-- An open session that received listeners and then clusters does not converge. -/
theorem not_converges_if_clusters_and_listeners :
    ¬∀ (profile : Profile) (keepsStore : Bool) (s : Session) (moves : List Move)
      (hs : List Happening) (millis : Nat), Start profile keepsStore s →
      (s.play moves).isClosed = false →
      .cluster ∈ (s.play moves).arrivals hs → .listener ∈ (s.play moves).arrivals hs →
      (s.play moves).convergence hs millis = .ok () := by
  intro h
  have harrivals : ((plain .incremental).play
      [.respond listenerPush, .respond (clusterPush "c" [0x61] [])]).arrivals [] =
        [.listener, .cluster] := by decide +kernel
  have hconverges := h (.plain .incremental) true (plain .incremental)
    [.respond listenerPush, .respond (clusterPush "c" [0x61] [])] [] 1000 (.plain .incremental)
    (by decide +kernel) (by rw [harrivals]; decide) (by rw [harrivals]; decide)
  rw [convergence_eq_ok_iff, harrivals] at hconverges
  revert hconverges
  decide

end Session

end ProxyFleet
