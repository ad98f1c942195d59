import Mathlib.Data.List.Basic
import ProxyFleet.Fleet.Basic
import ProxyFleet.Proofs.Settings.Check

/-!
# What comes of a slot

The attempts of a slot are given as a list that ends where the fleet is cancelled: before an
attempt, during one that comes to nothing by then, or while the slot waits. If the fleet is
cancelled while a session is open, the attempt that opened it says so. A slot makes the attempts up
to the first that is the last (`Slot.made`), and its outcome accounts for them
(`SlotOutcome.Accounts`): each attempt adds to the outcome what it must and leaves the rest alone.

There is one other way for a slot to end. If the clock cannot show the end of the time to converge,
the slot breaks down, whatever it did before (`Slot.run_of_untimely`). Settings that pass their
check do not rule that out, since they may give any time to converge (`Fleet.breaksDown_iff`).
-/

namespace ProxyFleet

/-! ## Attempts -/

namespace Attempt

/-- Whether there is a session. -/
def isOpened : Attempt → Bool
  | failed _ => false
  | opened .. => true

/-- How long it took until the session converged. -/
def latency? : Attempt → Option Nat
  | failed _ => none
  | opened _ convergence _ => convergence.bind Except.toOption

/-- The failure that no new attempt mends. -/
def fatal? : Attempt → Option Failure
  | failed e => if e.isRetryable then none else some e
  | opened .. => none

/-- What the session had kept when the fleet was cancelled while it was open. -/
def caught? : Attempt → Option Store
  | opened _ _ (.cancelled kept) => some kept
  | _ => none

/-- Whether a slot makes no further attempt. -/
def isLast (a : Attempt) : Bool := a.fatal?.isSome || a.caught?.isSome

/-- Whether the clock can show the end of the time to converge. -/
def isTimely (rules : SlotRules) : Attempt → Bool
  | failed _ => true
  | opened now _ _ => (now.after? rules.convergenceSeconds).isSome

theorem fatal?_eq_some_iff {a : Attempt} {e : Failure} :
    a.fatal? = some e ↔ a = .failed e ∧ e.isRetryable = false := by
  cases a with
  | failed e' =>
    rw [fatal?]
    split <;> grind
  | opened => exact iff_of_false (by simp [fatal?]) (by simp)

theorem caught?_eq_some_iff {a : Attempt} {kept : Store} :
    a.caught? = some kept ↔ ∃ now convergence, a = .opened now convergence (.cancelled kept) := by
  rcases a with e | ⟨now, convergence, kept' | _⟩ <;> simp [caught?]

theorem isLast_eq_false_iff {a : Attempt} :
    a.isLast = false ↔ a.fatal? = none ∧ a.caught? = none := by
  simp [isLast]

end Attempt

/-! ## One attempt -/

namespace SlotOutcome

/-- The outcome after one more attempt, unless the slot breaks down. -/
def after (o : SlotOutcome) (rules : SlotRules) (a : Attempt) : SlotOutcome where
  started := o.started || a.isOpened
  reconnects := if a.isOpened ∧ o.started then o.reconnects + 1 else o.reconnects
  convergence := o.convergence.or a.latency?
  error := (a.fatal?.map Failure.message).or o.error
  kept := (if rules.keepsStore then a.caught? else none).or o.kept

theorem after_closed (o : SlotOutcome) (rules : SlotRules) (now : Instant)
    (convergence : Option (Except Failure Nat)) :
    o.after rules (.opened now convergence .closed) = o.connected.converged convergence := by
  obtain ⟨started, reconnects, first, error, kept⟩ := o
  rcases convergence with _ | e | nanos <;> cases first <;>
    simp [after, connected, converged, Attempt.isOpened, Attempt.latency?, Attempt.fatal?,
      Attempt.caught?, Except.toOption]

theorem after_cancelled (o : SlotOutcome) (rules : SlotRules) (now : Instant)
    (convergence : Option (Except Failure Nat)) (kept : Store) :
    o.after rules (.opened now convergence (.cancelled kept)) =
      if rules.keepsStore then { o.connected.converged convergence with kept := some kept }
      else o.connected.converged convergence := by
  rw [← after_closed o rules now]
  cases hkeeps : rules.keepsStore <;>
    simp [after, hkeeps, Attempt.isOpened, Attempt.latency?, Attempt.fatal?, Attempt.caught?]

end SlotOutcome

theorem Slot.run_cons (rules : SlotRules) (o : SlotOutcome) (a : Attempt) (rest : List Attempt) :
    run rules o (a :: rest) =
      if a.isTimely rules then
        if a.isLast then o.after rules a else run rules (o.after rules a) rest
      else .brokenDown := by
  rcases a with e | ⟨now, convergence, ending⟩
  · rw [run]
    cases hretry : e.isRetryable <;>
      simp [Attempt.isTimely, Attempt.isLast, Attempt.fatal?, Attempt.caught?, hretry,
        SlotOutcome.after, Attempt.isOpened, Attempt.latency?]
  · rw [run, Attempt.isTimely]
    cases now.after? rules.convergenceSeconds with
    | none => rfl
    | some deadline =>
      cases ending with
      | cancelled kept =>
        exact (o.after_cancelled rules now convergence kept).symm
      | closed =>
        exact congrArg (run rules · rest) (o.after_closed rules now convergence).symm

/-! ## Accounting -/

/-- An outcome accounts for the attempts of a slot. -/
structure SlotOutcome.Accounts (o : SlotOutcome) (rules : SlotRules) (past : List Attempt) :
    Prop where
  /-- The slot started if there was a session. -/
  started : o.started = true ↔ ∃ a ∈ past, a.isOpened = true
  /-- Every session but the first is a reconnect. -/
  reconnects : o.reconnects = past.countP Attempt.isOpened - 1
  /-- The first session that converged counts. -/
  convergence : o.convergence = past.findSome? Attempt.latency?
  /-- There is an error if an attempt failed for good. -/
  error : ∀ text, o.error = some text ↔
    ∃ e, .failed e ∈ past ∧ e.isRetryable = false ∧ e.message = text
  /-- There is a store if stores are kept and the fleet was cancelled while the last session was
  open. -/
  kept : ∀ store, o.kept = some store ↔ rules.keepsStore = true ∧
    ∃ now convergence, past.getLast? = some (.opened now convergence (.cancelled store))

namespace SlotOutcome.Accounts

variable {o : SlotOutcome} {rules : SlotRules} {past : List Attempt}

theorem nil (rules : SlotRules) : Accounts {} rules [] where
  started := by simp
  reconnects := rfl
  convergence := rfl
  error := by simp
  kept := by simp

theorem error_eq_none (h : o.Accounts rules past) (hpast : ∀ a ∈ past, a.isLast = false) :
    o.error = none := by
  rw [Option.eq_none_iff_forall_ne_some]
  intro text htext
  obtain ⟨e, hmem, hfatal, -⟩ := (h.error text).mp htext
  have hnone := (Attempt.isLast_eq_false_iff.mp (hpast _ hmem)).1
  rw [Attempt.fatal?_eq_some_iff.mpr ⟨rfl, hfatal⟩] at hnone
  exact Option.some_ne_none e hnone

theorem kept_eq_none (h : o.Accounts rules past) (hpast : ∀ a ∈ past, a.isLast = false) :
    o.kept = none := by
  rw [Option.eq_none_iff_forall_ne_some]
  intro store hstore
  obtain ⟨-, now, convergence, hlast⟩ := (h.kept store).mp hstore
  have hnone := (Attempt.isLast_eq_false_iff.mp (hpast _ (List.mem_of_getLast? hlast))).2
  exact Option.some_ne_none store hnone

theorem after (h : o.Accounts rules past) (hpast : ∀ a ∈ past, a.isLast = false) (a : Attempt) :
    (o.after rules a).Accounts rules (past ++ [a]) where
  started := by
    rw [SlotOutcome.after, Bool.or_eq_true, h.started]
    simp [or_and_right, exists_or]
  reconnects := by
    have hcount : 0 < past.countP Attempt.isOpened ↔ o.started = true := by
      rw [h.started, List.countP_pos_iff]
    rw [SlotOutcome.after, List.countP_append, List.countP_singleton, h.reconnects]
    split <;> split <;> grind
  convergence := by
    rw [SlotOutcome.after, h.convergence, List.findSome?_append, List.findSome?_singleton]
  error text := by
    rw [SlotOutcome.after, h.error_eq_none hpast, Option.or_none, Option.map_eq_some_iff]
    simp only [Attempt.fatal?_eq_some_iff, List.mem_append, List.mem_singleton]
    constructor
    · rintro ⟨e, ⟨rfl, hfatal⟩, htext⟩
      exact ⟨e, .inr rfl, hfatal, htext⟩
    · rintro ⟨e, hmem | rfl, hfatal, htext⟩
      · exact absurd ((h.error text).mpr ⟨e, hmem, hfatal, htext⟩) (by simp [h.error_eq_none hpast])
      · exact ⟨e, ⟨rfl, hfatal⟩, htext⟩
  kept store := by
    rw [SlotOutcome.after, h.kept_eq_none hpast, Option.or_none, Option.ite_none_right_eq_some,
      Attempt.caught?_eq_some_iff, List.getLast?_concat]
    simp only [Option.some_inj]

end SlotOutcome.Accounts

/-! ## All attempts -/

namespace Slot

/-- The attempts that a slot makes, up to the first that is the last. -/
def made : List Attempt → List Attempt
  | [] => []
  | a :: rest => if a.isLast then [a] else a :: made rest

variable {rules : SlotRules} {o : SlotOutcome} {attempts : List Attempt}

theorem made_cons_of_isLast {a : Attempt} (h : a.isLast = true) (rest : List Attempt) :
    made (a :: rest) = [a] := by
  rw [made, if_pos h]

theorem made_cons_of_not_isLast {a : Attempt} (h : a.isLast = false) (rest : List Attempt) :
    made (a :: rest) = a :: made rest := by
  rw [made, h]
  rfl

theorem accounts_run {past : List Attempt} (h : o.Accounts rules past)
    (hpast : ∀ a ∈ past, a.isLast = false)
    (htimely : ∀ a ∈ made attempts, a.isTimely rules = true) :
    (run rules o attempts).Accounts rules (past ++ made attempts) := by
  induction attempts generalizing o past with
  | nil =>
    rw [made, List.append_nil]
    exact h
  | cons a rest ih =>
    rw [run_cons]
    cases hlast : a.isLast with
    | true =>
      rw [made_cons_of_isLast hlast] at htimely ⊢
      rw [if_pos (htimely a List.mem_cons_self), if_pos rfl]
      exact h.after hpast a
    | false =>
      rw [made_cons_of_not_isLast hlast] at htimely ⊢
      rw [if_pos (htimely a List.mem_cons_self), if_neg Bool.false_ne_true, List.append_cons]
      refine ih (h.after hpast a) ?_ fun b hb ↦ htimely b (List.mem_cons_of_mem _ hb)
      rw [List.forall_mem_append, List.forall_mem_singleton]
      exact ⟨hpast, hlast⟩

/-- A slot whose clock ends breaks down, whatever it did before. -/
theorem run_of_untimely (h : ∃ a ∈ made attempts, a.isTimely rules = false) :
    run rules o attempts = .brokenDown := by
  induction attempts generalizing o with
  | nil => exact absurd h (by simp [made])
  | cons a rest ih =>
    rw [run_cons]
    cases htimely : a.isTimely rules with
    | false => rfl
    | true =>
      rw [if_pos rfl]
      cases hlast : a.isLast with
      | true =>
        rw [made_cons_of_isLast hlast] at h
        simp [htimely] at h
      | false =>
        rw [made_cons_of_not_isLast hlast] at h
        rw [if_neg Bool.false_ne_true]
        exact ih (by simpa [htimely] using h)

/-! ## No further attempt -/

section

variable {e : Failure} (he : e.isRetryable = false) (before rest : List Attempt)

include he

theorem run_append_failed (o : SlotOutcome) :
    run rules o (before ++ .failed e :: rest) = run rules o (before ++ [.failed e]) := by
  induction before generalizing o with
  | nil => simp [run, he]
  | cons a before ih => rw [List.cons_append, List.cons_append, run_cons, run_cons, ih]

theorem messages_append_failed :
    messages rules (before ++ .failed e :: rest) = messages rules (before ++ [.failed e]) := by
  induction before with
  | nil => simp [messages, he]
  | cons a before ih => cases a <;> simp only [List.cons_append, messages, ih]

theorem delays_append_failed (b : Backoff) :
    delays b (before ++ .failed e :: rest) = delays b (before ++ [.failed e]) := by
  induction before generalizing b with
  | nil => simp [delays, he]
  | cons a before ih => cases a <;> simp only [List.cons_append, delays, ih]

end

/-- A slot accounts for all attempts that it makes, unless its clock ends: then it breaks down.
After a failure that no new attempt mends it makes none: neither the outcome nor the messages nor
the delays depend on what would follow. -/
theorem outcome_accounts (rules : SlotRules) (attempts : List Attempt) :
    ((∀ a ∈ made attempts, a.isTimely rules = true) →
      (outcome rules attempts).Accounts rules (made attempts)) ∧
    ((∃ a ∈ made attempts, a.isTimely rules = false) → outcome rules attempts = .brokenDown) ∧
    ∀ (before rest : List Attempt) (e : Failure), attempts = before ++ .failed e :: rest →
      e.isRetryable = false →
      outcome rules attempts = outcome rules (before ++ [.failed e]) ∧
      messages rules attempts = messages rules (before ++ [.failed e]) ∧
      ∀ b, delays b attempts = delays b (before ++ [.failed e]) := by
  refine ⟨accounts_run (.nil rules) (List.forall_mem_nil _), run_of_untimely, ?_⟩
  rintro before rest e rfl he
  exact ⟨run_append_failed he before rest _, messages_append_failed he before rest,
    delays_append_failed he before rest⟩

/-- Two sessions that converge, behind one that does not and failures that pass. -/
def troubledAttempts : List Attempt := [
  .failed (.dial "a" "b" none),
  .opened ⟨1, 0⟩ (some (.error (.timeout "c" 30000))) .closed,
  .failed .closed,
  .opened ⟨2, 0⟩ (some (.ok 7)) .closed,
  .opened ⟨3, 0⟩ (some (.ok 5)) (.cancelled .empty),
  .failed (.validation "d" none)]

/-- The first latency stays, and what comes after the fleet was cancelled is no attempt. -/
theorem outcome_accounts_troubled :
    (∀ a ∈ made troubledAttempts, a.isTimely ⟨30, true⟩ = true) ∧
    (outcome ⟨30, true⟩ troubledAttempts).reconnects = 2 ∧
    (outcome ⟨30, true⟩ troubledAttempts).convergence = some 7 ∧
    (∀ text, (outcome ⟨30, true⟩ troubledAttempts).error ≠ some text) ∧
    (outcome ⟨30, true⟩ troubledAttempts).kept = some .empty := by
  have htimely : ∀ a ∈ made troubledAttempts, a.isTimely ⟨30, true⟩ = true := by decide
  have h := (outcome_accounts ⟨30, true⟩ troubledAttempts).1 htimely
  refine ⟨htimely, h.reconnects, h.convergence, fun text htext ↦ ?_,
    (h.kept _).mpr ⟨rfl, _, _, rfl⟩⟩
  obtain ⟨e, hmem, he, -⟩ := (h.error text).mp htext
  have hnone : ∀ a ∈ made troubledAttempts, a.fatal? = none := by decide
  have hfatal := Attempt.fatal?_eq_some_iff.mpr ⟨rfl, he⟩
  exact Option.some_ne_none e (hfatal.symm.trans (hnone _ hmem))

end Slot

/-! ## Slots that break down -/

theorem Failure.any_isUpper_head?_message (e : Failure) :
    e.message.toList.head?.any Char.isUpper = true := by
  have append {s : String} (t : String) (h : s.toList.head?.any Char.isUpper = true) :
      (s ++ t).toList.head?.any Char.isUpper = true := by
    obtain ⟨c, hc, hupper⟩ := (Option.any_eq_true _ _).mp h
    rw [String.toList_append, List.head?_append, hc, Option.some_or]
    exact hupper
  cases e with
  | config reason => exact append _ (by decide)
  | validation reason => exact append _ (by decide)
  | dial address reason => exact append _ (append _ (append _ (by decide)))
  | send typeUrl reason => exact append _ (append _ (append _ (by decide)))
  | receive reason => exact append _ (by decide)
  | closed => decide
  | decode typeUrl reason => exact append _ (append _ (append _ (by decide)))
  | metadata reason => exact append _ (by decide)
  | timeout operation millis => exact append _ (append _ (append _ (append _ (by decide))))
  | io activity => exact append _ (by decide)
  | tls failure =>
    cases failure with
    | noAuthority => decide
    | noKey => decide
    | noCertificate => decide
    | unreadableAuthority path cause => exact append _ (append _ (append _ (by decide)))
    | unreadableCertificate path cause => exact append _ (append _ (append _ (by decide)))
    | unreadableKey path cause => exact append _ (append _ (append _ (by decide)))
    | notPem path => exact append _ (append _ (by decide))

theorem SlotOutcome.Accounts.ne_brokenDown {o : SlotOutcome} {rules : SlotRules}
    {past : List Attempt} (h : o.Accounts rules past) : o ≠ .brokenDown := by
  rintro rfl
  obtain ⟨e, -, -, hmessage⟩ := (h.error _).mp rfl
  have hupper := e.any_isUpper_head?_message
  rw [hmessage] at hupper
  exact absurd hupper (by decide)

theorem Attempt.isTimely_eq_false_iff {rules : SlotRules} {a : Attempt} :
    a.isTimely rules = false ↔ ∃ now convergence ending, a = .opened now convergence ending ∧
      Instant.maxSeconds < now.seconds + rules.convergenceSeconds := by
  cases a with
  | failed e => exact iff_of_false (by simp [isTimely]) (by simp)
  | opened now convergence ending =>
    rw [isTimely, Instant.after?]
    split <;> simp_all

theorem FleetReport.ofOutcomes_brokenDown (c : Comparison) (sessions : Nat)
    (others : List SlotOutcome) : ofOutcomes c sessions (.brokenDown :: others) =
      { ofOutcomes c sessions others with
        failed := (ofOutcomes c sessions others).failed + 1 } := by
  simp [ofOutcomes, SlotOutcome.brokenDown, total]

/-- A slot of a fleet breaks down if and only if it connects so late that the clock ends before the
time to converge does. The check of the settings sets no bound to that time. The report counts the
slot among those that gave up and nowhere else. -/
theorem Fleet.breaksDown_iff (f : Fleet) (attempts : List Attempt) :
    (Slot.outcome f.rules attempts = .brokenDown ↔
      ∃ now convergence ending, .opened now convergence ending ∈ Slot.made attempts ∧
        Instant.maxSeconds < now.seconds + f.settings.fleet.convergenceSeconds) ∧
    (∀ seconds, 1 ≤ seconds → Settings.check { f.settings with
      fleet := { f.settings.fleet with convergenceSeconds := seconds } } = .ok ()) ∧
    ∀ (c : Comparison) (sessions : Nat) (others : List SlotOutcome),
      FleetReport.ofOutcomes c sessions (.brokenDown :: others) =
        { FleetReport.ofOutcomes c sessions others with
          failed := (FleetReport.ofOutcomes c sessions others).failed + 1 } := by
  refine ⟨?_, fun seconds hseconds ↦ ?_, FleetReport.ofOutcomes_brokenDown⟩
  case refine_2 =>
    have haccepted := Settings.check_eq_ok_iff.mp f.checked
    exact Settings.check_eq_ok_iff.mpr { haccepted with convergenceSeconds := hseconds }
  have huntimely : (∃ a ∈ Slot.made attempts, a.isTimely f.rules = false) ↔
      ∃ now convergence ending, .opened now convergence ending ∈ Slot.made attempts ∧
        Instant.maxSeconds < now.seconds + f.settings.fleet.convergenceSeconds := by
    simp only [Attempt.isTimely_eq_false_iff]
    constructor
    · rintro ⟨a, ha, now, convergence, ending, rfl, hlate⟩
      exact ⟨now, convergence, ending, ha, hlate⟩
    · rintro ⟨now, convergence, ending, ha, hlate⟩
      exact ⟨_, ha, now, convergence, ending, rfl, hlate⟩
  rw [← huntimely]
  refine ⟨fun hbroken ↦ ?_, Slot.run_of_untimely⟩
  by_contra hnone
  have htimely : ∀ a ∈ Slot.made attempts, a.isTimely f.rules = true := fun a ha ↦
    Bool.of_not_eq_false fun h ↦ hnone ⟨a, ha, h⟩
  have haccounts := Slot.accounts_run (.nil f.rules) (List.forall_mem_nil _) htimely
  exact haccounts.ne_brokenDown hbroken

/-- Settings that pass their check may give more time to converge than the clock can show. -/
theorem Fleet.not_always_timely : ¬∀ (s : Settings) (now : Instant), s.check = .ok () →
    0 ≤ now.seconds → now.seconds ≤ Instant.maxSeconds → now.nanos < nanosPerSecond →
      (now.after? s.fleet.convergenceSeconds).isSome = true := by
  intro h
  have htimely := h { fleet := { convergenceSeconds := UInt64.size - 1 } } ⟨1, 0⟩ rfl (by decide)
    (by decide) (by decide)
  exact absurd htimely (by decide)

end ProxyFleet
