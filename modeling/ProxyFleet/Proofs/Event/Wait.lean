import Mathlib.Data.List.Basic
import ProxyFleet.Event.Queue

/-!
# What a wait finds

Somebody who waits looks through the buffered updates from the front. The first wanted one is taken,
together with all before it; if there is none, all are taken, and what comes out depends on whether
the session was closed. `EventQueue.poll_cases` and `EventQueue.wait_cases` say so. Nobody opens a
wait after this file.
-/

namespace ProxyFleet.EventQueue

variable (q : EventQueue) (want : Option Event) (millis : Nat)

/-- Whether an update of a kind is one that is waited for. -/
def wants (kind : ResourceKind) : Bool := want = none ∨ want = some (.update kind)

@[simp] theorem wants_none (kind : ResourceKind) : wants none kind = true := by simp [wants]

@[simp] theorem wants_close (kind : ResourceKind) : wants (some .close) kind = false := by
  simp [wants]

@[simp] theorem wants_update (j k : ResourceKind) :
    wants (some (.update j)) k = decide (j = k) := by
  simp [wants]

/-! ## Looking through the buffer -/

theorem seek_eq_none {buffer : List ResourceKind} (h : ∀ k ∈ buffer, wants want k = false) :
    seek want buffer = none := by
  induction buffer with
  | nil => rfl
  | cons first behind ih =>
    have hfirst : ¬(want = none ∨ want = some (.update first)) := by
      simpa [wants] using h first List.mem_cons_self
    rw [seek, if_neg hfirst]
    exact ih fun k hk ↦ h k (List.mem_cons_of_mem _ hk)

theorem seek_append_cons {passed rest : List ResourceKind} {kind : ResourceKind}
    (hpassed : ∀ k ∈ passed, wants want k = false) (hkind : wants want kind = true) :
    seek want (passed ++ kind :: rest) = some (kind, rest) := by
  induction passed with
  | nil => exact if_pos (of_decide_eq_true hkind)
  | cons first behind ih =>
    have hfirst : ¬(want = none ∨ want = some (.update first)) := by
      simpa [wants] using hpassed first List.mem_cons_self
    rw [List.cons_append, seek, if_neg hfirst]
    exact ih fun k hk ↦ hpassed k (List.mem_cons_of_mem _ hk)

theorem split_or_unwanted (buffer : List ResourceKind) :
    (∃ passed kind rest, buffer = passed ++ kind :: rest ∧
      (∀ k ∈ passed, wants want k = false) ∧ wants want kind = true) ∨
    ∀ k ∈ buffer, wants want k = false := by
  cases hfound : buffer.find? (wants want) with
  | none =>
    refine .inr fun k hk ↦ ?_
    exact Bool.eq_false_iff.mpr (List.find?_eq_none.mp hfound k hk)
  | some kind =>
    obtain ⟨hkind, passed, rest, hbuffer, hpassed⟩ := List.find?_eq_some_iff_append.mp hfound
    refine .inl ⟨passed, kind, rest, hbuffer, fun k hk ↦ ?_, hkind⟩
    simpa using hpassed k hk

/-! ## Everything that becomes of a wait -/

theorem poll_cases :
    (∃ passed kind rest, q.buffer = passed ++ kind :: rest ∧
      (∀ k ∈ passed, wants want k = false) ∧ wants want kind = true ∧
      q.poll want = (some (.ok (.update kind)), { q with buffer := rest })) ∨
    ((∀ k ∈ q.buffer, wants want k = false) ∧ q.closed = true ∧
      q.poll want = ((some ({ q with buffer := [] }.takeClose want).1),
        ({ q with buffer := [] }.takeClose want).2)) ∨
    ((∀ k ∈ q.buffer, wants want k = false) ∧ q.closed = false ∧
      q.poll want = (none, { q with buffer := [] })) := by
  rcases split_or_unwanted want q.buffer with ⟨passed, kind, rest, hbuffer, hpassed, hkind⟩ | hnone
  · refine .inl ⟨passed, kind, rest, hbuffer, hpassed, hkind, ?_⟩
    rw [poll, hbuffer, seek_append_cons want hpassed hkind]
  · rw [poll, seek_eq_none want hnone]
    cases hclosed : q.closed with
    | true => exact .inr (.inl ⟨hnone, rfl, rfl⟩)
    | false => exact .inr (.inr ⟨hnone, rfl, rfl⟩)

theorem wait_eq_poll : q.wait want millis =
    ((q.poll want).1.getD (.error (timeout want millis)), (q.poll want).2) := by
  rw [wait]
  split <;> next heq => rw [heq]; rfl

theorem wait_cases :
    (∃ passed kind rest, q.buffer = passed ++ kind :: rest ∧
      (∀ k ∈ passed, wants want k = false) ∧ wants want kind = true ∧
      q.wait want millis = (.ok (.update kind), { q with buffer := rest })) ∨
    ((∀ k ∈ q.buffer, wants want k = false) ∧ q.closed = true ∧
      q.wait want millis = { q with buffer := [] }.takeClose want) ∨
    ((∀ k ∈ q.buffer, wants want k = false) ∧ q.closed = false ∧
      q.wait want millis = (.error (timeout want millis), { q with buffer := [] })) := by
  rw [wait_eq_poll]
  rcases q.poll_cases want with ⟨passed, kind, rest, hbuffer, hpassed, hkind, hpoll⟩ |
    ⟨hnone, hclosed, hpoll⟩ | ⟨hnone, hopen, hpoll⟩
  · rw [hpoll]
    exact .inl ⟨passed, kind, rest, hbuffer, hpassed, hkind, rfl⟩
  · rw [hpoll]
    exact .inr (.inl ⟨hnone, hclosed, rfl⟩)
  · rw [hpoll]
    exact .inr (.inr ⟨hnone, hopen, rfl⟩)

end ProxyFleet.EventQueue
