import Mathlib.Data.List.Induction
import Mathlib.Data.List.TakeWhile
import ProxyFleet.Proofs.Event.Wait

/-!
# What becomes of events

A history is a sequence of calls to a queue of events, each made while no other one runs. It is
followed through two traces that grow at the end: the updates that were accepted, and what became of
updates. An update that was accepted is in the buffer until its fate is sealed, so the first trace
is at any time the second one with the buffer behind it (`accepted_eq`): nothing is lost, doubled or
overtaken.

The close has no place in the buffer. Whether it can be had is a matter of two flags, and the
answers of a history determine both: it was closed or not, and somebody was told so or not
(`Settled`).
-/

namespace ProxyFleet.EventQueue

universe u

/-! ## Calls and answers -/

/-- What somebody asks of a queue of events. -/
inductive Call
  | publish (kind : ResourceKind)
  | close
  | wait (want : Option Event) (millis : Nat)
  | clear
deriving DecidableEq

/-- What comes back. -/
inductive Answer
  | published (accepted : Bool)
  | closed (first : Bool)
  | waited (result : Except Failure Event)
  | cleared (count : Nat)

def Answer.tellsClose : Answer → Bool
  | .waited (.ok .close) => true
  | _ => false

theorem Answer.tellsClose_iff {a : Answer} : a.tellsClose = true ↔ a = .waited (.ok .close) := by
  constructor
  · intro h
    match a with
    | .waited (.ok .close) => rfl
    | .waited (.ok (.update kind)) => cases h
    | .waited (.error e) => cases h
    | .published accepted => cases h
    | .closed first => cases h
    | .cleared count => cases h
  · rintro rfl
    rfl

/-- The update that somebody who waited gets with an answer. -/
def Answer.update? : Answer → Option ResourceKind
  | .waited (.ok (.update kind)) => some kind
  | _ => none

/-- How an accepted update ends. -/
inductive Fate
  /-- Somebody who waited gets it. -/
  | delivered
  /-- Somebody who waited for something else passes over it. -/
  | passedOver
  /-- It is dropped together with all others. -/
  | dropped
deriving DecidableEq

variable (q : EventQueue) (c : Call)

/-- What comes of a call. -/
def call : Call → Answer × EventQueue
  | .publish kind => (.published (q.publish kind).1, (q.publish kind).2)
  | .close => (.closed q.publishClose.1, q.publishClose.2)
  | .wait want millis => (.waited (q.wait want millis).1, (q.wait want millis).2)
  | .clear => (.cleared q.clear.1, q.clear.2)

def accepts : Call → List ResourceKind
  | .publish kind => if (q.publish kind).1 then [kind] else []
  | _ => []

/-- The updates whose fate a call seals. One who waits passes over what stands before the first
wanted update, and gets what the answer says; one who clears the queue drops as many as the answer
says. -/
def seals : Call → List (ResourceKind × Fate)
  | .wait want millis =>
    (q.buffer.takeWhile fun k ↦ !wants want k).map (·, .passedOver) ++
      (q.call (.wait want millis)).1.update?.toList.map (·, .delivered)
  | .clear => (q.buffer.take q.clear.1).map (·, .dropped)
  | _ => []

/-! ## One call -/

theorem takeClose_of_wanted {want : Option Event} (hwant : want = none ∨ want = some .close)
    (hleft : q.closeTaken = false) :
    q.takeClose want = (.ok .close, { q with closeTaken := true }) :=
  if_pos ⟨hwant, Bool.eq_false_iff.mp hleft⟩

theorem takeClose_of_not {want : Option Event}
    (h : ¬((want = none ∨ want = some .close) ∧ q.closeTaken = false)) :
    q.takeClose want = (.error .closed, q) := by
  rw [takeClose, if_neg]
  rintro ⟨hwant, hleft⟩
  exact h ⟨hwant, Bool.eq_false_iff.mpr hleft⟩

variable (want : Option Event) (millis : Nat)

variable {want} in
/-- If nothing is wanted, nothing is found and all is passed over. -/
theorem unwanted_spec {kinds : List ResourceKind} (h : ∀ k ∈ kinds, wants want k = false) :
    kinds.find? (wants want) = none ∧ kinds.takeWhile (fun k ↦ !wants want k) = kinds :=
  ⟨List.find?_eq_none.mpr (by simpa using h), List.takeWhile_eq_self_iff.mpr (by simpa using h)⟩

theorem wait_eq_update_iff (kind : ResourceKind) :
    (q.wait want millis).1 = .ok (.update kind) ↔ q.buffer.find? (wants want) = some kind := by
  rcases q.wait_cases want millis with ⟨passed, first, rest, hbuffer, hpassed, hfirst, hwait⟩ |
    ⟨hnone, -, hwait⟩ | ⟨hnone, -, hwait⟩
  · have hfound : q.buffer.find? (wants want) = some first := by
      rw [hbuffer, List.find?_append, (unwanted_spec hpassed).1,
        Option.none_or, List.find?_cons_of_pos hfirst]
    rw [hwait, hfound]
    simp
  · rw [hwait, (unwanted_spec hnone).1, takeClose]
    split <;> simp
  · rw [hwait, (unwanted_spec hnone).1]
    simp

/-- Nobody who wants the close is kept waiting by an update that he does not want. -/
theorem unwanted_iff (hwant : want = none ∨ want = some .close) :
    (∀ k ∈ q.buffer, wants want k = false) ↔ want = none ∧ q.buffer = [] ∨ want = some .close := by
  rcases hwant with rfl | rfl
  · simp [List.eq_nil_iff_forall_not_mem]
  · simp

/-- Whoever waits is told of the close if there is one, nobody was told, he wants it, and no update
comes before it. -/
theorem wait_eq_close_iff : (q.wait want millis).1 = .ok .close ↔
    q.closed = true ∧ q.closeTaken = false ∧
      (want = none ∧ q.buffer = [] ∨ want = some .close) := by
  rcases q.wait_cases want millis with ⟨passed, first, rest, hbuffer, hpassed, hfirst, hwait⟩ |
    ⟨hnone, hclosed, hwait⟩ | ⟨hnone, hopen, hwait⟩
  · rw [hwait]
    refine iff_of_false (by simp) ?_
    rintro ⟨-, -, ⟨-, hempty⟩ | rfl⟩
    · rw [hbuffer] at hempty
      simp at hempty
    · simp at hfirst
  · rw [hwait]
    by_cases h : (want = none ∨ want = some .close) ∧ q.closeTaken = false
    · rw [takeClose_of_wanted { q with buffer := [] } h.1 h.2]
      exact iff_of_true rfl ⟨hclosed, h.2, (q.unwanted_iff want h.1).mp hnone⟩
    · rw [takeClose_of_not { q with buffer := [] } h]
      refine iff_of_false (by simp) ?_
      rintro ⟨-, hleft, hwant⟩
      exact h ⟨hwant.imp_left And.left, hleft⟩
  · rw [hwait, hopen]
    simp

theorem buffer_eq_nil_of_wait_eq_close (h : (q.wait want millis).1 = .ok .close) :
    (q.wait want millis).2.buffer = [] := by
  rcases q.wait_cases want millis with ⟨passed, first, rest, -, -, -, hwait⟩ |
    ⟨-, -, hwait⟩ | ⟨-, -, hwait⟩
  · rw [hwait] at h
    cases h
  · rw [hwait, takeClose]
    split <;> rfl
  · rw [hwait]

theorem wait_eq_closed (hclosed : q.closed = true) (htaken : q.closeTaken = true)
    (hempty : q.buffer = []) : (q.wait want millis).1 = .error .closed := by
  rcases q.wait_cases want millis with ⟨passed, first, rest, hbuffer, -, -, -⟩ |
    ⟨-, -, hwait⟩ | ⟨-, hopen, -⟩
  · rw [hbuffer] at hempty
    simp at hempty
  · rw [hwait, takeClose_of_not { q with buffer := [] } (by simp [htaken])]
  · rw [hclosed] at hopen
    cases hopen

/-- What a wait takes: the updates before the first wanted one, and that one. -/
theorem buffer_wait_eq : q.buffer = (q.buffer.takeWhile fun k ↦ !wants want k) ++
    (q.buffer.find? (wants want)).toList ++ (q.wait want millis).2.buffer := by
  rcases q.wait_cases want millis with ⟨passed, first, rest, hbuffer, hpassed, hfirst, hwait⟩ |
    ⟨hnone, -, hwait⟩ | ⟨hnone, -, hwait⟩
  · have htaken : q.buffer.takeWhile (fun k ↦ !wants want k) = passed := by
      rw [hbuffer, List.takeWhile_append_of_pos (by simpa using hpassed),
        List.takeWhile_cons_of_neg (by simp [hfirst]), List.append_nil]
    have hfound := (q.wait_eq_update_iff want millis first).mp (by rw [hwait])
    rw [htaken, hfound, hwait, hbuffer]
    simp
  · obtain ⟨hfound, htaken⟩ := unwanted_spec hnone
    have hempty : ({ q with buffer := [] }.takeClose want).2.buffer = [] := by
      rw [takeClose]
      split <;> rfl
    rw [htaken, hfound, hwait, hempty]
    simp
  · obtain ⟨hfound, htaken⟩ := unwanted_spec hnone
    rw [htaken, hfound, hwait]
    simp

theorem update?_wait :
    (q.call (.wait want millis)).1.update? = q.buffer.find? (wants want) := by
  have hiff := q.wait_eq_update_iff want millis
  change (Answer.waited (q.wait want millis).1).update? = _
  cases hfound : q.buffer.find? (wants want) with
  | some kind => rw [(hiff kind).mpr hfound]; rfl
  | none =>
    rw [hfound] at hiff
    match hresult : (q.wait want millis).1 with
    | .ok (.update kind) => cases (hiff kind).mp hresult
    | .ok .close => rfl
    | .error e => rfl

/-- A call neither loses an update nor changes their order: those that it accepts come behind those
that are there, and those whose fate it seals go from the front. -/
theorem buffer_call : q.buffer ++ q.accepts c = (q.seals c).map (·.1) ++ (q.call c).2.buffer := by
  cases c with
  | publish kind =>
    change q.buffer ++ (if (q.publish kind).1 then [kind] else []) = (q.publish kind).2.buffer
    rw [publish]
    split
    · exact List.append_nil _
    · rfl
  | close => exact List.append_nil _
  | wait want millis =>
    have hfirst : ∀ (kinds : List ResourceKind) (fate : Fate),
        (kinds.map (·, fate)).map (·.1) = kinds := by
      intro kinds fate
      rw [List.map_map]
      exact List.map_id _
    rw [seals, update?_wait, List.map_append, hfirst, hfirst]
    exact (List.append_nil _).trans (q.buffer_wait_eq want millis)
  | clear =>
    change q.buffer ++ [] = ((q.buffer.take q.buffer.length).map (·, Fate.dropped)).map (·.1) ++ []
    rw [List.take_length, List.map_map]
    exact congrArg (· ++ []) (List.map_id _).symm

theorem call_flags : (q.call c).2.capacity = q.capacity ∧
    ((q.call c).2.closed = true ↔ q.closed = true ∨ c = .close) ∧
    ((q.call c).2.closeTaken = true ↔
      q.closeTaken = true ∨ (q.call c).1 = .waited (.ok .close)) := by
  cases c with
  | publish kind =>
    change (q.publish kind).2.capacity = _ ∧ ((q.publish kind).2.closed = true ↔ _) ∧
      ((q.publish kind).2.closeTaken = true ↔ _)
    rw [publish]
    split <;> simp [call]
  | close => simp [call, publishClose]
  | clear => simp [call, clear]
  | wait want millis =>
    change (q.wait want millis).2.capacity = _ ∧ ((q.wait want millis).2.closed = true ↔ _) ∧
      ((q.wait want millis).2.closeTaken = true ↔
        _ ∨ Answer.waited (q.wait want millis).1 = .waited (.ok .close))
    rcases q.wait_cases want millis with ⟨passed, first, rest, -, -, -, hwait⟩ |
      ⟨-, -, hwait⟩ | ⟨-, -, hwait⟩
    · rw [hwait]
      simp
    · rw [hwait, takeClose]
      split <;> simp
    · rw [hwait]
      simp

/-! ## Histories -/

def after (calls : List Call) : EventQueue := calls.foldl (fun q c ↦ (q.call c).2) q

/-- What all calls of a history give, one after the other. -/
def gather {α : Type u} (f : EventQueue → Call → List α) (q : EventQueue) : List Call → List α
  | [] => []
  | c :: rest => f q c ++ gather f (q.call c).2 rest

@[simp] theorem after_concat (calls : List Call) :
    q.after (calls ++ [c]) = ((q.after calls).call c).2 := by
  rw [after, after, List.foldl_append, List.foldl_cons, List.foldl_nil]

@[simp] theorem gather_concat {α : Type u} (f : EventQueue → Call → List α) (calls : List Call) :
    gather f q (calls ++ [c]) = gather f q calls ++ f (q.after calls) c := by
  induction calls generalizing q with
  | nil => exact List.append_nil _
  | cons first rest ih =>
    rw [List.cons_append, gather, ih, gather, List.append_assoc]
    rfl

def accepted (calls : List Call) : List ResourceKind := gather accepts q calls

/-- The updates whose fate was sealed in a history. -/
def sealedUpdates (calls : List Call) : List (ResourceKind × Fate) := gather seals q calls

def answers (calls : List Call) : List Answer := gather (fun q c ↦ [(q.call c).1]) q calls

/-- What was accepted is what was there or is there, or its fate was sealed. -/
theorem accepted_eq (calls : List Call) : q.buffer ++ q.accepted calls =
    (q.sealedUpdates calls).map (·.1) ++ (q.after calls).buffer := by
  induction calls using List.reverseRecOn with
  | nil => exact List.append_nil _
  | append_singleton calls c ih =>
    rw [accepted, gather_concat, sealedUpdates, gather_concat, after_concat, List.map_append,
      List.append_assoc, ← buffer_call, ← List.append_assoc, ← List.append_assoc]
    exact congrArg (· ++ _) ih

/-- What a history says about the flags of the queue that it leads to. -/
structure Settled (capacity : Nat) (calls : List Call) (q : EventQueue) : Prop where
  bound : q.capacity = max capacity 1
  closed : q.closed = true ↔ .close ∈ calls
  told : q.closeTaken = true ↔ .waited (.ok .close) ∈ (new capacity).answers calls
  once : ((new capacity).answers calls).countP Answer.tellsClose ≤ 1
  /-- Whoever is told of the close is told last. -/
  last : q.closeTaken = true → q.closed = true ∧ q.buffer = []

theorem mem_answers_concat (calls : List Call) (a : Answer) :
    a ∈ q.answers (calls ++ [c]) ↔ a ∈ q.answers calls ∨ ((q.after calls).call c).1 = a := by
  rw [answers, gather_concat, List.mem_append, List.mem_singleton, answers, eq_comm (a := a)]

theorem eq_wait_of_tells (h : (q.call c).1 = .waited (.ok .close)) :
    ∃ want millis, c = .wait want millis ∧ (q.wait want millis).1 = .ok .close := by
  cases c with
  | wait want millis => exact ⟨want, millis, rfl, Answer.waited.inj h⟩
  | _ => cases h

theorem last_call (hlast : q.closeTaken = true → q.closed = true ∧ q.buffer = [])
    (htaken : (q.call c).2.closeTaken = true) :
    (q.call c).2.closed = true ∧ (q.call c).2.buffer = [] := by
  obtain ⟨-, hclosed, htold⟩ := q.call_flags c
  rcases htold.mp htaken with htaken | htells
  · obtain ⟨hc, hempty⟩ := hlast htaken
    refine ⟨hclosed.mpr (.inl hc), ?_⟩
    -- Nothing is accepted any more, so the empty buffer stays empty.
    have hrefused : q.accepts c = [] := by
      cases c with
      | publish kind => simp [accepts, publish, hc]
      | _ => rfl
    have hbuffer := q.buffer_call c
    rw [hempty, hrefused] at hbuffer
    exact (List.append_eq_nil_iff.mp hbuffer.symm).2
  · obtain ⟨want, millis, rfl, hresult⟩ := q.eq_wait_of_tells c htells
    have hc : q.closed = true := ((q.wait_eq_close_iff want millis).mp hresult).1
    exact ⟨hclosed.mpr (.inl hc), q.buffer_eq_nil_of_wait_eq_close want millis hresult⟩

theorem settled (capacity : Nat) (calls : List Call) :
    Settled capacity calls ((new capacity).after calls) := by
  induction calls using List.reverseRecOn with
  | nil =>
    refine ⟨rfl, ?_, ?_, Nat.zero_le 1, fun h ↦ by cases h⟩
    · exact iff_of_false Bool.false_ne_true List.not_mem_nil
    · exact iff_of_false Bool.false_ne_true List.not_mem_nil
  | append_singleton calls c ih =>
    obtain ⟨hbound, hclosed, htold⟩ := ((new capacity).after calls).call_flags c
    rw [after_concat]
    refine ⟨hbound.trans ih.bound, ?_, ?_, ?_, last_call _ c ih.last⟩
    · rw [hclosed, ih.closed, List.mem_append, List.mem_singleton, eq_comm (a := c)]
    · rw [htold, ih.told, mem_answers_concat]
    · rw [answers, gather_concat, ← answers, List.countP_append, List.countP_singleton]
      split
      · next htells =>
        -- The close is told only while nobody was told of it, so this is the first time.
        obtain ⟨want, millis, rfl, hresult⟩ := eq_wait_of_tells _ c (Answer.tellsClose_iff.mp htells)
        have hleft := ((wait_eq_close_iff _ want millis).mp hresult).2.1
        have hnone : ((new capacity).answers calls).countP Answer.tellsClose = 0 := by
          rw [List.countP_eq_zero]
          intro a ha hclose
          rw [Answer.tellsClose_iff.mp hclose] at ha
          rw [ih.told.mpr ha] at hleft
          cases hleft
        omega
      · exact ih.once

/-! ## What a history guarantees -/

theorem publish_eq_true_iff (kind : ResourceKind) :
    (q.publish kind).1 = true ↔ q.closed = false ∧ q.buffer.length < q.capacity := by
  rw [publish]
  split
  · next h =>
    refine iff_of_false Bool.false_ne_true ?_
    rintro ⟨hopen, hroom⟩
    rcases h with hclosed | hfull
    · rw [hopen] at hclosed
      cases hclosed
    · omega
  · next h =>
    rw [not_or] at h
    exact iff_of_true rfl ⟨Bool.eq_false_iff.mpr h.1, by omega⟩

/-- Whatever is asked of a queue of events, and in whatever order. It accepts an update just as long
as it is open and fewer are buffered than it can hold. The accepted updates are those whose fate is
sealed, each once and in their order, and then those that are buffered; a wait seals the fate of
those before the first wanted one and of that one, which it gets. The close is told at most once. It
is told to one who waits for it, or for anything when nothing is buffered, as soon as the queue is
closed and until it is told, and no update is left behind it; from then on every wait is told that
the queue is closed. -/
theorem updates_delivered_in_order_close_last (capacity : Nat) (calls : List Call) :
    (∀ kind, (((new capacity).after calls).publish kind).1 = true ↔
      .close ∉ calls ∧ ((new capacity).after calls).buffer.length < max capacity 1) ∧
    (new capacity).accepted calls =
      ((new capacity).sealedUpdates calls).map (·.1) ++ ((new capacity).after calls).buffer ∧
    (∀ want millis, ((new capacity).after calls).buffer =
      (((new capacity).after calls).buffer.takeWhile fun k ↦ !wants want k) ++
        (((new capacity).after calls).buffer.find? (wants want)).toList ++
        (((new capacity).after calls).wait want millis).2.buffer) ∧
    (∀ want millis kind, (((new capacity).after calls).wait want millis).1 = .ok (.update kind) ↔
      ((new capacity).after calls).buffer.find? (wants want) = some kind) ∧
    ((new capacity).answers calls).countP Answer.tellsClose ≤ 1 ∧
    (∀ want millis, (((new capacity).after calls).wait want millis).1 = .ok .close ↔
      .close ∈ calls ∧ .waited (.ok .close) ∉ (new capacity).answers calls ∧
        (want = none ∧ ((new capacity).after calls).buffer = [] ∨ want = some .close)) ∧
    (∀ want millis, (((new capacity).after calls).wait want millis).1 = .ok .close →
      (((new capacity).after calls).wait want millis).2.buffer = []) ∧
    (.waited (.ok .close) ∈ (new capacity).answers calls → ∀ want millis,
      (((new capacity).after calls).wait want millis).1 = .error .closed) := by
  have hsettled := settled capacity calls
  refine ⟨fun kind ↦ ?_, accepted_eq (new capacity) calls, buffer_wait_eq _, wait_eq_update_iff _,
    hsettled.once, fun want millis ↦ ?_, buffer_eq_nil_of_wait_eq_close _,
    fun htold want millis ↦ ?_⟩
  · rw [publish_eq_true_iff, hsettled.bound, ← Bool.not_eq_true, hsettled.closed]
  · rw [wait_eq_close_iff, hsettled.closed, ← Bool.not_eq_true, hsettled.told]
  · have htaken := hsettled.told.mpr htold
    obtain ⟨hclosed, hempty⟩ := hsettled.last htaken
    exact wait_eq_closed _ want millis hclosed htaken hempty

/-- Clusters and listeners fill the buffer, so route configurations are dropped. The wait for
listeners passes over the clusters, and the close comes behind. -/
example : (new 2).answers [.publish .cluster, .publish .listener, .publish .route, .close,
    .wait (some (.update .listener)) 5, .wait none 5] =
      [.published true, .published true, .published false, .closed true,
        .waited (.ok (.update .listener)), .waited (.ok .close)] := rfl

end ProxyFleet.EventQueue
