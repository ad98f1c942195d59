import ProxyFleet.Proofs.Session.Underway

/-!
# Responses that race with a close

A receiver takes in responses while any number of others close the session, each at its own pace. A
close has three moments and none of them waits for the receiver: between any two moments of one
everybody else may have a turn. A `Race` is such a situation, and turns lead from one to the next.
The responses of a race are those that the receiver takes in; some of them it may take in when the
transport is closed already.

The transport is closed before the subscriptions are cleared, and a response changes what is
remembered only while the transport is open. So once the subscriptions are cleared nobody writes to
them again, and the responses that changed anything are the first ones: these are the two halves of
`Race.Sound`, which every turn keeps. The answers that are under way are followed by
`Session.Answering`.
-/

namespace ProxyFleet

universe u

theorem mem_set_of_ne {α : Type u} {l : List α} {i : Nat} {a b c : α} (ha : l[i]? = some a)
    (hc : c ∈ l) (hne : c ≠ a) : c ∈ l.set i b := by
  obtain ⟨j, hj⟩ := List.mem_iff_getElem?.mp hc
  have hij : i ≠ j := by
    rintro rfl
    exact hne (Option.some.inj (hj.symm.trans ha))
  refine List.mem_of_getElem? (i := j) ?_
  rw [List.getElem?_set_ne hij]
  exact hj

/-- A response that the receiver is at work on. -/
structure Task where
  response : Response
  /-- How many requests were on the stream when it was taken in. -/
  mark : Nat
  /-- What comes next. -/
  todo : Todo

/-- A receiver, and others who close the session. -/
structure Race where
  session : Session
  /-- The responses that are still to come. -/
  incoming : List Response
  /-- The response that the receiver is at work on, if any. -/
  task : Option Task := none
  /-- The responses that it is done with, each with the requests that were accepted meanwhile. -/
  finished : List (Response × List Request) := []
  /-- Those who close the session, each with its reason and with what it does next. -/
  closers : List (Option Failure × Closing)

/-- Whose turn it is. -/
inductive Turn
  /-- The receiver. -/
  | receiver
  /-- One of those who close the session. -/
  | closer (index : Nat)
  /-- The other side, which reads all requests. -/
  | read
  /-- The other side, which stops accepting requests. -/
  | refuse

/-- The race that begins with a session. -/
def Session.race (s : Session) (responses : List Response) (reasons : List (Option Failure)) :
    Race where
  session := s
  incoming := responses
  closers := reasons.map (·, .transport)

namespace Race

variable (x : Race)

/-- The receiver takes in the next response, if it is not at work, and else goes on with the one
that it is at work on, unless it waits for room. -/
def receive : Race :=
  match x.task with
  | none =>
    match x.incoming with
    | [] => x
    | r :: rest =>
      { x with
        session := (x.session.takeIn r).2
        incoming := rest
        task := some ⟨r, x.session.transport.outbound.sent.length, (x.session.takeIn r).1⟩ }
  | some t =>
    if x.session.receiver = .working then
      match x.session.goOn t.response t.todo with
      | (some todo, s) => { x with session := s, task := some { t with todo } }
      | (none, s) =>
        { x with
          session := s
          task := none
          finished := x.finished ++ [(t.response, s.transport.outbound.sent.drop t.mark)] }
    else x

/-- One of those who close the session goes on. -/
def close (index : Nat) : Race :=
  match x.closers[index]? with
  | none => x
  | some (reason, c) =>
    { x with
      session := x.session.closeOn reason c
      closers := x.closers.set index (reason, c.next) }

def turn : Turn → Race
  | .receiver => x.receive
  | .closer index => x.close index
  | .read => { x with session := x.session.readOn }
  | .refuse => { x with session := x.session.refuseOn }

def run (turns : List Turn) : Race := turns.foldl turn x

/-- All are done. -/
structure Finished : Prop where
  /-- There are no more responses. -/
  incoming : x.incoming = []
  /-- The receiver is done with all of them. -/
  task : x.task = none
  /-- So are those who close the session. -/
  closers : ∀ c ∈ x.closers, c.2 = .done

/-! ## What every turn keeps -/

/-- The responses that the receiver is done with. -/
def past : List Response := x.finished.map (·.1)

def responses : List Response := x.past ++ (x.task.map (·.response)).toList ++ x.incoming

/-- The responses that had their turn to change what is remembered. -/
def applied : List Response :=
  x.past ++ match x.task with
    | some ⟨r, _, .steps _⟩ => [r]
    | _ => []

/-- The requests that answer the next response, if all before it changed what is remembered. -/
def planned (o : Session) (r : Response) : List Draft :=
  ((o.ledger.replyAll o.profile x.past).reply o.profile r).2

/-- Whether the node is told before the next answer, if all before it were sent. -/
def toldBefore (o : Session) : Bool := o.nodeTold || !x.finished.isEmpty

end Race

theorem Ledger.replyAll_concat (l : Ledger) (p : Profile) (rs : List Response) (r : Response) :
    l.replyAll p (rs ++ [r]) = ((l.replyAll p rs).reply p r).1 := by
  rw [replyAll, List.foldl_append]
  rfl

/-- What is kept is what the first of some responses leave, as they do if nobody interferes. While
the session is open these are all of them, and nothing else is remembered. -/
def Session.Keeps (s o : Session) (responses : List Response) : Prop :=
  ∃ done, done <+: responses ∧
    (s.transport.closed = false →
      done = responses ∧ s.ledger = o.ledger.replyAll o.profile done) ∧
    s.ledger.store = (o.ledger.replyAll o.profile done).store ∧
    s.ledger.clustersSeen = (o.ledger.replyAll o.profile done).clustersSeen

namespace Session.Keeps

variable {s t o : Session} {responses : List Response} {r : Response}
variable (h : s.Keeps o responses)

include h

theorem of_ledger (hstore : t.ledger.store = s.ledger.store)
    (hseen : t.ledger.clustersSeen = s.ledger.clustersSeen)
    (hopen : t.transport.closed = false → s.transport.closed = false ∧ t.ledger = s.ledger) :
    t.Keeps o responses := by
  obtain ⟨done, hdone, hall, hstore', hseen'⟩ := h
  refine ⟨done, hdone, ?_, hstore.trans hstore', hseen.trans hseen'⟩
  intro ht
  obtain ⟨hs, hledger⟩ := hopen ht
  exact ⟨(hall hs).1, hledger.trans (hall hs).2⟩

theorem of_closed (hclosed : s.transport.closed = true) : s.Keeps o (responses ++ [r]) := by
  obtain ⟨done, hdone, -, hkept⟩ := h
  refine ⟨done, hdone.trans (List.prefix_append ..), ?_, hkept⟩
  intro hopen
  rw [hclosed] at hopen
  cases hopen

theorem of_open (hopen : s.transport.closed = false)
    (hledger : t.ledger = (s.ledger.reply o.profile r).1) : t.Keeps o (responses ++ [r]) := by
  obtain ⟨done, -, hall, -⟩ := h
  obtain ⟨rfl, hbefore⟩ := hall hopen
  have hafter : t.ledger = o.ledger.replyAll o.profile (done ++ [r]) := by
    rw [Ledger.replyAll_concat, ← hbefore]
    exact hledger
  exact ⟨done ++ [r], List.prefix_refl _, fun _ ↦ ⟨rfl, hafter⟩, by rw [hafter], by rw [hafter]⟩

theorem of_unknown (hr : ResourceKind.ofTypeUrl? r.typeUrl = none) :
    s.Keeps o (responses ++ [r]) := by
  by_cases hclosed : s.transport.closed = true
  · exact h.of_closed hclosed
  · have hopen : s.transport.closed = false := Bool.eq_false_iff.mpr hclosed
    refine h.of_open hopen ?_
    rw [Ledger.reply_of_none _ hr]

end Session.Keeps

/-- The requests that are left to make. -/
def Todo.drafts (planned : List Draft) : Todo → List Draft
  | update _ _ => planned
  | steps left => left.filterMap Step.draft?

theorem Session.takeIn_decoded {s : Session} {r : Response} {k : ResourceKind}
    {resources : List Resource} (h : (s.takeIn r).1 = .update k resources) :
    ResourceKind.ofTypeUrl? r.typeUrl = some k ∧ resources = s.profile.decoded r := by
  cases hk : ResourceKind.ofTypeUrl? r.typeUrl with
  | none =>
    rw [takeIn_of_none s hk] at h
    cases h
  | some k' =>
    rw [takeIn_of_some s hk] at h
    cases h
    exact ⟨rfl, rfl⟩

theorem Session.drafts_takeIn (s : Session) (r : Response) (l : Ledger) :
    (s.takeIn r).1.drafts (l.reply s.profile r).2 = (l.reply s.profile r).2 := by
  cases hk : ResourceKind.ofTypeUrl? r.typeUrl with
  | none =>
    rw [takeIn_of_none s hk, Ledger.reply_of_none _ hk]
    rfl
  | some k =>
    rw [takeIn_of_some s hk]
    rfl

/-- What the receiver is at work on, in a race that began with a session. -/
structure Task.Sound (o : Session) (x : Race) (t : Task) : Prop where
  /-- The receiver works, or it waits for room. -/
  receiver : x.session.receiver = .working ∨
    ∃ url rest, x.session.receiver = .sending url rest ∧ t.todo = .steps rest
  /-- What is on the stream before the answer belongs to the responses before. -/
  before : x.session.transport.outbound.sent.take t.mark =
    o.transport.outbound.sent ++ (x.finished.map (·.2)).flatten
  /-- What came in was decoded. -/
  decoded : ∀ k resources, t.todo = .update k resources →
    ResourceKind.ofTypeUrl? t.response.typeUrl = some k ∧
      resources = o.profile.decoded t.response
  /-- The answer is under way. -/
  answering : x.session.Answering t.mark
    (o.profile.requests (x.toldBefore o) (x.planned o t.response))
    (t.todo.drafts (x.planned o t.response))

/-- What is true of a race that began with a session. -/
structure Race.Sound (o : Session) (x : Race) : Prop where
  /-- It is the same session. -/
  profile : x.session.profile = o.profile
  /-- Nobody waits for room but the receiver. -/
  orderly : x.session.Orderly
  /-- Nobody has begun to close an open session. -/
  untouched : x.session.transport.closed = false → ∀ c ∈ x.closers, c.2 = .transport
  /-- The subscriptions of a closed one are cleared, or somebody will clear them next. -/
  cleared : x.session.transport.closed = true →
    x.session.ledger.watches = .empty ∨ ∃ c ∈ x.closers, c.2 = .watches
  /-- The first responses are kept, and in an open session all that were taken in. -/
  kept : x.session.Keeps o x.applied
  /-- What was accepted is the beginning of each answer. -/
  answered : List.Forall₂ (· <+: ·) (x.finished.map (·.2))
    (o.profile.answers o.nodeTold o.ledger x.past)
  /-- A receiver that waits for a response has told the node if it answered before. -/
  waiting : x.task = none → x.session.receiver = .idle ∧
    (¬ x.session.Refuses → x.session.nodeTold = x.toldBefore o) ∧
    x.session.transport.outbound.sent =
      o.transport.outbound.sent ++ (x.finished.map (·.2)).flatten
  /-- One that does not is at work on a response. -/
  working : ∀ t, x.task = some t → t.Sound o x

namespace Race.Sound

variable {o : Session} {x : Race}

theorem race (o : Session) (responses : List Response) (reasons : List (Option Failure))
    (horderly : o.Orderly) (hidle : o.receiver = .idle) (hopen : o.transport.closed = false) :
    (o.race responses reasons).Sound o where
  profile := rfl
  orderly := horderly
  untouched _ c hc := by
    obtain ⟨reason, -, rfl⟩ := List.mem_map.mp hc
    rfl
  cleared hclosed := absurd (hopen.symm.trans hclosed) (by decide)
  kept := ⟨[], List.nil_prefix, fun _ ↦ ⟨rfl, rfl⟩, rfl, rfl⟩
  answered := .nil
  waiting _ := ⟨hidle, fun _ ↦ (Bool.or_false _).symm, (List.append_nil _).symm⟩
  working t ht := by cases ht

/-! ## The turns of others -/

variable (h : x.Sound o)

include h

theorem meanwhile {t : Session} {closers : List (Option Failure × Closing)}
    (ht : x.session.Meanwhile t)
    (huntouched : t.transport.closed = false → ∀ c ∈ closers, c.2 = .transport)
    (hcleared : t.transport.closed = true →
      t.ledger.watches = .empty ∨ ∃ c ∈ closers, c.2 = .watches) :
    { x with session := t, closers }.Sound o where
  profile := ht.profile.trans h.profile
  orderly := ht.orderly
  untouched := huntouched
  cleared := hcleared
  kept := h.kept.of_ledger ht.store ht.clustersSeen ht.opened
  answered := h.answered
  waiting htask := by
    obtain ⟨hidle, htold, hsent⟩ := h.waiting htask
    refine ⟨?_, ?_, (ht.idle hidle).trans hsent⟩
    · rcases ht.receiver with hsame | ⟨⟨url, rest, hsending⟩, -⟩
      · exact hsame.trans hidle
      · rw [hidle] at hsending
        cases hsending
    · intro hrefuses
      exact ht.nodeTold.trans (htold fun hbefore ↦ hrefuses (ht.refuses hbefore))
  working task htask := by
    have hsound := h.working task htask
    refine ⟨?_, ?_, hsound.decoded, ht.answering _ _ _ hsound.answering⟩
    · rcases ht.receiver with hsame | ⟨-, hworking⟩
      · change t.receiver = .working ∨ ∃ url rest, t.receiver = .sending url rest ∧ _
        rw [hsame]
        exact hsound.receiver
      · exact .inl hworking
    · obtain ⟨more, hmore⟩ := ht.sent
      change t.transport.outbound.sent.take task.mark = _
      rw [← hmore, List.take_append_of_le_length hsound.answering.marked]
      exact hsound.before

theorem read : { x with session := x.session.readOn }.Sound o := by
  obtain ⟨-, -, hledger, hclosed, -⟩ := x.session.readOn_spec
  refine h.meanwhile h.orderly.meanwhile_readOn ?_ ?_
  · rw [hclosed]
    exact h.untouched
  · rw [hclosed, hledger]
    exact h.cleared

theorem refuse : { x with session := x.session.refuseOn }.Sound o := by
  obtain ⟨-, -, hledger, hclosed, -⟩ := h.orderly.refuseOn_spec
  refine h.meanwhile h.orderly.meanwhile_refuseOn ?_ ?_
  · rw [hclosed]
    exact h.untouched
  · rw [hclosed, hledger]
    exact h.cleared

/-- Those who close the session keep the order: nobody clears the subscriptions of an open one, and
if it is no longer open then they are cleared or about to be. -/
theorem close (index : Nat) : (x.close index).Sound o := by
  rw [Race.close]
  split
  · exact h
  next reason c hc =>
  have hmem : (reason, c) ∈ x.closers := List.mem_of_getElem? hc
  have hclosed := x.session.closed_closeOn reason c
  have hfirst : x.session.transport.closed = false → c = .transport :=
    fun hopen ↦ h.untouched hopen _ hmem
  refine h.meanwhile ((x.session.aside_closeOn reason hfirst).meanwhile h.orderly) ?_ ?_
  · intro hopen
    rw [hclosed, Bool.or_eq_false_iff] at hopen
    rw [hfirst hopen.1] at hopen
    cases hopen.2
  · intro _
    rw [Session.watches_closeOn]
    have hset : (reason, c.next) ∈ x.closers.set index (reason, c.next) := by
      obtain ⟨hindex, -⟩ := List.getElem?_eq_some_iff.mp hc
      exact List.mem_set hindex _
    by_cases hwatches : c = .watches
    · exact .inl (if_pos hwatches)
    rw [if_neg hwatches]
    by_cases htransport : c = .transport
    · subst htransport
      exact .inr ⟨_, hset, rfl⟩
    have hbefore : x.session.transport.closed = true := by
      rw [← Bool.not_eq_false]
      exact fun hopen ↦ htransport (hfirst hopen)
    refine (h.cleared hbefore).imp_right ?_
    rintro ⟨c', hc', hnext⟩
    refine ⟨c', mem_set_of_ne hc hc' ?_, hnext⟩
    rintro rfl
    exact hwatches hnext

/-! ## The turns of the receiver -/

theorem takeIn {r : Response} {rest : List Response} (htask : x.task = none) :
    { x with
      session := (x.session.takeIn r).2
      incoming := rest
      task := some ⟨r, x.session.transport.outbound.sent.length, (x.session.takeIn r).1⟩ }.Sound
      o := by
  obtain ⟨hidle, htold, hsent⟩ := h.waiting htask
  have hwaiting := h.orderly.waiting_eq_nil hidle
  have haside := x.session.aside_takeIn r
  have hkept : (x.session.takeIn r).2.Keeps o x.past := by
    have happlied : x.applied = x.past := by
      rw [Race.applied, htask]
      exact List.append_nil _
    rw [← happlied]
    exact h.kept.of_ledger haside.store haside.clustersSeen
      fun hopen ↦ ⟨haside.opened hopen, haside.ledger hopen⟩
  constructor
  · exact haside.profile.trans h.profile
  · rw [Session.Orderly]
    dsimp only
    rw [haside.outbound, haside.receiver]
    exact (congrArg _ hwaiting).trans List.map_nil
  · exact fun htaken ↦ h.untouched (haside.opened htaken)
  · intro htaken
    rcases x.session.takeIn_cleared_or r with hempty | ⟨hledger, htransport⟩
    · exact .inl hempty
    · dsimp only at htaken ⊢
      rw [htransport] at htaken
      rw [hledger]
      exact h.cleared htaken
  · rw [Race.applied]
    cases hk : ResourceKind.ofTypeUrl? r.typeUrl with
    | none =>
      rw [Session.takeIn_of_none _ hk] at hkept ⊢
      exact hkept.of_unknown hk
    | some k =>
      rw [Session.takeIn_of_some _ hk] at hkept ⊢
      exact (List.append_nil x.past).symm ▸ hkept
  · exact h.answered
  · intro hnone
    cases hnone
  · intro t ht
    obtain rfl := Option.some.inj ht
    constructor
    · exact .inl haside.receiver
    · dsimp only
      rw [haside.outbound]
      exact (List.take_length ..).trans hsent
    · rw [← h.profile]
      exact fun k resources htodo ↦ Session.takeIn_decoded htodo
    · have hdrafts := x.session.drafts_takeIn r (o.ledger.replyAll o.profile x.past)
      rw [h.profile] at hdrafts
      have hlength : x.session.transport.outbound.sent.length =
          (x.session.takeIn r).2.transport.outbound.sent.length := by rw [haside.outbound]
      dsimp only
      rw [hlength]
      refine .begin (by rw [haside.outbound]; exact hwaiting) ?_
      intro hrefuses
      have hbefore : ¬ x.session.Refuses := by
        intro hbefore
        refine hrefuses (hbefore.imp haside.closed ?_)
        rw [haside.outbound]
        exact id
      have htold' : (x.session.takeIn r).2.nodeTold = x.toldBefore o :=
        haside.nodeTold.trans (htold hbefore)
      have hprofile : (x.session.takeIn r).2.profile = o.profile :=
        haside.profile.trans h.profile
      rw [htold', hprofile]
      exact congrArg _ hdrafts

theorem step {t : Task} {s : Session} {left rest : List Step} (htask : x.task = some t)
    (htodo : t.todo = .steps left) (hprofile : s.profile = x.session.profile)
    (hledger : s.ledger = x.session.ledger)
    (hclosed : s.transport.closed = x.session.transport.closed) (horderly : s.Orderly)
    (hreceiver : s.receiver = .working ∨ ∃ url, s.receiver = .sending url rest)
    (hsent : x.session.transport.outbound.sent <+: s.transport.outbound.sent)
    (hanswering : ∀ answer, x.session.Answering t.mark answer (left.filterMap Step.draft?) →
      s.Answering t.mark answer (rest.filterMap Step.draft?)) :
    { x with session := s, task := some { t with todo := .steps rest } }.Sound o := by
  have hsound := h.working t htask
  obtain ⟨r, mark, todo⟩ := t
  dsimp only at htodo
  subst htodo
  constructor
  · exact hprofile.trans h.profile
  · exact horderly
  · dsimp only
    rw [hclosed]
    exact h.untouched
  · dsimp only
    rw [hclosed, hledger]
    exact h.cleared
  · have hkept := h.kept
    rw [Race.applied, htask] at hkept
    refine hkept.of_ledger ?_ ?_ fun hopen ↦ ⟨hclosed.symm.trans hopen, hledger⟩
    · dsimp only
      rw [hledger]
    · dsimp only
      rw [hledger]
  · exact h.answered
  · intro hnone
    cases hnone
  · intro t ht
    obtain rfl := Option.some.inj ht
    refine ⟨?_, ?_, (fun k resources hupdate ↦ by cases hupdate), hanswering _ hsound.answering⟩
    · rcases hreceiver with hworking | ⟨url, hsending⟩
      · exact .inl hworking
      · exact .inr ⟨url, rest, hsending, rfl⟩
    · obtain ⟨more, hmore⟩ := hsent
      dsimp only
      rw [← hmore, List.take_append_of_le_length hsound.answering.marked]
      exact hsound.before

theorem finish {t : Task} (htask : x.task = some t) (htodo : t.todo = .steps [])
    (hworking : x.session.receiver = .working) :
    { x with
      session := { x.session with receiver := .idle }
      task := none
      finished := x.finished ++
        [(t.response, x.session.transport.outbound.sent.drop t.mark)] }.Sound o := by
  have hsound := h.working t htask
  have hwaiting := h.orderly.nobody_waits (congrArg _ hworking)
  have hmade := Session.made_of_waiting_eq_nil hwaiting
  obtain ⟨r, mark, todo⟩ := t
  dsimp only at htodo
  subst htodo
  have hanswering := hsound.answering
  dsimp only at hanswering
  constructor
  · exact h.profile
  · exact (congrArg _ hwaiting).trans List.map_nil
  · exact h.untouched
  · exact h.cleared
  · have hkept := h.kept
    rw [Race.applied, htask] at hkept
    rw [Race.applied, Race.past, List.map_append]
    exact (List.append_nil (x.past ++ [r])).symm ▸ hkept
  · have hlast : x.session.transport.outbound.sent.drop mark <+:
        o.profile.requests (o.nodeTold || !x.past.isEmpty) (x.planned o r) := by
      have htold : (o.nodeTold || !x.past.isEmpty) = x.toldBefore o := by
        rw [Race.past, List.isEmpty_map, Race.toldBefore]
      rw [htold, ← hmade]
      exact hanswering.made_prefix
    rw [Race.past, List.map_append, List.map_append]
    change List.Forall₂ _ _ (o.profile.answers o.nodeTold o.ledger (x.past ++ [r]))
    rw [Profile.answers_concat]
    exact List.rel_append h.answered (.cons hlast .nil)
  · intro _
    refine ⟨rfl, fun halive ↦ ?_, ?_⟩
    · -- Nothing was refused, so the answer was made, and there is something in every answer.
      have htold : x.session.nodeTold = true :=
        hanswering.nodeTold rfl
          (o.profile.requests_ne_nil (Ledger.reply_snd_ne_nil _ _ _)) halive
      rw [Race.toldBefore]
      simp [htold]
    · have hbefore := hsound.before
      dsimp only at hbefore ⊢
      rw [List.map_append, List.flatten_append, ← List.append_assoc, ← hbefore]
      simp
  · intro t ht
    cases ht

theorem update {t : Task} {k : ResourceKind} {resources : List Resource}
    (htask : x.task = some t) (htodo : t.todo = .update k resources)
    (hworking : x.session.receiver = .working) :
    { x with
      session := (x.session.apply t.response k resources).2
      task := some { t with todo := .steps (x.session.apply t.response k resources).1 } }.Sound
      o := by
  have hsound := h.working t htask
  obtain ⟨r, mark, todo⟩ := t
  dsimp only at htodo
  subst htodo
  obtain ⟨hk, hresources⟩ := hsound.decoded k resources rfl
  dsimp only at hk hresources
  subst hresources
  have hkept : x.session.Keeps o x.past := by
    have hkept := h.kept
    rw [Race.applied, htask] at hkept
    exact List.append_nil x.past ▸ hkept
  have hanswering := hsound.answering
  dsimp only at hanswering ⊢
  rw [Session.apply]
  by_cases hclosed : x.session.transport.closed = true
  · rw [if_pos hclosed]
    refine ⟨h.profile, h.orderly, h.untouched, h.cleared, hkept.of_closed hclosed, h.answered,
      (fun hnone ↦ by cases hnone), fun t ht ↦ ?_⟩
    obtain rfl := Option.some.inj ht
    exact ⟨.inl hworking, hsound.before, (fun _ _ hupdate ↦ by cases hupdate),
      hanswering.of_refuses (.inl hclosed) _⟩
  · rw [if_neg hclosed]
    have hopen : x.session.transport.closed = false := Bool.eq_false_iff.mpr hclosed
    -- In an open session the ledger is what the responses before left.
    have hledger : x.session.ledger = o.ledger.replyAll o.profile x.past := by
      obtain ⟨done, -, hall, -⟩ := hkept
      obtain ⟨rfl, hledger⟩ := hall hopen
      exact hledger
    have hreply : x.session.ledger.digest x.session.profile.mode r k (o.profile.decoded r) =
        (o.ledger.replyAll o.profile x.past).reply o.profile r := by
      rw [hledger, h.profile, Ledger.reply_of_some _ hk]
    rw [hreply]
    refine ⟨h.profile, h.orderly, h.untouched, fun hc ↦ absurd hc hclosed, ?_, h.answered,
      (fun hnone ↦ by cases hnone), fun t ht ↦ ?_⟩
    · refine hkept.of_open hopen ?_
      rw [hledger]
    · obtain rfl := Option.some.inj ht
      refine ⟨.inl hworking, hsound.before, (fun _ _ hupdate ↦ by cases hupdate), ?_⟩
      change Session.Answering _ mark _ (((x.planned o r).map Step.send ++
        [Step.publish k]).filterMap Step.draft?)
      rw [Step.filterMap_draft?_concat_publish]
      exact hanswering.of_same rfl rfl rfl id

theorem receive : x.receive.Sound o := by
  rw [Race.receive]
  split
  · next htask =>
    split
    · exact h
    · exact h.takeIn htask
  · next t htask =>
    split
    · next hworking =>
      obtain ⟨r, mark, todo⟩ := t
      have hwaiting := h.orderly.nobody_waits (congrArg _ hworking)
      cases todo with
      | update k resources => exact h.update htask rfl hworking
      | steps left =>
        cases left with
        | nil => exact h.finish htask rfl hworking
        | cons step rest =>
          cases step with
          | publish k =>
            exact h.step htask rfl rfl rfl rfl h.orderly (.inl hworking) (List.prefix_refl _)
              fun answer hanswering ↦ hanswering.of_same rfl rfl rfl id
          | send draft =>
            obtain ⟨s, hgo, hprofile, hledger, hclosed, horderly, hreceiver, hsent, hanswering⟩ :=
              Session.goOn_send_spec hworking hwaiting r draft rest
            dsimp only
            rw [hgo]
            exact h.step htask rfl hprofile hledger hclosed horderly hreceiver hsent
              fun answer ↦ hanswering mark answer _
    · exact h

theorem turn (t : Turn) : (x.turn t).Sound o := by
  cases t with
  | receiver => exact h.receive
  | closer index => exact h.close index
  | read => exact h.read
  | refuse => exact h.refuse

theorem run (turns : List Turn) : (x.run turns).Sound o := by
  induction turns generalizing x with
  | nil => exact h
  | cons t rest ih => exact ih (h.turn t)

end Race.Sound

/-! ## The end of a race -/

namespace Race

variable (x : Race)

theorem responses_receive : x.receive.responses = x.responses := by
  rw [receive]
  split
  · next htask =>
    split
    · rfl
    · next r rest hincoming =>
      rw [responses, responses, htask, hincoming]
      simp [past]
  · next t htask =>
    split
    · split
      · rw [responses, responses, htask]
        rfl
      · rw [responses, responses, htask]
        simp [past]
    · rfl

theorem close_spec (index : Nat) : (x.close index).responses = x.responses ∧
    (x.close index).closers.length = x.closers.length := by
  rw [close]
  split
  · exact ⟨rfl, rfl⟩
  · exact ⟨rfl, List.length_set⟩

theorem closers_receive : x.receive.closers = x.closers := by
  rw [receive]
  split
  · split <;> rfl
  · split
    · split <;> rfl
    · rfl

/-- Nobody comes to a race, and nobody leaves it. -/
theorem run_spec (turns : List Turn) : (x.run turns).responses = x.responses ∧
    (x.run turns).closers.length = x.closers.length := by
  induction turns generalizing x with
  | nil => exact ⟨rfl, rfl⟩
  | cons t rest ih =>
    have hturn : (x.turn t).responses = x.responses ∧
        (x.turn t).closers.length = x.closers.length := by
      cases t with
      | receiver => exact ⟨x.responses_receive, congrArg _ x.closers_receive⟩
      | closer index => exact x.close_spec index
      | read => exact ⟨rfl, rfl⟩
      | refuse => exact ⟨rfl, rfl⟩
    exact ⟨(ih (x.turn t)).1.trans hturn.1, (ih (x.turn t)).2.trans hturn.2⟩

end Race

theorem Ledger.clustersSeen_replyAll (l : Ledger) {p : Profile} (hp : p.mode = .complete)
    (rs : List Response) :
    (l.replyAll p rs).clustersSeen = (l.clustersSeen || rs.any Response.bringsClusters) := by
  induction rs using List.reverseRecOn with
  | nil => exact (Bool.or_false _).symm
  | append_singleton rs r ih =>
    rw [replyAll_concat, clustersSeen_reply _ _ hp, ih, List.any_append, List.any_cons,
      List.any_nil, Bool.or_false, Bool.or_assoc]

namespace Session

variable {s o : Session} {p : Profile} {keepsStore : Bool} {x : Race}

/-- In every open session whose receiver waits for a response, let responses come in while one or
more others close the session, with their moments interleaved in any way and the other side doing
what it likes. Once all are done nothing is wanted. What is kept is what some of the responses
leave, the first ones, each of which had its whole effect; and in the complete mode clusters were
seen if one of these, or one before the race, brought clusters. The requests that were accepted
during the race are those accepted for the responses one after the other, and for each of them they
are the beginning of the answer that it is given if nobody interferes. -/
theorem responses_race_with_closes (hs : Start p keepsStore s) (moves : List Move)
    (ho : s.play moves = o) (hopen : o.isClosed = false) (hidle : o.receiver = .idle)
    (responses : List Response) {reasons : List (Option Failure)} (hreasons : reasons ≠ [])
    (turns : List Turn) (hx : (o.race responses reasons).run turns = x) (hdone : x.Finished) :
    x.session.ledger.watches = .empty ∧
    (∃ done, done <+: responses ∧
      x.session.ledger.store = (o.ledger.replyAll p done).store ∧
      (p.mode = .complete → (x.session.ledger.clustersSeen = true ↔
        ∃ r ∈ s.heard moves ++ done, r.bringsClusters = true))) ∧
    x.finished.map (·.1) = responses ∧
    x.session.transport.outbound.sent =
      o.transport.outbound.sent ++ (x.finished.map (·.2)).flatten ∧
    List.Forall₂ (· <+: ·) (x.finished.map (·.2)) (p.answers o.nodeTold o.ledger responses) := by
  subst ho hx
  have hprofile : (s.play moves).profile = p := hs.profile_play moves
  have hclosed : (s.play moves).transport.closed = false := (hs.latched moves).symm.trans hopen
  have hsound := (Race.Sound.race (s.play moves) responses reasons (orderly_play hs.orderly moves)
    hidle hclosed).run turns
  obtain ⟨hresponses, hlength⟩ := ((s.play moves).race responses reasons).run_spec turns
  generalize ((s.play moves).race responses reasons).run turns = x at *
  have hpast : x.past = responses := by
    rw [Race.responses, Race.responses, hdone.task, hdone.incoming] at hresponses
    simpa [race, Race.past] using hresponses
  -- Somebody is done who closed the session, so it was closed, and nobody is left to clear it.
  obtain ⟨c, hc⟩ : ∃ c, c ∈ x.closers := by
    refine List.exists_mem_of_length_pos ?_
    rw [hlength, race, List.length_map]
    exact List.length_pos_iff.mpr hreasons
  have hafter : x.session.transport.closed = true := by
    rw [← Bool.not_eq_false]
    intro hstill
    have htransport := hsound.untouched hstill c hc
    rw [hdone.closers c hc] at htransport
    cases htransport
  have hcleared : x.session.ledger.watches = .empty := by
    refine (hsound.cleared hafter).resolve_right ?_
    rintro ⟨c', hc', hnext⟩
    rw [hdone.closers c' hc'] at hnext
    cases hnext
  obtain ⟨done, hprefix, -, hstore, hseen⟩ := hsound.kept
  have happlied : x.applied = responses := by
    rw [Race.applied, hdone.task, hpast]
    exact List.append_nil _
  have hsent := (hsound.waiting hdone.task).2.2
  have hanswered := hsound.answered
  rw [hprofile] at hstore hseen hanswered
  rw [happlied] at hprefix
  rw [hpast] at hanswered
  refine ⟨hcleared, ⟨done, hprefix, hstore, fun hp ↦ ?_⟩, hpast, hsent, hanswered⟩
  rw [hseen, Ledger.clustersSeen_replyAll _ hp, hs.clustersSeen_play hp hopen, ← List.any_append,
    List.any_eq_true]

/-- The first of two responses is being answered when two others close the session. -/
def closingTurns : List Turn :=
  [.receiver, .receiver, .receiver, .closer 0, .closer 1, .receiver, .closer 1, .receiver,
    .receiver, .receiver, .closer 0, .receiver, .closer 1, .receiver, .receiver, .closer 0]

/-- Its cluster is kept, but only one request gets out, and the other response is dropped. -/
theorem responses_race_with_closes_closingTurns :
    ∃ x, ((plain .complete).race [clusterPush "a" [0x61] [], clusterPush "b" [0x62] []]
        [none, none]).run closingTurns = x ∧ x.Finished ∧
      x.session.ledger.watches = .empty ∧
      x.session.ledger.responses.count = 1 ∧ (x.finished.map (·.2.length)) = [1, 0] := by
  refine ⟨_, rfl, ?_⟩
  have hdone : (((plain .complete).race [clusterPush "a" [0x61] [], clusterPush "b" [0x62] []]
      [none, none]).run closingTurns).Finished :=
    ⟨List.isEmpty_iff.mp (by decide +kernel), Option.isNone_iff_eq_none.mp (by decide +kernel),
      by decide +kernel⟩
  have hrace := responses_race_with_closes (.plain .complete) [] rfl rfl rfl _ (by decide)
    closingTurns rfl hdone
  exact ⟨hdone, hrace.1, by decide +kernel, by decide +kernel⟩

end Session

end ProxyFleet
