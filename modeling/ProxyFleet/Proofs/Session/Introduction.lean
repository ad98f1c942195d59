import ProxyFleet.Proofs.Session.LateWatch
import ProxyFleet.Proofs.Session.Traffic

/-!
# The node is told once

The first request on a stream says who the session claims to be, and no other one does. A session
decides that when it makes a request, not when the stream accepts it. So the first request that is
made is the first one on the stream only if it gets there.

It does, or nothing does. A request that is made on an open session whose stream accepts requests is
accepted at once while the stream is empty, unless there is never any room. And one that is refused
is refused for good. `Introduced` lists these cases, and every act keeps them.
-/

namespace ProxyFleet

/-! ## Streams without room -/

namespace Outbound

universe u

variable {α : Type u} {o : Outbound α}

theorem not_hasRoom (h : o.capacity = some 0) : ¬ o.hasRoom = true := by
  rw [hasRoom, h]
  exact fun hroom ↦ Nat.not_lt_zero _ (of_decide_eq_true hroom)

theorem capacity_of_full (hsent : o.sent = []) (hfull : ¬ o.hasRoom = true) :
    o.capacity = some 0 := by
  have hunread : o.unread = [] := by
    rw [unread, hsent, List.drop_nil, ite_self]
  rw [hasRoom, hunread] at hfull
  cases hcapacity : o.capacity with
  | none =>
    rw [hcapacity] at hfull
    exact absurd rfl hfull
  | some n =>
    rw [hcapacity] at hfull
    refine congrArg some (Nat.eq_zero_of_not_pos fun hpos ↦ hfull ?_)
    exact decide_eq_true hpos

theorem letIn_of_full (steps : Nat) (h : ¬ o.hasRoom = true) : letIn steps o = ([], o) := by
  cases steps with
  | zero => rfl
  | succ steps =>
    rw [letIn]
    split
    · rfl
    · exact if_neg h

theorem readAll_of_full (h : o.capacity = some 0) :
    o.readAll.2.sent = o.sent ∧ o.readAll.2.capacity = some 0 := by
  rw [readAll]
  split
  · rw [letIn_of_full _ (not_hasRoom (o := { o with read := o.sent.length }) h)]
    exact ⟨rfl, h⟩
  · exact ⟨rfl, h⟩

end Outbound

namespace Session

/-! ## What the requests of a session say about it -/

/-- Whether and where a session has told its node. -/
inductive Introduced (s : Session) : Prop
  /-- Nowhere yet: nothing is made, or what was made was refused, as all the rest will be. -/
  | silent (made : s.made = []) (refuses : s.nodeTold = true → s.Refuses)
  /-- Nowhere ever: nothing gets on the stream. -/
  | stuck (sent : s.transport.outbound.sent = [])
    (capacity : s.transport.outbound.capacity = some 0)
  /-- In the first request on the stream, and in no other one. -/
  | told (told : s.nodeTold = true) (first : Request) (rest : List Request)
    (sent : s.transport.outbound.sent = first :: rest) (node : first.node = some s.profile.node)
    (others : ∀ q ∈ rest ++ s.transport.outbound.waiting.map (·.2), q.node = none)

variable {who : String} {P : Draft → Prop} {s t : Session}

/-- The first request that is made is the first one on the stream, if it gets there. -/
theorem Introduced.of_silent (hlater : Later s t) (hact : Act who P s t) (hmade : s.made = [])
    (hrefuses : s.nodeTold = true → s.Refuses) : t.Introduced := by
  have hsilent : t.made = [] → t.nodeTold = s.nodeTold → t.Introduced := fun hnone htold ↦
    .silent hnone fun h ↦ (hrefuses (htold.symm.trans h)).later hlater
  obtain ⟨hsent, hwaiting⟩ := List.append_eq_nil_iff.mp hmade
  have hwaiting : s.transport.outbound.waiting = [] := List.map_eq_nil_iff.mp hwaiting
  cases hact with
  | refused hs hout _ =>
    refine .silent ?_ fun _ ↦ hs.later hlater
    rw [made, hout]
    exact hmade
  | accepted draft _ halive _ hout htold =>
    -- Had the node been told, it would be lost, and the stream would refuse this request too.
    have huntold : s.nodeTold = false := Bool.eq_false_iff.mpr fun h ↦ halive (hrefuses h)
    refine .told htold (s.makeRequest draft).1 [] ?_ ?_ ?_
    · rw [hout, hsent]
      rfl
    · rw [hlater.profile, makeRequest, huntold]
      rfl
    · rw [hout, hwaiting]
      exact fun _ hq ↦ absurd hq List.not_mem_nil
  | waits draft _ _ hfull hout _ =>
    refine .stuck (by rw [hout]; exact hsent) ?_
    rw [hout]
    exact Outbound.capacity_of_full hsent fun hroom ↦ hfull ⟨hwaiting, hroom⟩
  | aside hout htold =>
    refine hsilent ?_ htold
    rw [made, hout]
    exact hmade
  | withdrawn hout htold =>
    refine hsilent ?_ htold
    rw [made, hout, Outbound.withdraw, hsent, hwaiting]
    rfl

/-- Where there is never any room, nothing ever gets in. -/
theorem Introduced.of_stuck (hact : Act who P s t) (hsent : s.transport.outbound.sent = [])
    (hcapacity : s.transport.outbound.capacity = some 0) : t.Introduced := by
  cases hact with
  | accepted _ _ _ hroom _ _ => exact absurd hroom.2 (Outbound.not_hasRoom hcapacity)
  | aside hout _ | refused _ hout _ | waits _ _ _ _ hout _ | withdrawn hout _ =>
    exact .stuck (by rw [hout]; exact hsent) (by rw [hout]; exact hcapacity)

theorem Introduced.of_told (hlater : Later s t) (hact : Act who P s t) (htold : s.nodeTold = true)
    {first : Request} {rest : List Request}
    (hsent : s.transport.outbound.sent = first :: rest)
    (hnode : first.node = some s.profile.node)
    (hothers : ∀ q ∈ rest ++ s.transport.outbound.waiting.map (·.2), q.node = none) :
    t.Introduced := by
  rw [← hlater.profile] at hnode
  have hnext : ∀ draft, (s.makeRequest draft).1.node = none := by
    intro draft
    rw [makeRequest, htold]
    rfl
  -- All but one of the acts leave the stream as it is, and only change what waits.
  have hkept : t.nodeTold = true → t.transport.outbound.sent = s.transport.outbound.sent →
      (∀ q ∈ t.transport.outbound.waiting.map (·.2),
        q ∈ s.transport.outbound.waiting.map (·.2) ∨ q.node = none) → t.Introduced := by
    intro h hsame hwaiting
    refine .told h first rest (hsame.trans hsent) hnode fun q hq ↦ ?_
    rcases List.mem_append.mp hq with hq | hq
    · exact hothers q (List.mem_append_left _ hq)
    · rcases hwaiting q hq with hbefore | hnone
      · exact hothers q (List.mem_append_right _ hbefore)
      · exact hnone
  cases hact with
  | accepted draft _ _ hroom hout h =>
    refine .told h first (rest ++ [(s.makeRequest draft).1]) ?_ hnode fun q hq ↦ ?_
    · rw [hout, hsent]
      rfl
    · rw [hout, hroom.1, List.map_nil, List.append_nil, List.mem_append, List.mem_singleton] at hq
      rcases hq with hq | rfl
      · exact hothers q (List.mem_append_left _ hq)
      · exact hnext draft
  | waits draft _ _ _ hout h =>
    refine hkept h (by rw [hout]) fun q hq ↦ ?_
    rw [hout, List.map_append, List.mem_append, List.map_singleton, List.mem_singleton] at hq
    rcases hq with hq | rfl
    · exact .inl hq
    · exact .inr (hnext draft)
  | aside hout h =>
    exact hkept (h.trans htold) (by rw [hout]) fun q hq ↦ .inl (by rwa [hout] at hq)
  | refused _ hout h =>
    exact hkept h (by rw [hout]) fun q hq ↦ .inl (by rwa [hout] at hq)
  | withdrawn hout h =>
    refine hkept (h.trans htold) (by rw [hout]; rfl) fun q hq ↦ .inl ?_
    rw [hout] at hq
    exact Outbound.requests_withdraw_subset who hq

theorem Introduced.act (h : s.Introduced) (hlater : Later s t) (hact : Act who P s t) :
    t.Introduced := by
  cases h with
  | silent hmade hrefuses => exact .of_silent hlater hact hmade hrefuses
  | stuck hsent hcapacity => exact .of_stuck hact hsent hcapacity
  | told htold first rest hsent hnode hothers =>
    exact .of_told hlater hact htold hsent hnode hothers

theorem Introduced.served (h : s.Introduced) (m : Move) : (s.served m).Introduced := by
  cases m with
  | read =>
    obtain ⟨admitted, -, hread, hwaiting⟩ := s.transport.outbound.exists_readAll_eq
    cases h with
    | silent hmade hrefuses =>
      refine .silent ?_ fun htold ↦ (hrefuses htold).later (s.later_served .read)
      rw [made, ← s.transport.outbound.readAll_spec.2] at hmade
      exact hmade
    | stuck hsent hcapacity =>
      obtain ⟨hsame, hread⟩ := Outbound.readAll_of_full hcapacity
      exact .stuck (hsame.trans hsent) hread
    | told htold first rest hsent hnode hothers =>
      refine .told htold first (rest ++ admitted.map (·.2)) ?_ hnode fun q hq ↦ hothers q ?_
      · rw [hsent] at hread
        exact hread
      · rw [hwaiting, List.map_append, ← List.append_assoc]
        exact hq
  | refuse =>
    cases h with
    | silent hmade _ =>
      exact .silent (List.append_eq_nil_iff.mpr ⟨(List.append_eq_nil_iff.mp hmade).1, rfl⟩)
        fun _ ↦ .inr rfl
    | stuck hsent hcapacity => exact .stuck hsent hcapacity
    | told htold first rest hsent hnode hothers =>
      refine .told htold first rest hsent hnode fun q hq ↦ hothers q ?_
      exact List.mem_append_left _ (List.append_nil rest ▸ hq)
  | _ => exact h

/-! ## Plays -/

theorem Start.introduced {p : Profile} {keepsStore : Bool} (hs : Start p keepsStore s) :
    s.Introduced := by
  cases hs with
  | onStream => exact .silent rfl fun htold ↦ Bool.noConfusion htold
  | connected eventBuffer =>
    obtain ⟨mode, node, decoders⟩ := p
    cases mode with
    | complete =>
      exact .told rfl _ [] rfl rfl fun _ hq ↦ absurd hq List.not_mem_nil
    | incremental =>
      refine .told rfl _ [⟨{ typeUrl := ResourceKind.listener.typeUrl }, none⟩] rfl rfl ?_
      intro q hq
      obtain rfl := List.mem_singleton.mp hq
      rfl

theorem Introduced.play (h : s.Introduced) (moves : List Move) : (s.play moves).Introduced := by
  induction moves using List.reverseRecOn with
  | nil => exact h
  | append_singleton moves m ih =>
    rw [play_concat]
    exact (traffic_move (s.play moves) m).1.preserves (fun _ _ hlater hact h ↦ h.act hlater hact)
      (ih.served m)

/-- Among the requests that were accepted onto the stream of a session, the first one carries the
node of the session and no other one does: whoever makes the first request, and whichever requests
are refused, wait, or are given up, in either mode, from either beginning, and after every play. -/
theorem first_request_tells_node {p : Profile} {keepsStore : Bool} (hs : Start p keepsStore s)
    (moves : List Move) : (s.play moves).transport.outbound.sent.map (·.node) =
      (List.replicate (s.play moves).transport.outbound.sent.length none).set 0 (some p.node) := by
  cases hs.introduced.play moves with
  | silent hmade _ =>
    rw [(List.append_eq_nil_iff.mp hmade).1]
    rfl
  | stuck hsent _ =>
    rw [hsent]
    rfl
  | told _ first rest hsent hnode hothers =>
    have hrest : rest.map (·.node) = List.replicate rest.length none := by
      refine List.eq_replicate_iff.mpr ⟨List.length_map .., fun node hnode ↦ ?_⟩
      obtain ⟨q, hq, rfl⟩ := List.mem_map.mp hnode
      exact hothers q (List.mem_append_left _ hq)
    rw [hsent, List.map_cons, hnode, hs.profile_play, hrest]
    rfl

/-- Something unknown comes in before anybody begins the subscriptions. -/
def unknownFirst : List Move :=
  [.respond { typeUrl := "unknown", version := "1", nonce := "a", resources := [] }, .watch]

/-- The acknowledgement tells the node, and the first subscriptions do not. -/
theorem first_request_tells_node_unknownFirst :
    Start (.plain .incremental) true (fresh .incremental) ∧
      ((fresh .incremental).play unknownFirst).transport.outbound.sent.map (·.node) =
        [some (Profile.plain .incremental).node, none, none] ∧
      ((fresh .incremental).play unknownFirst).wire.map (·.nonce) = ["a", "", ""] := by
  have hlength :
      ((fresh .incremental).play unknownFirst).transport.outbound.sent.length = 3 := by
    decide +kernel
  have htold := first_request_tells_node (.fresh .incremental) unknownFirst
  rw [hlength] at htold
  exact ⟨.fresh .incremental, htold, by decide +kernel⟩

end Session

end ProxyFleet
