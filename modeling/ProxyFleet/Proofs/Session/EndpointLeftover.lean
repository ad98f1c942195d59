import ProxyFleet.Proofs.Session.EndpointRelease

/-!
# Endpoint assignments that are left over

In the incremental mode an endpoint assignment is given up when a cluster that needs it goes. A
cluster need not go to need something else: it can come in once more, with another service or with
another way of finding its endpoints. What it needed until then is not given up on that occasion,
and not when the cluster goes later, since then only what it needs at the end is looked at.

So a wanted assignment need not be needed by a cluster that is kept. It is left over from a response
that put other clusters in the places of all those that needed it, `Ledger.Displaces`, until some
response gives it up or brings a cluster that needs it. `Ledger.leftOver_reply` says this of one
response, and `Session.Settled` of a play.
-/

namespace ProxyFleet

namespace Ledger

/-- Some kept cluster needs an endpoint assignment. -/
def Needs (l : Ledger) (needed : String) : Prop :=
  ∃ name c, l.stored? .cluster name = some (.cluster c) ∧ c.endpointName? = some needed

/-- Every endpoint assignment that is wanted is needed by a kept cluster. -/
def WantsOnlyNeeded (l : Ledger) : Prop := ∀ needed ∈ l.watches.names .endpoint, l.Needs needed

/-- An endpoint assignment is wanted although no kept cluster needs it. -/
def LeftOver (l : Ledger) (needed : String) : Prop :=
  needed ∈ l.watches.names .endpoint ∧ ¬ l.Needs needed

/-- A response puts other clusters in the places of all those that need an endpoint assignment. It
was wanted and needed until then, or a cluster of the response itself needs it and is replaced by a
later one; and once all of them are kept, none needs it. -/
def Displaces (l : Ledger) (p : Profile) (r : Response) (needed : String) : Prop :=
  (needed ∈ l.watches.names .endpoint ∧ l.Needs needed ∨ needed ∈ p.endpointsWanted r) ∧
    ¬ ((p.decoded r).foldl storeOne l).Needs needed

/-! ## One response -/

variable {l : Ledger} {k : ResourceKind} {needed : String} {gone : List String}

/-- A cluster that goes gives up what it needs, also if its name is listed more than once. -/
theorem mem_forgetAll_snd {name : String} {c : Cluster} (hname : name ∈ gone)
    (hc : l.stored? .cluster name = some (.cluster c)) (hneeded : c.endpointName? = some needed) :
    needed ∈ (l.forgetAll .cluster gone).2 := by
  induction gone generalizing l with
  | nil => cases hname
  | cons first rest ih =>
    have hmore : (l.forgetAll .cluster (first :: rest)).2 =
        (releasedEndpoint? first (l.stored? .cluster first)).toList ++
          ((l.forget .cluster first).forgetAll .cluster rest).2 := rfl
    rw [hmore, List.mem_append]
    by_cases hfirst : name = first
    · left
      rw [← hfirst, hc, releasedEndpoint?, hneeded]
      exact List.mem_singleton_self needed
    · right
      have hrest : name ∈ rest := (List.mem_cons.mp hname).resolve_left hfirst
      have hkept : (l.forget .cluster first).stored? .cluster name = some (.cluster c) := by
        rw [stored?_forget, if_neg (fun h ↦ hfirst h.2)]
        exact hc
      exact ih hrest hkept

/-- Forgetting resources leaves those that need an assignment in place, or it is given up. -/
theorem needs_forgetAll_or_mem (h : l.Needs needed) :
    (l.forgetAll k gone).1.Needs needed ∨ needed ∈ (l.forgetAll k gone).2 := by
  obtain ⟨name, c, hc, hneeded⟩ := h
  by_cases hgone : ResourceKind.cluster = k ∧ name ∈ gone
  · obtain ⟨rfl, hname⟩ := hgone
    exact .inr (mem_forgetAll_snd hname hc hneeded)
  · refine .inl ⟨name, c, ?_, hneeded⟩
    rw [stored?_forgetAll, if_neg hgone]
    exact hc

variable (l) {p : Profile} (hp : p.mode = .incremental) (r : Response)

include hp

/-- After a response some kept cluster needs an assignment only if one did once all clusters of the
response were kept; and then it does, or the response gave the assignment up. -/
theorem needs_reply : ((l.reply p r).1.Needs needed →
      ((p.decoded r).foldl storeOne l).Needs needed) ∧
    (((p.decoded r).foldl storeOne l).Needs needed →
      (l.reply p r).1.Needs needed ∨ needed ∈ l.released p r) := by
  cases hk : ResourceKind.ofTypeUrl? r.typeUrl with
  | none =>
    have hdecoded : p.decoded r = [] := by rw [Profile.decoded, hk]
    rw [reply_of_none _ hk, hdecoded]
    exact ⟨id, Or.inl⟩
  | some k =>
    have hneeds : (l.reply p r).1.Needs needed ↔ (l.kept k p r).Needs needed := by
      rw [reply_incremental l hp hk]
      rfl
    rw [hneeds, released, hk]
    refine ⟨?_, needs_forgetAll_or_mem⟩
    rintro ⟨name, c, hc, hneeded⟩
    exact ⟨name, c, stored?_of_forgetAll hc, hneeded⟩

theorem needs_of_reply (h : (l.reply p r).1.Needs needed) :
    l.Needs needed ∨ needed ∈ p.endpointsWanted r := by
  obtain ⟨name, c, hc, hneeded⟩ := h
  rcases stored?_of_reply r hp hc with ⟨hmem, -⟩ | hc
  · exact .inr (Session.mem_endpointsWanted hmem hneeded)
  · exact .inl ⟨name, c, hc, hneeded⟩

/-- An assignment is left over after a response if it was and nothing in the response is about it,
or if the response displaces those who need it; unless the response gives it up. -/
theorem leftOver_reply : (l.reply p r).1.LeftOver needed ↔
    needed ∉ l.released p r ∧
      (l.Displaces p r needed ∨ l.LeftOver needed ∧ needed ∉ p.endpointsWanted r) := by
  rw [LeftOver, mem_names_endpoint_reply r hp]
  constructor
  · rintro ⟨⟨hwanted, hkept⟩, hunneeded⟩
    have hdisplaced : ¬ ((p.decoded r).foldl storeOne l).Needs needed := by
      intro h
      exact ((l.needs_reply hp r).2 h).elim hunneeded hkept
    refine ⟨hkept, ?_⟩
    by_cases hbrought : needed ∈ p.endpointsWanted r
    · exact .inl ⟨.inr hbrought, hdisplaced⟩
    · have hwanted := hwanted.resolve_right hbrought
      by_cases hneeded : l.Needs needed
      · exact .inl ⟨.inl ⟨hwanted, hneeded⟩, hdisplaced⟩
      · exact .inr ⟨⟨hwanted, hneeded⟩, hbrought⟩
  · rintro ⟨hkept, ⟨hwanted, hdisplaced⟩ | ⟨⟨hwanted, hunneeded⟩, hbrought⟩⟩
    · exact ⟨⟨hwanted.imp_left And.left, hkept⟩, fun h ↦ hdisplaced ((l.needs_reply hp r).1 h)⟩
    · exact ⟨⟨.inl hwanted, hkept⟩, fun h ↦ (l.needs_of_reply hp r h).elim hunneeded hbrought⟩

end Ledger

/-! ## On every play -/

namespace Session

/-- Whenever a response displaces all clusters that need an endpoint assignment, it gives the
assignment up, or a later one does, or a later one brings a cluster that needs it. -/
def Settled (s : Session) (moves : List Move) (needed : String) : Prop :=
  ∀ before r after, moves = before ++ .respond r :: after → (s.play before).receiver = .idle →
    (s.play before).ledger.Displaces s.profile r needed →
    needed ∈ (s.play before).ledger.released s.profile r ∨
    ∃ between q rest, after = between ++ .respond q :: rest ∧
      (s.play (before ++ .respond r :: between)).receiver = .idle ∧
      (needed ∈ s.profile.endpointsWanted q ∨
        needed ∈ (s.play (before ++ .respond r :: between)).ledger.released s.profile q)

variable (s : Session)

theorem mem_hears_respond {r : Response} (hidle : s.receiver = .idle) :
    r ∈ s.hears (.respond r) := by
  rw [hears, if_pos hidle]
  exact List.mem_singleton_self r

theorem settled_concat (moves : List Move) (m : Move) (needed : String) :
    s.Settled (moves ++ [m]) needed ↔
      (s.Settled moves needed ∨ ∃ q ∈ (s.play moves).hears m,
        needed ∈ s.profile.endpointsWanted q ∨
          needed ∈ (s.play moves).ledger.released s.profile q) ∧
      ∀ r ∈ (s.play moves).hears m, (s.play moves).ledger.Displaces s.profile r needed →
        needed ∈ (s.play moves).ledger.released s.profile r := by
  constructor
  · intro h
    constructor
    · by_cases hm : ∃ q ∈ (s.play moves).hears m, needed ∈ s.profile.endpointsWanted q ∨
          needed ∈ (s.play moves).ledger.released s.profile q
      · exact .inr hm
      left
      intro before r after hmoves hidle hdisplaced
      subst hmoves
      have hsplit : before ++ .respond r :: after ++ [m] =
          before ++ .respond r :: (after ++ [m]) := by rw [List.append_assoc, List.cons_append]
      rcases h before r (after ++ [m]) hsplit hidle hdisplaced with hreleased |
        ⟨between, q, rest, hafter, hidle', hq⟩
      · exact .inl hreleased
      rcases List.eq_nil_or_concat rest with rfl | ⟨rest, m', rfl⟩
      · -- The last move is what settles the matter, but it does not.
        obtain ⟨rfl, hlast⟩ := List.append_inj' hafter rfl
        obtain rfl := List.singleton_inj.mp hlast
        exact absurd ⟨q, mem_hears_respond _ hidle', hq⟩ hm
      · rw [List.concat_eq_append, ← List.cons_append, ← List.append_assoc] at hafter
        obtain ⟨rfl, -⟩ := List.append_inj' hafter rfl
        exact .inr ⟨between, q, rest, rfl, hidle', hq⟩
    · intro r hr hdisplaced
      obtain ⟨rfl, hidle⟩ := (s.play moves).eq_of_mem_hears hr
      rcases h moves r [] rfl hidle hdisplaced with hreleased | ⟨between, q, rest, hnil, -⟩
      · exact hreleased
      · exact absurd hnil (by simp)
  · rintro ⟨hsettled, hlast⟩ before r after hmoves hidle hdisplaced
    rcases List.eq_nil_or_concat after with rfl | ⟨after, m', rfl⟩
    · -- The last move is the one that displaces clusters.
      obtain ⟨rfl, hm⟩ := List.append_inj' hmoves rfl
      obtain rfl := List.singleton_inj.mp hm
      exact .inl (hlast r (mem_hears_respond _ hidle) hdisplaced)
    · rw [List.concat_eq_append] at hmoves ⊢
      rw [← List.cons_append, ← List.append_assoc] at hmoves
      obtain ⟨rfl, hm⟩ := List.append_inj' hmoves rfl
      obtain rfl := List.singleton_inj.mp hm
      rcases hsettled with hsettled | ⟨q, hq, hneeded⟩
      · rcases hsettled before r after rfl hidle hdisplaced with hreleased |
          ⟨between, q, rest, rfl, hidle', hq⟩
        · exact .inl hreleased
        · refine .inr ⟨between, q, rest ++ [m], ?_, hidle', hq⟩
          rw [List.append_assoc, List.cons_append]
      · obtain ⟨rfl, hidle'⟩ := (s.play _).eq_of_mem_hears hq
        exact .inr ⟨after, q, [], rfl, hidle', hneeded⟩

section

variable {s} {p : Profile} {keepsStore : Bool} (hs : Start p keepsStore s)
variable (hp : p.mode = .incremental) {moves : List Move}

include hs hp

/-- An assignment is not left over if and only if all that left it over is settled. -/
theorem not_leftOver_play_iff (hopen : (s.play moves).isClosed = false) (needed : String) :
    ¬ (s.play moves).ledger.LeftOver needed ↔ s.Settled moves needed := by
  have hprofile : s.profile = p := hs.profile_play []
  induction moves using List.reverseRecOn with
  | nil =>
    have hnothing : needed ∉ s.ledger.watches.names .endpoint := by
      intro h
      obtain ⟨⟨q, hq, -⟩, -⟩ := (mem_names_endpoint_play hs hp hopen needed).mp h
      cases hq
    refine iff_of_true (fun h ↦ hnothing h.1) ?_
    intro before r after hmoves
    exact absurd hmoves (by simp)
  | append_singleton moves m ih =>
    have hbefore : s.Settled moves needed ↔ ¬ (s.play moves).ledger.LeftOver needed :=
      (ih (hs.open_of_append hopen)).symm
    rw [isClosed, hs.latched, play_concat] at hopen
    rw [settled_concat, play_concat, hprofile, hbefore]
    rcases move_cases (hs.latched moves) m hopen with
      ⟨hheard, -, -, hledger⟩ | ⟨hheard, -, -, hledger⟩ | ⟨r, hheard, -, -, hledger⟩
    · rw [hheard, hledger]
      simp
    · have hsame : ((s.play moves).ledger.beginWatch p.mode).LeftOver needed ↔
          (s.play moves).ledger.LeftOver needed := by
        rw [Ledger.LeftOver, Ledger.names_endpoint_beginWatch _ hp]
        rfl
      rw [hheard, hledger, hs.profile_play, hsame]
      simp
    · rw [hheard, hledger, hs.profile_play, Ledger.leftOver_reply _ hp]
      simp only [List.mem_singleton, exists_eq_left, forall_eq]
      tauto

/-- In every open session of the incremental mode, each endpoint assignment that is wanted is needed
by a kept cluster if and only if, whenever a response displaced all clusters that need one, it was
given up or needed again. -/
theorem only_needed_endpoints_iff (moves : List Move) (hopen : (s.play moves).isClosed = false) :
    (s.play moves).ledger.WantsOnlyNeeded ↔ ∀ needed, s.Settled moves needed := by
  constructor
  · intro h needed
    rw [← not_leftOver_play_iff hs hp hopen]
    rintro ⟨hwanted, hunneeded⟩
    exact hunneeded (h needed hwanted)
  · intro h needed hwanted
    by_contra hunneeded
    exact (not_leftOver_play_iff hs hp hopen needed).mpr (h needed) ⟨hwanted, hunneeded⟩

end

/-- A response with a cluster of a one-letter name that needs the assignment of its own name. -/
def ownEndpointPush (nonce : String) (letter : UInt8) : Response where
  typeUrl := ResourceKind.cluster.typeUrl
  version := "1"
  nonce := nonce
  resources := [some ⟨ResourceKind.cluster.typeUrl, [0x0a, 1, letter, 0x10, 3]⟩]

/-- A cluster comes in with a service, and then once more without. -/
def changedService : List Move :=
  [.respond (clusterPush "a" [0x61] []), .respond (ownEndpointPush "b" 0x61)]

theorem only_needed_endpoints_iff_changedService :
    ((plain .incremental).play changedService).isClosed = false ∧
      (((plain .incremental).play changedService).ledger.WantsOnlyNeeded ↔
        ∀ needed, (plain .incremental).Settled changedService needed) := by
  have hopen : ((plain .incremental).play changedService).isClosed = false := by decide +kernel
  exact ⟨hopen, only_needed_endpoints_iff (.plain .incremental) rfl changedService hopen⟩

/-- The assignment of the service is then left over: the only kept cluster needs another one. -/
theorem not_always_wants_only_needed :
    ¬ ∀ (p : Profile) (s : Session) (moves : List Move), Start p true s → p.mode = .incremental →
      (s.play moves).isClosed = false → (s.play moves).ledger.WantsOnlyNeeded := by
  intro h
  obtain ⟨name, c, hc, hneeded⟩ := h (.plain .incremental) (plain .incremental) changedService
    (.plain .incremental) rfl (by decide +kernel) "s" (by decide +kernel)
  have hkept :
      (((plain .incremental).play changedService).ledger.responses.entries .cluster).entries =
        [("a", .cluster ⟨"a", none, 0, "", some (.standard 3), none⟩)] := by decide +kernel
  rw [Ledger.stored?_eq_find?_responses, Store.find?, NameMap.find?_eq_some_iff, hkept,
    List.mem_singleton, Prod.mk.injEq, Resource.cluster.injEq] at hc
  obtain ⟨-, rfl⟩ := hc
  revert hneeded
  decide

end Session

end ProxyFleet
