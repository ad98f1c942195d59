import ProxyFleet.Proofs.Session.Complete
import ProxyFleet.Proofs.Session.Course
import ProxyFleet.Proofs.Store.Lookup

/-!
# Subscriptions mirror the latest push

In the complete mode what a session wants is a function of what it heard: the names that the last
response of a kind needs, whatever came in before it, and whatever came in since of other kinds.
`Ledger.Tracks` is the invariant, uniform over the kinds. `Ledger.Mirrors` and `Ledger.Covers` are
what it means for the subscriptions one by one, and for the resources that are kept.

A response that says what the last one of its type said therefore changes nothing, and is answered
by its acknowledgement alone.
-/

namespace ProxyFleet

/-! ## The latest response -/

/-- The last response of a type. -/
def latest? (rs : List Response) (typeUrl : String) : Option Response :=
  (rs.filter (·.typeUrl = typeUrl)).getLast?

/-- The resources of the last response of a kind; none if there was none. -/
def Profile.latest (p : Profile) (rs : List Response) (k : ResourceKind) : List Resource :=
  match latest? rs k.typeUrl with
  | some r => p.decoded r
  | none => []

theorem latest?_concat (rs : List Response) (r : Response) (typeUrl : String) :
    latest? (rs ++ [r]) typeUrl = if r.typeUrl = typeUrl then some r else latest? rs typeUrl := by
  rw [latest?, getLast?_filter_concat, latest?]
  simp only [decide_eq_true_eq]

theorem Profile.latest_concat (p : Profile) (rs : List Response) (r : Response) (k : ResourceKind) :
    p.latest (rs ++ [r]) k = if r.typeUrl = k.typeUrl then p.decoded r else p.latest rs k := by
  rw [latest, latest?_concat]
  by_cases h : r.typeUrl = k.typeUrl
  · rw [if_pos h, if_pos h]
  · rw [if_neg h, if_neg h, latest]

/-! ## What one resource of a batch needs -/

theorem mem_endpointNames {clusters : List Cluster} {name : String} :
    name ∈ endpointNames clusters ↔ ∃ c ∈ clusters, c.endpointName? = some name := by
  rw [endpointNames, NameSet.mem_ofList, List.mem_filterMap]

theorem mem_listenerNeeds {listeners : List Listener} {x : Listener} (hx : x ∈ listeners)
    (name : String) :
    (name ∈ (listenerNeeds [x]).routes → name ∈ (listenerNeeds listeners).routes) ∧
    (name ∈ (listenerNeeds [x]).secrets → name ∈ (listenerNeeds listeners).secrets) ∧
    (name ∈ (listenerNeeds [x]).extensions → name ∈ (listenerNeeds listeners).extensions) := by
  have hchains : ∀ names,
      name ∈ namesInChains [x] names → name ∈ namesInChains listeners names := by
    intro names h
    rw [namesInChains, List.mem_flatMap] at h ⊢
    obtain ⟨y, hy, h⟩ := h
    exact ⟨x, hx, List.mem_singleton.mp hy ▸ h⟩
  simp only [listenerNeeds, properNames, NameSet.mem_ofList, List.mem_filter]
  exact ⟨And.imp_left (hchains _), And.imp_left (hchains _), And.imp_left (hchains _)⟩

namespace Ledger

/-- What a ledger has of what it heard: it wants what the last response of each kind needs, and of
each kind it keeps nothing else than what came with that. -/
structure Tracks (l : Ledger) (p : Profile) (rs : List Response) : Prop where
  /-- The wanted names are those that the last resources need. -/
  wants : ∀ k j names,
    (j, names) ∈ derivedSubscriptions k (p.latest rs k) → l.watches.names j = names
  /-- The kept resources are among the last ones. -/
  keeps : ∀ k name x, l.stored? k name = some x → x ∈ p.latest rs k

/-- The derived subscriptions, one by one: they are what the clusters of the last response of
clusters and the listeners of the last response of listeners need. -/
structure Mirrors (l : Ledger) (p : Profile) (rs : List Response) : Prop where
  endpoints : l.watches.names .endpoint = endpointNames (clustersIn (p.latest rs .cluster))
  routes : l.watches.names .route = (listenerNeeds (listenersIn (p.latest rs .listener))).routes
  secrets : l.watches.names .secret = (listenerNeeds (listenersIn (p.latest rs .listener))).secrets
  extensions : l.watches.names .extension =
    (listenerNeeds (listenersIn (p.latest rs .listener))).extensions

/-- What the kept clusters and listeners need is wanted. -/
structure Covers (l : Ledger) : Prop where
  /-- The endpoint assignments of kept clusters. -/
  endpoints : ∀ name c needed, l.stored? .cluster name = some (.cluster c) →
    c.endpointName? = some needed → needed ∈ l.watches.names .endpoint
  /-- The route configurations of kept listeners. -/
  routes : ∀ name x, l.stored? .listener name = some (.listener x) →
    ∀ needed ∈ (listenerNeeds [x]).routes, needed ∈ l.watches.names .route
  /-- The secrets of kept listeners. -/
  secrets : ∀ name x, l.stored? .listener name = some (.listener x) →
    ∀ needed ∈ (listenerNeeds [x]).secrets, needed ∈ l.watches.names .secret
  /-- The configurations of extensions of kept listeners. -/
  extensions : ∀ name x, l.stored? .listener name = some (.listener x) →
    ∀ needed ∈ (listenerNeeds [x]).extensions, needed ∈ l.watches.names .extension

namespace Tracks

variable {l : Ledger} {p : Profile} {rs : List Response}

theorem new (keepsStore : Bool) : (Ledger.new keepsStore).Tracks p [] := by
  refine ⟨fun k j names h ↦ ?_, fun k name x h ↦ ?_⟩
  · have hnothing : ∀ c ∈ derivedSubscriptions k [], c.2 = .empty := by
      cases k <;> decide
    exact (WatchTable.names_empty j).trans (hnothing _ h).symm
  · rw [stored?_new] at h
    cases h

theorem beginWatch (h : l.Tracks p rs) (hp : p.mode = .complete) :
    (l.beginWatch p.mode).Tracks p rs := by
  refine ⟨fun k j names hj ↦ ?_, h.keeps⟩
  rw [← h.wants k j names hj, hp]
  refine (WatchTable.names_update ..).trans (if_neg ?_)
  rintro rfl
  have hneeded := mem_needed_of_mem_derivedSubscriptions hj
  revert hneeded
  cases k <;> decide

theorem reply (h : l.Tracks p rs) (hp : p.mode = .complete) (r : Response) :
    (l.reply p r).1.Tracks p (rs ++ [r]) := by
  cases hk : ResourceKind.ofTypeUrl? r.typeUrl with
  | none =>
    have hother : ∀ k, p.latest (rs ++ [r]) k = p.latest rs k := by
      intro k
      rw [Profile.latest_concat, if_neg]
      intro hurl
      rw [hurl, ResourceKind.ofTypeUrl?_typeUrl] at hk
      cases hk
    rw [reply_of_none _ hk]
    exact ⟨fun k j names hj ↦ h.wants k j names (hother k ▸ hj),
      fun k name x hx ↦ hother k ▸ h.keeps k name x hx⟩
  | some k =>
    -- Of its own kind the response is now the last one, and of the others another one still is.
    have hurl := ResourceKind.ofTypeUrl?_eq_some_iff.mp hk
    have hsame : p.latest (rs ++ [r]) k = p.decoded r := by rw [Profile.latest_concat, if_pos hurl]
    have hother : ∀ k', k' ≠ k → p.latest (rs ++ [r]) k' = p.latest rs k' := by
      intro k' hne
      rw [Profile.latest_concat, if_neg]
      rw [hurl, ← ResourceKind.ofTypeUrl?_eq_some_iff, ResourceKind.ofTypeUrl?_typeUrl]
      exact fun heq ↦ hne (Option.some_inj.mp heq).symm
    rw [reply_of_some _ hk, hp]
    refine ⟨fun k' j names hj ↦ ?_, fun k' name x hx ↦ ?_⟩
    · by_cases hne : k' = k
      · subst hne
        rw [hsame] at hj
        exact names_digestComplete_of_mem _ _ _ _ hj
      · rw [hother k' hne] at hj
        have hneeded := mem_needed_of_mem_derivedSubscriptions hj
        rw [← h.wants k' j names hj]
        refine names_digestComplete_of_not_mem _ _ _ _ (fun hj ↦ ?_) ?_
        · exact hne (ResourceKind.eq_of_mem_needed hneeded hj)
        · rintro rfl
          exact k'.listener_not_mem_needed hneeded
    · -- The store holds what the response brought, and of other kinds what it held.
      have hx := stored?_storeAll l (j := k') (k := k) hx
      split at hx
      · next hkk =>
        rw [hkk, hsame]
        exact hx
      · next hne =>
        rw [hother k' hne]
        exact h.keeps k' name x hx

theorem mirrors (h : l.Tracks p rs) : l.Mirrors p rs where
  endpoints := h.wants .cluster _ _ List.mem_cons_self
  routes := h.wants .listener _ _ List.mem_cons_self
  secrets := h.wants .listener _ _ (List.mem_cons_of_mem _ List.mem_cons_self)
  extensions := h.wants .listener _ _
    (List.mem_cons_of_mem _ (List.mem_cons_of_mem _ List.mem_cons_self))

theorem covers (h : l.Tracks p rs) : l.Covers := by
  have hlistener : ∀ name x, l.stored? .listener name = some (.listener x) →
      x ∈ listenersIn (p.latest rs .listener) := fun name x hx ↦
    List.mem_filterMap.mpr ⟨_, h.keeps _ _ _ hx, rfl⟩
  refine ⟨fun name c needed hc hneeded ↦ ?_, fun name x hx needed hneeded ↦ ?_,
    fun name x hx needed hneeded ↦ ?_, fun name x hx needed hneeded ↦ ?_⟩
  · rw [h.mirrors.endpoints, mem_endpointNames]
    exact ⟨c, List.mem_filterMap.mpr ⟨_, h.keeps _ _ _ hc, rfl⟩, hneeded⟩
  · rw [h.mirrors.routes]
    exact (mem_listenerNeeds (hlistener name x hx) needed).1 hneeded
  · rw [h.mirrors.secrets]
    exact (mem_listenerNeeds (hlistener name x hx) needed).2.1 hneeded
  · rw [h.mirrors.extensions]
    exact (mem_listenerNeeds (hlistener name x hx) needed).2.2 hneeded

end Tracks

end Ledger

/-! ## On every play -/

theorem mem_of_latest? {rs : List Response} {typeUrl : String} {r : Response}
    (h : latest? rs typeUrl = some r) : r ∈ rs ∧ r.typeUrl = typeUrl := by
  obtain ⟨hmem, hurl⟩ := List.mem_filter.mp (List.mem_of_getLast? h)
  exact ⟨hmem, of_decide_eq_true hurl⟩

theorem Profile.latest_concat_of_repeated (p : Profile) {rs : List Response} {q r : Response}
    (hq : latest? rs r.typeUrl = some q) (hpayloads : q.payloads = r.payloads) (k : ResourceKind) :
    p.latest (rs ++ [r]) k = p.latest rs k := by
  rw [latest_concat]
  by_cases hurl : r.typeUrl = k.typeUrl
  · rw [if_pos hurl, latest, ← hurl, hq]
    dsimp only
    rw [decoded, decoded, (mem_of_latest? hq).2, hpayloads]
  · rw [if_neg hurl]

theorem answer_of_same {past : List Response} {r : Response} {before after : WatchTable}
    (hsame : ∀ k ∈ ResourceKind.everNeeded, after.names k = before.names k)
    (hpast : r.bringsClusters = true → past.any Response.bringsClusters = true) :
    answer past r before after =
      [{ typeUrl := r.typeUrl, version := r.version, nonce := r.nonce
         names := after.namesUnder r.typeUrl }] := by
  have hnone : before.resubscriptions after = [] := by
    rw [WatchTable.resubscriptions, List.map_eq_nil_iff, List.filter_eq_nil_iff]
    intro k hk
    rw [decide_eq_true_iff]
    exact not_not_intro (hsame k hk)
  rw [answer, hnone, if_neg (fun h ↦ h.2 (hpast h.1))]
  rfl

namespace Session

section

variable {s : Session} {p : Profile} {keepsStore : Bool} (hs : Start p keepsStore s)
variable (hp : p.mode = .complete)

include hs hp

theorem tracks_play {moves : List Move} (hopen : (s.play moves).isClosed = false) :
    (s.play moves).ledger.Tracks p (s.heard moves) :=
  hs.ledger_induction (P := fun rs l ↦ l.Tracks p rs) (.new keepsStore)
    (fun _ _ h ↦ h.beginWatch hp) (fun _ _ r h ↦ h.reply hp r) moves hopen

theorem asks_of_repeated {moves : List Move} {q r : Response}
    (hidle : (s.play moves).receiver = .idle)
    (hopen : (s.play (moves ++ [.respond r])).isClosed = false)
    (hq : latest? (s.heard moves) r.typeUrl = some q) (hpayloads : q.payloads = r.payloads) :
    (s.play moves).asks (.respond r) =
      [{ typeUrl := r.typeUrl, version := r.version, nonce := r.nonce
         names := (s.play (moves ++ [.respond r])).ledger.watches.namesUnder r.typeUrl }] := by
  have htracks := tracks_play hs hp (hs.open_of_append hopen)
  have htracks' := tracks_play hs hp hopen
  rw [heard_concat, hears, if_pos hidle] at htracks'
  rw [hs.asks_respond hp hidle hopen]
  -- The last resources of every kind are the same before and after, and so is what they need.
  refine answer_of_same (fun j hj ↦ ?_) (fun hr ↦ ?_)
  · obtain ⟨k, names, hmem⟩ : ∃ k names, (j, names) ∈
        derivedSubscriptions k (p.latest (s.heard moves) k) := by
      obtain ⟨k, -, hk⟩ := ResourceKind.exists_mem_needed j hj
      rw [← map_fst_derivedSubscriptions k (p.latest (s.heard moves) k)] at hk
      obtain ⟨⟨_, names⟩, hmem, rfl⟩ := List.mem_map.mp hk
      exact ⟨k, names, hmem⟩
    have hmem' := hmem
    rw [← p.latest_concat_of_repeated hq hpayloads k] at hmem'
    exact (htracks'.wants k j names hmem').trans (htracks.wants k j names hmem).symm
  · obtain ⟨hmem, hurl⟩ := mem_of_latest? hq
    refine List.any_eq_true.mpr ⟨q, hmem, ?_⟩
    rw [Response.bringsClusters, hurl]
    exact hr

/-- In every open session of the complete mode the derived subscriptions are what the last clusters
and the last listeners need, and what is kept of these has what it needs. While a response is
processed requests are made for just the kinds whose names differ from before, and none if it says
what the last one of its type said. -/
theorem subscriptions_mirror_latest (moves : List Move) (hopen : (s.play moves).isClosed = false) :
    (s.play moves).ledger.Mirrors p (s.heard moves) ∧ (s.play moves).ledger.Covers ∧
    ∀ r, (s.play moves).receiver = .idle → (s.play (moves ++ [.respond r])).isClosed = false →
      (s.play moves).asks (.respond r) = answer (s.heard moves) r (s.play moves).ledger.watches
        (s.play (moves ++ [.respond r])).ledger.watches ∧
      (∀ q, latest? (s.heard moves) r.typeUrl = some q → q.payloads = r.payloads →
        (s.play moves).asks (.respond r) =
          [{ typeUrl := r.typeUrl, version := r.version, nonce := r.nonce
             names := (s.play (moves ++ [.respond r])).ledger.watches.namesUnder r.typeUrl }]) ∧
      (s.AllAccepted (moves ++ [.respond r]) → (s.play (moves ++ [.respond r])).wire =
        (s.play moves).wire ++ (s.play moves).asks (.respond r)) := by
  have htracks := tracks_play hs hp hopen
  refine ⟨htracks.mirrors, htracks.covers, fun r hidle hafter ↦ ⟨hs.asks_respond hp hidle hafter,
    fun q ↦ asks_of_repeated hs hp hidle hafter, fun haccepted ↦ ?_⟩⟩
  exact hs.wire_concat hidle hafter haccepted

end

/-- Two clusters that share an assignment make one subscription. -/
theorem subscriptions_mirror_pushTwice :
    ((plain .complete).play pushTwice).isClosed = false ∧
      ((plain .complete).play pushTwice).ledger.watches.names .endpoint = .ofList ["s"] := by
  have hmirror := subscriptions_mirror_latest (.plain .complete) rfl pushTwice
    (open_pushTwice .complete)
  refine ⟨open_pushTwice .complete, hmirror.1.endpoints.trans ?_⟩
  decide +kernel

end Session

end ProxyFleet
