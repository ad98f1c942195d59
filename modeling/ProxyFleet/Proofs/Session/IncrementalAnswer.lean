import ProxyFleet.Proofs.Session.Acknowledgement
import ProxyFleet.Proofs.Session.Mirror
import ProxyFleet.Proofs.Session.Parts

/-!
# Answers in the incremental mode

In the incremental mode a response can change what is wanted in three ways: new endpoint
assignments, new route configurations, and endpoint assignments that are given up. Its answer is a
request for each way in which it does, with all the names at once, and then the acknowledgement.
`Changes` are the names, `Ledger.changes` says which they are for a response, and `Changes.Lead`
that they are all there is to tell: nothing else happens to what is wanted, and nothing is told that
was so before.

The three changes are made one after the other. A response can bring a cluster and say that it is
gone; then the assignment is added and given up, and the answer says both.

On the stream the answers stand one behind the other in the order of the responses, `Session.asked`.
-/

namespace ProxyFleet

/-! ## The answer to one response -/

/-- How a response changes what is wanted in the incremental mode. -/
structure Changes where
  /-- The endpoint assignments that are wanted from now on. -/
  endpoints : NameSet
  /-- The route configurations that are wanted from now on. -/
  routes : NameSet
  /-- The endpoint assignments that are given up, once the others are wanted. -/
  dropped : NameSet

namespace Changes

/-- The requests that tell of the changes: one for each way in which something changes. -/
def requests (c : Changes) : List Draft :=
  (if c.endpoints = .empty then []
    else [{ typeUrl := ResourceKind.endpoint.typeUrl, names := c.endpoints }]) ++
  (if c.routes = .empty then []
    else [{ typeUrl := ResourceKind.route.typeUrl, names := c.routes }]) ++
  if c.dropped = .empty then []
    else [{ typeUrl := ResourceKind.endpoint.typeUrl, dropped := c.dropped }]

theorem mem_requests {c : Changes} {d : Draft} : d ∈ c.requests ↔
    (c.endpoints ≠ .empty ∧
      d = { typeUrl := ResourceKind.endpoint.typeUrl, names := c.endpoints }) ∨
    (c.routes ≠ .empty ∧ d = { typeUrl := ResourceKind.route.typeUrl, names := c.routes }) ∨
    (c.dropped ≠ .empty ∧
      d = { typeUrl := ResourceKind.endpoint.typeUrl, dropped := c.dropped }) := by
  rw [requests, List.mem_append, List.mem_append, or_assoc]
  simp only [List.mem_ite_nil_left, List.mem_singleton]

/-- The changes are what leads from one table to another. -/
structure Lead (c : Changes) (before after : WatchTable) : Prop where
  /-- What comes to be wanted was not wanted. -/
  new_endpoints : ∀ x ∈ c.endpoints, x ∉ before.names .endpoint
  /-- What comes to be wanted was not wanted. -/
  new_routes : ∀ x ∈ c.routes, x ∉ before.names .route
  /-- What is given up was wanted, at the latest since the same response. -/
  dropped : ∀ x ∈ c.dropped, x ∈ before.names .endpoint ∨ x ∈ c.endpoints
  /-- This is all that happens to endpoint assignments. -/
  endpoints : after.names .endpoint = ((before.names .endpoint).union c.endpoints).diff c.dropped
  /-- This is all that happens to route configurations. -/
  routes : after.names .route = (before.names .route).union c.routes
  /-- What is wanted of other kinds stays. -/
  others : ∀ k, k ≠ .endpoint → k ≠ .route → after.names k = before.names k

end Changes

namespace Ledger

variable (l : Ledger) (p : Profile) (r : Response)

/-- How a response changes what is wanted, given what is remembered when it comes in. -/
def changes : Changes where
  endpoints := (NameSet.ofList (p.endpointsWanted r)).diff (l.watches.names .endpoint)
  routes := (NameSet.ofList (p.routesWanted r)).diff (l.watches.names .route)
  dropped := (NameSet.ofList (l.released p r)).filter fun x ↦
    x ∈ l.watches.names .endpoint ∨ x ∈ p.endpointsWanted r

theorem changes_of_none (hk : ResourceKind.ofTypeUrl? r.typeUrl = none) :
    (l.changes p r).requests = [] := by
  obtain ⟨hendpoints, hroutes, hreleased⟩ := l.nothing_of_none (p := p) hk
  have hempty : ∀ names, (NameSet.ofList []).diff names = .empty := by
    intro names
    ext x
    simp [NameSet.not_mem_empty]
  rw [changes, hendpoints, hroutes, hreleased, hempty, hempty]
  rfl

variable {p} (hp : p.mode = .incremental)

include hp

theorem reply_snd_incremental :
    (l.reply p r).2 = (l.changes p r).requests ++ [{ typeUrl := r.typeUrl, nonce := r.nonce }] := by
  cases hk : ResourceKind.ofTypeUrl? r.typeUrl with
  | none =>
    rw [reply_of_none _ hk, changes_of_none l p r hk, hp]
    rfl
  | some k =>
    have hnoted : ∀ j, (l.noted k r).names j = l.watches.names j :=
      fun j ↦ WatchTable.names_recordAck ..
    have hendpoints : ((l.noted k r).subscribe .endpoint (p.endpointsWanted r)).1 =
        (l.changes p r).endpoints := by
      ext x
      rw [WatchTable.mem_subscribe_fst, hnoted, changes, NameSet.mem_diff, NameSet.mem_ofList]
    have hroutes : ((l.withEndpoints k p r).subscribe .route (p.routesWanted r)).1 =
        (l.changes p r).routes := by
      ext x
      rw [WatchTable.mem_subscribe_fst, withEndpoints, WatchTable.mem_names_subscribe, hnoted,
        changes, NameSet.mem_diff, NameSet.mem_ofList]
      simp
    have hdropped : ((l.withRoutes k p r).unsubscribe .endpoint (l.released p r)).1 =
        (l.changes p r).dropped := by
      ext x
      rw [WatchTable.mem_unsubscribe_fst, withRoutes, WatchTable.mem_names_subscribe, withEndpoints,
        WatchTable.mem_names_subscribe, hnoted, changes, NameSet.mem_filter, NameSet.mem_ofList]
      simp
    rw [reply_incremental l hp hk, hendpoints, hroutes, hdropped, subscription_eq, subscription_eq,
      unsubscription_eq]
    rfl

theorem lead_reply : (l.changes p r).Lead l.watches (l.reply p r).1.watches where
  new_endpoints x hx := (NameSet.mem_diff.mp hx).2
  new_routes x hx := (NameSet.mem_diff.mp hx).2
  dropped x hx := by
    have hwanted := of_decide_eq_true (NameSet.mem_filter.mp hx).2
    by_cases hbefore : x ∈ l.watches.names .endpoint
    · exact .inl hbefore
    · have hbrought : x ∈ p.endpointsWanted r := hwanted.resolve_left hbefore
      exact .inr (NameSet.mem_diff.mpr ⟨NameSet.mem_ofList.mpr hbrought, hbefore⟩)
  endpoints := by
    ext x
    rw [mem_names_reply_incremental l hp, changes]
    simp only [NameSet.mem_diff, NameSet.mem_union, NameSet.mem_filter, NameSet.mem_ofList,
      decide_eq_true_eq, true_and, reduceCtorEq, false_and, or_false]
    tauto
  routes := by
    ext x
    rw [mem_names_reply_incremental l hp, changes]
    simp only [NameSet.mem_diff, NameSet.mem_union, NameSet.mem_ofList, true_and, reduceCtorEq,
      false_and, false_or, not_false_eq_true, and_true]
    tauto
  others k hendpoint hroute := by
    ext x
    rw [mem_names_reply_incremental l hp]
    simp [hendpoint, hroute]

/-! ## What is on record -/

omit hp

/-- What is on record of the responses that came in. -/
structure Records (l : Ledger) (rs : List Response) : Prop where
  /-- Of each kind the nonce and version of its last response, and blank ones if there was none. -/
  mark : ∀ k, l.watches.mark k =
    ((latest? rs k.typeUrl).map fun r ↦ (r.nonce, r.version)).getD ("", "")
  /-- There is an entry for each kind of which there was a response. -/
  begun : ∀ k, (latest? rs k.typeUrl).isSome → l.watches.begun k = true

theorem records_new (keepsStore : Bool) : (Ledger.new keepsStore).Records [] where
  mark k := by
    change WatchTable.mark .empty k = _
    rw [WatchTable.mark, WatchTable.find?_empty]
    rfl
  begun k h := by cases h

variable {l} {rs : List Response}

theorem Records.beginWatch (h : l.Records rs) (hp : p.mode = .incremental) :
    (l.beginWatch p.mode).Records rs := by
  rw [hp]
  constructor
  · intro k
    refine ((WatchTable.mark_update ..).trans ?_).trans (h.mark k)
    exact WatchTable.mark_update ..
  · intro k hk
    change ((l.watches.update .cluster []).update .listener []).begun k = true
    rw [WatchTable.begun_update, WatchTable.begun_update, h.begun k hk]
    rfl

theorem Records.reply (h : l.Records rs) (hp : p.mode = .incremental) :
    (l.reply p r).1.Records (rs ++ [r]) := by
  cases hk : ResourceKind.ofTypeUrl? r.typeUrl with
  | none =>
    have hother : ∀ j : ResourceKind, latest? (rs ++ [r]) j.typeUrl = latest? rs j.typeUrl := by
      intro j
      rw [latest?_concat, if_neg]
      intro hurl
      rw [hurl, ResourceKind.ofTypeUrl?_typeUrl] at hk
      cases hk
    rw [reply_of_none _ hk]
    constructor
    · intro j
      rw [hother]
      exact h.mark j
    · intro j hj
      rw [hother] at hj
      exact h.begun j hj
  | some k =>
    have hurl : ∀ j : ResourceKind, r.typeUrl = j.typeUrl ↔ j = k := by
      intro j
      rw [ResourceKind.ofTypeUrl?_eq_some_iff.mp hk, ResourceKind.typeUrl_inj, eq_comm]
    constructor
    · intro j
      rw [mark_reply_incremental l j hp hk, latest?_concat]
      by_cases hj : j = k
      · rw [if_pos hj, if_pos ((hurl j).mpr hj)]
        rfl
      · rw [if_neg hj, if_neg (mt (hurl j).mp hj)]
        exact h.mark j
    · intro j hsome
      rw [begun_reply_incremental_iff l j hp hk]
      rw [latest?_concat] at hsome
      by_cases hj : j = k
      · exact .inr (.inl hj)
      · rw [if_neg (mt (hurl j).mp hj)] at hsome
        exact .inl (h.begun j hsome)

end Ledger

/-! ## The answers on a stream -/

/-- The kinds that the receiver still has to publish before it takes in another response. -/
def Receiver.unpublished : Receiver → List ResourceKind
  | .sending _ rest => rest.filterMap fun
    | .publish kind => some kind
    | .send _ => none
  | _ => []

namespace Session

def asked (s : Session) : List Move → List Draft
  | [] => []
  | m :: rest => s.asks m ++ (s.move m).asked rest

theorem asked_concat (s : Session) (moves : List Move) (m : Move) :
    s.asked (moves ++ [m]) = s.asked moves ++ (s.play moves).asks m := by
  induction moves generalizing s with
  | nil => simp [asked]
  | cons n rest ih =>
    rw [List.cons_append, asked, ih, asked, List.append_assoc]
    rfl

theorem events_send (s : Session) (who : String) (draft : Draft) :
    (s.send who draft).2.events = s.events := by
  unfold send
  dsimp only [makeRequest]
  split <;> rfl

/-- A response of an unknown type publishes nothing, now or later. -/
theorem events_respond_of_unknown (s : Session) {r : Response}
    (hk : ResourceKind.ofTypeUrl? r.typeUrl = none) :
    (s.respond r).events = s.events ∧ (s.respond r).receiver.unpublished = [] := by
  rw [respond, absorb_of_none _ hk]
  dsimp only
  rw [run_send]
  split
  · exact ⟨events_send .., rfl⟩
  · exact ⟨events_send .., rfl⟩

section

variable {s : Session} {p : Profile} {keepsStore : Bool} (hs : Start p keepsStore s)

include hs

theorem requested_eq_asked (moves : List Move) (hopen : (s.play moves).isClosed = false)
    (h : s.Unrefused moves) : (s.play moves).requested = s.wire ++ s.asked moves := by
  induction moves using List.reverseRecOn with
  | nil =>
    have hidle : s.receiver = .idle := by cases hs <;> rfl
    rw [play_nil, hs.orderly.requested_eq hidle]
    exact (List.append_nil _).symm
  | append_singleton moves m ih =>
    rw [hs.requested_concat hopen h, ih (hs.open_of_append hopen) h.of_concat.1, asked_concat,
      List.append_assoc]

variable (hp : p.mode = .incremental)

include hp

/-- In every open session of the incremental mode whose requests were all accepted, what is on the
stream is what the moves asked for, one behind the other. A response that is taken in asks for its
answer: at most one request that adds endpoint assignments, at most one that adds route
configurations, and at most one that gives up endpoint assignments, which together tell all that it
changes, and then one acknowledgement with no names. If its type is unknown then the acknowledgement
is all, and nothing that is remembered or published changes. The last response of each kind is on
record. -/
theorem responses_answered_in_order (moves : List Move) (hopen : (s.play moves).isClosed = false)
    (h : s.AllAccepted moves) :
    (s.play moves).wire = s.wire ++ s.asked moves ∧
    (∀ before r after, moves = before ++ .respond r :: after → (s.play before).receiver = .idle →
      s.asked (before ++ [.respond r]) = s.asked before ++
        (((s.play before).ledger.changes p r).requests ++
          [{ typeUrl := r.typeUrl, nonce := r.nonce }]) ∧
      ((s.play before).ledger.changes p r).Lead (s.play before).ledger.watches
        (s.play (before ++ [.respond r])).ledger.watches ∧
      (ResourceKind.ofTypeUrl? r.typeUrl = none →
        ((s.play before).ledger.changes p r).requests = [] ∧
        (s.play (before ++ [.respond r])).ledger = (s.play before).ledger ∧
        (s.play (before ++ [.respond r])).events = (s.play before).events ∧
        (s.play (before ++ [.respond r])).receiver.unpublished = [])) ∧
    (s.play moves).ledger.Records (s.heard moves) := by
  refine ⟨?_, ?_, ?_⟩
  · rw [← (orderly_play hs.orderly moves).requested_eq h.idle]
    exact requested_eq_asked hs moves hopen h.toUnrefused
  · rintro before r after rfl hidle
    rw [List.append_cons] at hopen
    have hopen := hs.open_of_append hopen
    have hmove : s.play (before ++ [.respond r]) = (s.play before).respond r := by
      rw [play_concat]
      exact if_pos hidle
    have hledger : (s.play (before ++ [.respond r])).ledger =
        ((s.play before).ledger.reply p r).1 := by
      rw [isClosed, hs.latched, hmove] at hopen
      rw [hmove, ledger_respond hopen, hs.profile_play]
    refine ⟨?_, ?_, ?_⟩
    · rw [asked_concat, asks, if_pos hidle, hs.profile_play, Ledger.reply_snd_incremental _ r hp]
    · rw [hledger]
      exact Ledger.lead_reply _ r hp
    · intro hk
      refine ⟨Ledger.changes_of_none _ p r hk, ledger_of_unknown hs hopen hk, ?_⟩
      rw [hmove]
      exact events_respond_of_unknown _ hk
  · exact hs.ledger_induction (P := fun rs l ↦ l.Records rs) (Ledger.records_new keepsStore)
      (fun _ _ h ↦ h.beginWatch hp) (fun _ _ r h ↦ h.reply r hp) moves hopen

end

/-- Two clusters come in, then something unknown, and then one of the clusters is gone. -/
def pushThenRemove : List Move :=
  [.respond (clusterPush "a" [0x61, 0x62] []),
    .respond { typeUrl := "unknown", version := "2", nonce := "b", resources := [] },
    .respond (clusterPush "c" [] ["a"])]

/-- Each response is answered by what it changes. -/
theorem responses_answered_pushThenRemove :
    (plain .incremental).AllAccepted pushThenRemove ∧
      ((plain .incremental).play pushThenRemove).wire =
        (plain .incremental).wire ++
          [{ typeUrl := ResourceKind.endpoint.typeUrl, names := .ofList ["s"] },
            { typeUrl := ResourceKind.cluster.typeUrl, nonce := "a" },
            { typeUrl := "unknown", nonce := "b" },
            { typeUrl := ResourceKind.endpoint.typeUrl, dropped := .ofList ["s"] },
            { typeUrl := ResourceKind.cluster.typeUrl, nonce := "c" }] := by
  have hunwatched : .watch ∉ pushThenRemove := by simp [pushThenRemove]
  have haccepted : (plain .incremental).AllAccepted pushThenRemove :=
    ⟨.of_not_mem_watch hunwatched (by decide +kernel), by decide +kernel⟩
  have hanswered := responses_answered_in_order (.plain .incremental) rfl pushThenRemove
    (by decide +kernel) haccepted
  refine ⟨haccepted, hanswered.1.trans ?_⟩
  decide +kernel

end Session

end ProxyFleet
