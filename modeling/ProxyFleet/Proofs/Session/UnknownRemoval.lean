import ProxyFleet.Proofs.Session.EndpointLeftover
import ProxyFleet.Proofs.Session.IncrementalAnswer
import ProxyFleet.Proofs.Session.Underway

/-!
# Clusters that go and were never there

In the incremental mode a response can say of clusters that they are gone although the session keeps
none of that name. It then has nothing to forget. But a cluster that is not kept counts as one that
needs the endpoint assignment of its own name, so a name in the response is given up if an
assignment of that name is wanted, on whosever behalf: it may be the service of a cluster that is
kept under another name.

So such a response changes no subscription, and is only acknowledged, just if it lists no wanted
assignment. As long as all kept clusters have their assignments and no others are wanted, that is to
say that it lists none that a kept cluster needs (`unknown_removal_changes_nothing_iff`).
-/

namespace ProxyFleet

/-- A response that only says of clusters which are not kept that they are gone. -/
structure Ledger.Disregards (l : Ledger) (r : Response) : Prop where
  /-- It is about clusters. -/
  clusters : r.typeUrl = ResourceKind.cluster.typeUrl
  /-- It brings nothing. -/
  nothing : r.resources = []
  /-- None of the clusters is kept. -/
  unknown : ∀ name ∈ r.removed, l.stored? .cluster name = none

/-- The wanted endpoint assignments that have the name of something that is gone. -/
def WatchTable.namesakes (t : WatchTable) (r : Response) : NameSet :=
  (NameSet.ofList r.removed).filter (· ∈ t.names .endpoint)

namespace Ledger

variable {l : Ledger}

/-- Clusters that are not kept are not forgotten, but their names are given up. -/
theorem forgetAll_of_unknown {gone : List String}
    (h : ∀ name ∈ gone, l.stored? .cluster name = none) :
    l.forgetAll .cluster gone = (l, gone) := by
  induction gone with
  | nil => rfl
  | cons name rest ih =>
    have hname : l.stored? .cluster name = none := h name List.mem_cons_self
    rw [forgetAll, if_pos rfl, hname, forget_of_stored?_eq_none hname,
      ih fun other hother ↦ h other (List.mem_cons_of_mem _ hother)]
    rfl

/-! ## One response -/

variable {p : Profile} {r : Response}

namespace Disregards

theorem ofTypeUrl? (h : l.Disregards r) :
    ResourceKind.ofTypeUrl? r.typeUrl = some .cluster :=
  ResourceKind.ofTypeUrl?_eq_some_iff.mpr h.clusters

theorem payloads (h : l.Disregards r) : r.payloads = [] := by rw [Response.payloads, h.nothing]; rfl

theorem decoded (h : l.Disregards r) : p.decoded r = [] := by
  rw [Profile.decoded, h.ofTypeUrl?, h.payloads]
  rfl

theorem released (h : l.Disregards r) : l.released p r = r.removed := by
  rw [Ledger.released, h.ofTypeUrl?, h.decoded]
  exact congrArg Prod.snd (forgetAll_of_unknown h.unknown)

theorem kept (h : l.Disregards r) : l.kept .cluster p r = l := by
  rw [Ledger.kept, h.decoded]
  exact congrArg Prod.fst (forgetAll_of_unknown h.unknown)

variable (hp : p.mode = .incremental)

include hp

theorem store_reply (h : l.Disregards r) : (l.reply p r).1.store = l.store := by
  rw [reply_incremental l hp h.ofTypeUrl?, h.kept]
  rfl

theorem names_reply (h : l.Disregards r) (k : ResourceKind) :
    (l.reply p r).1.watches.names k =
      if k = .endpoint then (l.watches.names k).diff (.ofList r.removed)
      else l.watches.names k := by
  ext x
  rw [mem_names_reply_incremental l hp, h.released, Profile.endpointsWanted, Profile.routesWanted,
    h.decoded]
  by_cases hk : k = .endpoint <;> simp [hk, endpointsWanted, routesWanted, clustersIn, listenersIn]

/-- All that is told is which of the names were wanted endpoint assignments. -/
theorem reply_snd (h : l.Disregards r) : (l.reply p r).2 =
    (if l.watches.namesakes r = .empty then []
      else [{ typeUrl := ResourceKind.endpoint.typeUrl, dropped := l.watches.namesakes r }]) ++
    [{ typeUrl := r.typeUrl, nonce := r.nonce }] := by
  have hchanges : l.changes p r = ⟨.empty, .empty, l.watches.namesakes r⟩ := by
    rw [changes, h.released, Profile.endpointsWanted, Profile.routesWanted, h.decoded]
    simp [endpointsWanted, routesWanted, clustersIn, listenersIn, NameSet.diff, NameSet.filter,
      NameSet.ofList, NameSet.empty, WatchTable.namesakes]
  rw [reply_snd_incremental l r hp, hchanges]
  rfl

/-- The names of such a response are the names of wanted assignments, or nothing happens. -/
theorem names_reply_eq_iff (h : l.Disregards r) :
    (∀ k, (l.reply p r).1.watches.names k = l.watches.names k) ↔
      ∀ name ∈ r.removed, name ∉ l.watches.names .endpoint := by
  constructor
  · intro hsame name hname hwanted
    rw [← hsame .endpoint, h.names_reply hp, if_pos rfl, NameSet.mem_diff,
      NameSet.mem_ofList] at hwanted
    exact hwanted.2 hname
  · intro hunwanted k
    rw [h.names_reply hp]
    split
    · next hk =>
      subst hk
      ext name
      rw [NameSet.mem_diff, NameSet.mem_ofList, and_iff_left_iff_imp]
      exact fun hwanted hname ↦ hunwanted name hname hwanted
    · rfl

theorem reply_snd_of_unwanted (h : l.Disregards r)
    (hunwanted : ∀ name ∈ r.removed, name ∉ l.watches.names .endpoint) :
    (l.reply p r).2 = [{ typeUrl := r.typeUrl, nonce := r.nonce }] := by
  have hnone : l.watches.namesakes r = .empty := by
    ext name
    rw [WatchTable.namesakes, NameSet.mem_filter, NameSet.mem_ofList, decide_eq_true_iff]
    exact iff_of_false (fun hname ↦ hunwanted name hname.1 hname.2) (NameSet.not_mem_empty name)
  rw [h.reply_snd hp, if_pos hnone, List.nil_append]

end Disregards

end Ledger

/-! ## On every play -/

namespace Session

/-- Taking in a response changes nothing that is wanted or kept, and asks for the acknowledgement
and no more. -/
structure OnlyAcknowledges (s : Session) (r : Response) : Prop where
  /-- The same names are wanted of every kind. -/
  names : ∀ k, (s.move (.respond r)).ledger.watches.names k = s.ledger.watches.names k
  /-- The same resources are kept. -/
  store : (s.move (.respond r)).ledger.store = s.ledger.store
  /-- The acknowledgement is all there is to send. -/
  asks : s.asks (.respond r) = [{ typeUrl := r.typeUrl, nonce := r.nonce }]

theorem closed_run (s : Session) (steps : List Step) :
    (s.run steps).transport.closed = s.transport.closed := by
  induction steps generalizing s with
  | nil => rfl
  | cons step rest ih =>
    cases step with
    | publish kind => exact ih { s with events := (s.events.publish kind).2 }
    | send draft =>
      have hsend : (s.send receiverName draft).2.transport.closed = s.transport.closed := by
        rw [transport_send]
        exact Transport.closed_send ..
      rw [run_send]
      split
      · exact (ih _).trans hsend
      · exact hsend

theorem closed_respond_of_nothing (s : Session) {r : Response} {k : ResourceKind}
    (hk : ResourceKind.ofTypeUrl? r.typeUrl = some k) (hnothing : r.payloads = []) :
    (s.respond r).transport.closed = s.transport.closed := by
  have habsorbed :
      ({ s with receiver := .working }.absorb r).2.transport.closed = s.transport.closed := by
    rw [absorb_of_some _ hk, hnothing, decodeBatch, apply]
    split <;> rfl
  exact (closed_run ..).trans habsorbed

section

variable {s : Session} {p : Profile} {keepsStore : Bool} (hs : Start p keepsStore s)
variable (hp : p.mode = .incremental) {moves : List Move} {r : Response}

include hs hp

/-- A response that says of clusters which are not kept that they are gone leaves an open session
open and the store as it is. The endpoint assignments of their names are given up, whoever needs
them. So no subscription changes and the acknowledgement is all that is sent if and only if none of
the names is a wanted assignment; and if the wanted assignments are just those that kept clusters
need, if and only if no kept cluster needs one of the names. -/
theorem unknown_removal_changes_nothing_iff (hopen : (s.play moves).isClosed = false)
    (hidle : (s.play moves).receiver = .idle) (h : (s.play moves).ledger.Disregards r) :
    (s.play (moves ++ [.respond r])).isClosed = false ∧
    (s.play (moves ++ [.respond r])).ledger.store = (s.play moves).ledger.store ∧
    (∀ k, (s.play (moves ++ [.respond r])).ledger.watches.names k =
      if k = .endpoint then ((s.play moves).ledger.watches.names k).diff (.ofList r.removed)
      else (s.play moves).ledger.watches.names k) ∧
    (s.play moves).asks (.respond r) =
      (if (s.play moves).ledger.watches.namesakes r = .empty then []
        else [{ typeUrl := ResourceKind.endpoint.typeUrl
                dropped := (s.play moves).ledger.watches.namesakes r }]) ++
      [{ typeUrl := r.typeUrl, nonce := r.nonce }] ∧
    (s.AllAccepted (moves ++ [.respond r]) →
      (s.play (moves ++ [.respond r])).wire =
        (s.play moves).wire ++ (s.play moves).asks (.respond r)) ∧
    ((s.play moves).OnlyAcknowledges r ↔
      ∀ name ∈ r.removed, name ∉ (s.play moves).ledger.watches.names .endpoint) ∧
    ((s.play moves).ledger.CoversClusters → (s.play moves).ledger.WantsOnlyNeeded →
      ((s.play moves).OnlyAcknowledges r ↔
        ∀ name ∈ r.removed, ¬ (s.play moves).ledger.Needs name)) := by
  have hopen' : (s.play (moves ++ [.respond r])).isClosed = false := by
    rw [isClosed, hs.latched, play_concat, move, if_pos hidle,
      closed_respond_of_nothing _ h.ofTypeUrl? h.payloads, ← hs.latched]
    exact hopen
  have hledger := hs.ledger_concat_respond hidle hopen'
  have hasks : (s.play moves).asks (.respond r) = ((s.play moves).ledger.reply p r).2 := by
    rw [asks, if_pos hidle, hs.profile_play]
  have honly : (s.play moves).OnlyAcknowledges r ↔
      ∀ name ∈ r.removed, name ∉ (s.play moves).ledger.watches.names .endpoint := by
    rw [← h.names_reply_eq_iff hp, ← hledger, play_concat]
    refine ⟨OnlyAcknowledges.names, fun hnames ↦ ⟨hnames, ?_, ?_⟩⟩
    · rw [← play_concat, hledger, h.store_reply hp]
    · rw [← play_concat, hledger] at hnames
      rw [hasks, h.reply_snd_of_unwanted hp ((h.names_reply_eq_iff hp).mp hnames)]
  refine ⟨hopen', ?_, fun k ↦ ?_, ?_, ?_, honly, fun hcovers honlyNeeded ↦ ?_⟩
  · rw [hledger, h.store_reply hp]
  · rw [hledger, h.names_reply hp]
  · rw [hasks, h.reply_snd hp]
  · exact hs.wire_concat hidle hopen'
  · rw [honly]
    refine forall₂_congr fun name _ ↦ not_congr ⟨honlyNeeded name, ?_⟩
    rintro ⟨other, c, hc, hneeded⟩
    exact hcovers other c name hc hneeded

end

/-- A cluster comes in whose endpoint assignment is that of a service. -/
def oneService : List Move := [.respond (clusterPush "a" [0x61] [])]

/-- Clusters are said to be gone that were never there; the name of one is that of the service. -/
def strangersGone : Response := clusterPush "b" [] ["x", "s"]

theorem disregards_strangersGone :
    ((plain .incremental).play oneService).ledger.Disregards strangersGone where
  clusters := rfl
  nothing := rfl
  unknown := by decide +kernel

/-- Then the assignment of the service is given up. -/
theorem unknown_removal_changes_something_strangersGone :
    ((plain .incremental).play oneService).ledger.Disregards strangersGone ∧
      ¬ ((plain .incremental).play oneService).OnlyAcknowledges strangersGone := by
  have hopen : ((plain .incremental).play oneService).isClosed = false := by decide +kernel
  have hidle : ((plain .incremental).play oneService).receiver = .idle := by decide +kernel
  have hchanges := unknown_removal_changes_nothing_iff (.plain .incremental) rfl hopen hidle
    disregards_strangersGone
  refine ⟨disregards_strangersGone, ?_⟩
  rw [hchanges.2.2.2.2.2.1]
  decide +kernel

/-- And so the cluster that is kept loses its assignment, although nothing of what it needs went. -/
theorem not_always_only_acknowledges :
    ¬ ∀ (p : Profile) (s : Session) (moves : List Move) (r : Response), Start p true s →
      p.mode = .incremental → (s.play moves).isClosed = false →
      (s.play moves).receiver = .idle → (s.play moves).ledger.Disregards r →
      (s.play moves).OnlyAcknowledges r := by
  intro h
  have hnames := (h (.plain .incremental) (plain .incremental) oneService strangersGone
    (.plain .incremental) rfl (by decide +kernel) (by decide +kernel)
    disregards_strangersGone).names .endpoint
  revert hnames
  decide +kernel

end Session

end ProxyFleet
