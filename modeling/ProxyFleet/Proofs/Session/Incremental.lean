import ProxyFleet.Proofs.Session.Course
import ProxyFleet.Proofs.Watch.Wanted

/-!
# Replies in the incremental mode

A response in the incremental mode says what is new and what is gone, and so does its answer. The
table is changed four times, in this order: the response is noted, what the new clusters need is
added, what the new listeners need is added, and what the clusters that are gone needed is given up.
Each of the last three changes is told by a request of its own, unless it changes nothing, and the
acknowledgement comes last.

`Ledger.reply_incremental` says this once. The names that a change adds or takes out, and what a
request says of them, are read off the operations of the table, so nobody opens a reply after this
file.
-/

namespace ProxyFleet

namespace Profile

variable (p : Profile) (r : Response)

/-- The endpoint assignments that the clusters of a response need. -/
def endpointsWanted : List String := Ledger.endpointsWanted (p.decoded r)

/-- The route configurations that the listeners of a response need. -/
def routesWanted : List String := Ledger.routesWanted (p.decoded r)

end Profile

namespace Ledger

variable (l : Ledger) (k : ResourceKind) (p : Profile) (r : Response)

/-- The endpoint assignments that a response gives up, given what is kept when it comes in. -/
def released : List String :=
  match ResourceKind.ofTypeUrl? r.typeUrl with
  | none => []
  | some k => (((p.decoded r).foldl storeOne l).forgetAll k r.removed).2

/-- The ledger that keeps what a response of a kind brings, and not what it says is gone. -/
def kept : Ledger := (((p.decoded r).foldl storeOne l).forgetAll k r.removed).1

/-- The table in which a response of a kind is noted. -/
def noted : WatchTable := l.watches.recordAck k r.nonce r.version

/-- That table with the endpoint assignments that the response needs. -/
def withEndpoints : WatchTable := ((l.noted k r).subscribe .endpoint (p.endpointsWanted r)).2

/-- That table with the route configurations that the response needs. -/
def withRoutes : WatchTable := ((l.withEndpoints k p r).subscribe .route (p.routesWanted r)).2

/-! ## What is kept is no matter of the rest -/

theorem forgetAll_fst_eq (gone : List String) :
    (l.forgetAll k gone).1 = { l with store := (l.forgetAll k gone).1.store } := by
  induction gone generalizing l with
  | nil => rfl
  | cons name rest ih => exact ih (l.forget k name)

theorem foldl_storeOne_eq (resources : List Resource) :
    resources.foldl storeOne l = { l with store := (resources.foldl storeOne l).store } := by
  induction resources generalizing l with
  | nil => rfl
  | cons x rest ih => exact ih (l.storeOne x)

theorem kept_eq : l.kept k p r = { l with store := (l.kept k p r).store } := by
  have hforgotten := ((p.decoded r).foldl storeOne l).forgetAll_fst_eq k r.removed
  rw [foldl_storeOne_eq l (p.decoded r)] at hforgotten
  rw [kept, foldl_storeOne_eq l (p.decoded r)]
  exact hforgotten

theorem watches_kept : (l.kept k p r).watches = l.watches := by rw [kept_eq]

/-! ## The answer -/

theorem subscription_eq (k : ResourceKind) (names : NameSet) : subscription k names =
    if names = .empty then [] else [{ typeUrl := k.typeUrl, names := names }] :=
  if_congr NameSet.isEmpty_iff rfl rfl

theorem unsubscription_eq (k : ResourceKind) (names : NameSet) : unsubscription k names =
    if names = .empty then [] else [{ typeUrl := k.typeUrl, dropped := names }] :=
  if_congr NameSet.isEmpty_iff rfl rfl

variable {k p r}

theorem reply_incremental (hp : p.mode = .incremental)
    (hk : ResourceKind.ofTypeUrl? r.typeUrl = some k) :
    l.reply p r =
      ((l.kept k p r).withWatches
        ((l.withRoutes k p r).unsubscribe .endpoint (l.released p r)).2,
      subscription .endpoint ((l.noted k r).subscribe .endpoint (p.endpointsWanted r)).1 ++
        subscription .route ((l.withEndpoints k p r).subscribe .route (p.routesWanted r)).1 ++
        unsubscription .endpoint
          ((l.withRoutes k p r).unsubscribe .endpoint (l.released p r)).1 ++
        [{ typeUrl := r.typeUrl, nonce := r.nonce }]) := by
  have hwatches : (((p.decoded r).foldl storeOne l).forgetAll k r.removed).1.watches = l.watches :=
    l.watches_kept k p r
  rw [reply_of_some _ hk, hp, digest, withRoutes, withEndpoints, noted, released, hk, ← hwatches]
  rfl

theorem clustersSeen_reply_incremental (hp : p.mode = .incremental)
    (hk : ResourceKind.ofTypeUrl? r.typeUrl = some k) :
    (l.reply p r).1.clustersSeen = l.clustersSeen := by
  rw [reply_incremental l hp hk, kept_eq]
  rfl

theorem watches_reply_incremental (hp : p.mode = .incremental)
    (hk : ResourceKind.ofTypeUrl? r.typeUrl = some k) :
    (l.reply p r).1.watches =
      ((l.withRoutes k p r).unsubscribe .endpoint (l.released p r)).2 := by
  rw [reply_incremental l hp hk]
  rfl

theorem nothing_of_none (hk : ResourceKind.ofTypeUrl? r.typeUrl = none) :
    p.endpointsWanted r = [] ∧ p.routesWanted r = [] ∧ l.released p r = [] := by
  have hdecoded : p.decoded r = [] := by rw [Profile.decoded, hk]
  rw [Profile.endpointsWanted, Profile.routesWanted, released, hdecoded, hk]
  exact ⟨rfl, rfl, rfl⟩

/-- What is wanted after a response was wanted before or is needed by what it brings, and it was not
given up by it. -/
theorem mem_names_reply_incremental (hp : p.mode = .incremental) {j : ResourceKind} {x : String} :
    x ∈ (l.reply p r).1.watches.names j ↔
      (x ∈ l.watches.names j ∨ (j = .endpoint ∧ x ∈ p.endpointsWanted r) ∨
        (j = .route ∧ x ∈ p.routesWanted r)) ∧ ¬(j = .endpoint ∧ x ∈ l.released p r) := by
  cases hk : ResourceKind.ofTypeUrl? r.typeUrl with
  | none =>
    obtain ⟨hendpoints, hroutes, hreleased⟩ := l.nothing_of_none (p := p) hk
    rw [reply_of_none _ hk, hendpoints, hroutes, hreleased]
    simp
  | some k =>
    rw [watches_reply_incremental l hp hk, WatchTable.mem_names_unsubscribe, withRoutes,
      WatchTable.mem_names_subscribe, withEndpoints, WatchTable.mem_names_subscribe, noted,
      WatchTable.names_recordAck, or_assoc]

end Ledger

end ProxyFleet
