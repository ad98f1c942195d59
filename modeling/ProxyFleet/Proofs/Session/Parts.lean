import ProxyFleet.Proofs.Session.Complete
import ProxyFleet.Proofs.Session.Incremental
import ProxyFleet.Proofs.Store.Lookup

/-!
# Which part of a ledger a response is about

A response of a kind writes what is wanted of the kinds that its resources can need, the mark of its
own kind, and what is kept of that kind. This is the part of the ledger that the kind governs.
Responses of other kinds do not write it (`part_reply_of_ne`), and what becomes of it depends on
nothing else in the ledger (`part_reply_congr`), in either mode.

Entries are the exception. One begins when anything is written to it, and more than one kind writes
to the entry of endpoint assignments, for instance. So no kind governs which subscriptions are
begun. But they are only ever begun, and which ones a response begins depends on the part that its
kind governs (`begun_reply_iff`, `begins_congr`).

It follows that responses of different kinds can trade places.
-/

namespace ProxyFleet

namespace ResourceKind

/-- The kinds whose wanted names only responses of a kind can change. -/
def governed : ResourceKind → List ResourceKind
  | cluster => [cluster, listener, endpoint]
  | k => k.needed

variable {j k k' : ResourceKind}

theorem exists_mem_governed (j : ResourceKind) : ∃ k : ResourceKind, j ∈ k.governed := by
  cases j with
  | cluster => exact ⟨cluster, by decide⟩
  | listener => exact ⟨cluster, by decide⟩
  | endpoint => exact ⟨cluster, by decide⟩
  | route => exact ⟨listener, by decide⟩
  | secret => exact ⟨listener, by decide⟩
  | extension => exact ⟨listener, by decide⟩

theorem eq_of_mem_governed (h : j ∈ k.governed) (h' : j ∈ k'.governed) : k = k' := by
  cases k <;> cases k' <;> first | rfl | cases j <;> simp [governed, needed] at h h'

theorem mem_governed_of_needed (h : j ∈ k.needed) : j ∈ k.governed := by
  cases k with
  | cluster => exact List.mem_cons_of_mem _ (List.mem_cons_of_mem _ h)
  | _ => exact h

theorem eq_cluster_of_not_needed (h : j ∈ k.governed) (hj : j ∉ k.needed) : k = .cluster := by
  cases k with
  | cluster => rfl
  | _ => exact absurd h hj

end ResourceKind

section

variable {k : ResourceKind} {resources : List Resource} (h : ∀ x ∈ resources, x.kind = k)

include h

theorem clustersIn_eq_nil (hk : k ≠ .cluster) : clustersIn resources = [] := by
  rw [clustersIn, List.filterMap_eq_nil_iff]
  intro x hx
  cases x with
  | cluster c => exact absurd (h _ hx).symm hk
  | _ => rfl

theorem listenersIn_eq_nil (hk : k ≠ .listener) : listenersIn resources = [] := by
  rw [listenersIn, List.filterMap_eq_nil_iff]
  intro x hx
  cases x with
  | listener c => exact absurd (h _ hx).symm hk
  | _ => rfl

end

namespace Ledger

/-- What a kind governs. -/
structure Part where
  /-- The wanted names of the kinds that it governs. -/
  names : List NameSet
  /-- The mark of the last response of the kind. -/
  mark : String × String
  /-- What is kept of the kind. -/
  cell : Option (Option (NameMap Resource))
  /-- Whether clusters were seen, if it is the kind of clusters. -/
  clustersSeen : Bool

/-- The part of a ledger that a kind governs. -/
def part (l : Ledger) (k : ResourceKind) : Part where
  names := k.governed.map l.watches.names
  mark := l.watches.mark k
  cell := l.cell k
  clustersSeen := k = .cluster && l.clustersSeen

variable {l l' : Ledger} {j k : ResourceKind}

theorem part_eq_part_iff : l.part k = l'.part k ↔
    (∀ j ∈ k.governed, l.watches.names j = l'.watches.names j) ∧
      l.watches.mark k = l'.watches.mark k ∧ l.cell k = l'.cell k ∧
      (k = .cluster → l.clustersSeen = l'.clustersSeen) := by
  rw [part, part, Part.mk.injEq, List.map_inj_left]
  refine and_congr_right' (and_congr_right' (and_congr_right' ?_))
  by_cases hk : k = .cluster
  · rw [decide_eq_true hk, Bool.true_and, Bool.true_and]
    exact ⟨fun h _ ↦ h, fun h ↦ h hk⟩
  · rw [decide_eq_false hk]
    exact iff_of_true rfl fun h ↦ absurd h hk

/-- A ledger is what the kinds govern, and which subscriptions are begun. -/
theorem ext_part (hbegun : ∀ k, l.watches.begun k = l'.watches.begun k)
    (hpart : ∀ k, l.part k = l'.part k) : l = l' := by
  simp only [part_eq_part_iff] at hpart
  have hwatches : l.watches = l'.watches := by
    refine WatchTable.ext_parts hbegun (fun j ↦ ?_) fun k ↦ (hpart k).2.1
    obtain ⟨k, hj⟩ := j.exists_mem_governed
    exact (hpart k).1 j hj
  have hstore : l.store = l'.store := store_eq_of_cell fun k ↦ (hpart k).2.2.1
  have hseen : l.clustersSeen = l'.clustersSeen := (hpart .cluster).2.2.2 rfl
  cases l
  cases l'
  cases hwatches
  cases hstore
  cases hseen
  rfl

end Ledger

/-! ## The complete mode -/

namespace WatchTable

variable (t : WatchTable) (j : ResourceKind) (changes : List (ResourceKind × NameSet))

theorem begun_updateAll_iff : (t.updateAll changes).begun j = true ↔
    t.begun j = true ∨ j ∈ changes.map (·.1) := by
  induction changes generalizing t with
  | nil => simp [updateAll]
  | cons c rest ih =>
    rw [updateAll, List.foldl_cons, ← updateAll, ih, begun_update, List.map_cons, List.mem_cons]
    simp [or_assoc]

theorem mark_updateAll : (t.updateAll changes).mark j = t.mark j := by
  induction changes generalizing t with
  | nil => rfl
  | cons c rest ih =>
    rw [updateAll, List.foldl_cons, ← updateAll, ih, mark_update]

end WatchTable

namespace Ledger

section Complete

variable (l : Ledger) (r : Response) (k : ResourceKind) (resources : List Resource)

theorem names_listener_digestComplete :
    (l.digestComplete r k resources).1.watches.names .listener =
      if k = .cluster ∧ ¬ l.clustersSeen then .empty else l.watches.names .listener := by
  have hupdated : (l.watches.updateAll (l.changedSubscriptions k resources)).names .listener =
      l.watches.names .listener :=
    names_updateAll_of_not_mem _ _ _ k.listener_not_mem_needed
  rw [watches_digestComplete]
  split
  · rw [WatchTable.names_update, if_pos rfl]
    rfl
  · rw [WatchTable.names_recordAck, hupdated]

theorem mark_digestComplete (j : ResourceKind) :
    (l.digestComplete r k resources).1.watches.mark j =
      if j = k then (r.nonce, r.version) else l.watches.mark j := by
  rw [watches_digestComplete]
  split <;> simp only [WatchTable.mark_update, WatchTable.mark_recordAck, WatchTable.mark_updateAll]

theorem cell_digestComplete (j : ResourceKind) : (l.digestComplete r k resources).1.cell j =
    (l.cell j).map fun c ↦ if j = k then some (Store.byName resources) else c :=
  l.cell_storeAll j k resources

theorem begun_digestComplete_iff (j : ResourceKind) :
    (l.digestComplete r k resources).1.watches.begun j = true ↔ l.watches.begun j = true ∨
      j = k ∨ j ∈ (l.changedSubscriptions k resources).map (·.1) ∨
        j = .listener ∧ k = .cluster ∧ ¬ l.clustersSeen := by
  have hacknowledged :
      ((l.watches.updateAll (l.changedSubscriptions k resources)).recordAck k r.nonce
        r.version).begun j = true ↔ l.watches.begun j = true ∨
          j = k ∨ j ∈ (l.changedSubscriptions k resources).map (·.1) := by
    rw [WatchTable.begun_recordAck, Bool.or_eq_true, WatchTable.begun_updateAll_iff,
      decide_eq_true_iff, or_assoc, or_comm (a := j ∈ _)]
  rw [watches_digestComplete, ← or_assoc, ← or_assoc, or_assoc (a := l.watches.begun j = true),
    ← hacknowledged]
  by_cases hfirst : k = .cluster ∧ ¬ l.clustersSeen = true
  · rw [if_pos hfirst, WatchTable.begun_update, Bool.or_eq_true, decide_eq_true_iff,
      and_iff_left hfirst]
  · rw [if_neg hfirst, or_iff_left fun h ↦ hfirst h.2]

variable {l k}

theorem part_digestComplete_of_ne {j : ResourceKind} (hj : j ≠ k) :
    (l.digestComplete r k resources).1.part j = l.part j := by
  refine part_eq_part_iff.mpr ⟨fun i hi ↦ ?_, ?_, ?_, fun hcluster ↦ ?_⟩
  · by_cases hlistener : i = .listener
    · have hk : ¬(k = .cluster ∧ ¬ l.clustersSeen) := by
        rintro ⟨rfl, -⟩
        subst hlistener
        exact hj (ResourceKind.eq_of_mem_governed hi (by decide))
      rw [hlistener, names_listener_digestComplete, if_neg hk]
    · refine names_digestComplete_of_not_mem _ _ _ _ (fun hneeded ↦ hj ?_) hlistener
      exact ResourceKind.eq_of_mem_governed hi (ResourceKind.mem_governed_of_needed hneeded)
  · rw [mark_digestComplete, if_neg hj]
  · rw [cell_digestComplete]
    simp [hj]
  · change (l.clustersSeen || decide (k = .cluster)) = _
    rw [decide_eq_false fun hk ↦ hj (hcluster.trans hk.symm), Bool.or_false]

theorem part_digestComplete_congr {l' : Ledger} (h : l.part k = l'.part k) :
    (l.digestComplete r k resources).1.part k = (l'.digestComplete r k resources).1.part k := by
  obtain ⟨hnames, -, hcell, hseen⟩ := part_eq_part_iff.mp h
  refine part_eq_part_iff.mpr ⟨fun i hi ↦ ?_, ?_, ?_, fun hcluster ↦ ?_⟩
  · by_cases hneeded : i ∈ k.needed
    · -- What the resources need is wanted in either ledger, whatever was wanted before.
      obtain ⟨⟨_, names⟩, hmem, rfl⟩ :=
        List.mem_map.mp (map_fst_derivedSubscriptions k resources ▸ hneeded)
      rw [names_digestComplete_of_mem _ _ _ _ hmem, names_digestComplete_of_mem _ _ _ _ hmem]
    by_cases hlistener : i = .listener
    · rw [hlistener] at hi hneeded ⊢
      rw [names_listener_digestComplete, names_listener_digestComplete, hnames _ hi,
        hseen (ResourceKind.eq_cluster_of_not_needed hi hneeded)]
    · rw [names_digestComplete_of_not_mem _ _ _ _ hneeded hlistener,
        names_digestComplete_of_not_mem _ _ _ _ hneeded hlistener, hnames i hi]
  · rw [mark_digestComplete, mark_digestComplete, if_pos rfl, if_pos rfl]
  · rw [cell_digestComplete, cell_digestComplete, hcell]
  · change (l.clustersSeen || _) = (l'.clustersSeen || _)
    rw [hseen hcluster]

/-- Which subscriptions change depends on the names of kinds that are governed. -/
theorem changedSubscriptions_congr {l' : Ledger} (h : l.part k = l'.part k) :
    l.changedSubscriptions k resources = l'.changedSubscriptions k resources := by
  obtain ⟨hnames, -⟩ := part_eq_part_iff.mp h
  refine List.filter_congr fun c hc ↦ ?_
  have hneeded : c.1 ∈ k.needed := mem_needed_of_mem_derivedSubscriptions hc
  have hsame := hnames c.1 (ResourceKind.mem_governed_of_needed hneeded)
  change l.watches.differs c.1 c.2.toList = l'.watches.differs c.1 c.2.toList
  rw [WatchTable.differs_eq, WatchTable.differs_eq, hsame]

end Complete

/-! ## The incremental mode -/

section Incremental

variable {l l' : Ledger} {j k : ResourceKind} {p : Profile} {r : Response}

theorem cell_foldl_storeOne_of_ne {resources : List Resource} (h : ∀ x ∈ resources, x.kind ≠ j) :
    (resources.foldl storeOne l).cell j = l.cell j := by
  induction resources generalizing l with
  | nil => rfl
  | cons x rest ih =>
    rw [List.foldl_cons, ih fun y hy ↦ h y (List.mem_cons_of_mem _ hy), cell_storeOne]
    simp [(h x List.mem_cons_self).symm]

theorem cell_foldl_storeOne_congr (resources : List Resource) (h : l.cell k = l'.cell k) :
    (resources.foldl storeOne l).cell k = (resources.foldl storeOne l').cell k := by
  induction resources generalizing l l' with
  | nil => exact h
  | cons x rest ih =>
    refine ih ?_
    rw [cell_storeOne, cell_storeOne, h]

theorem cell_forgetAll_of_ne (gone : List String) (h : j ≠ k) :
    (l.forgetAll k gone).1.cell j = l.cell j := by
  induction gone generalizing l with
  | nil => rfl
  | cons name rest ih =>
    refine ih.trans ?_
    rw [cell_forget]
    simp [h]

theorem forgetAll_congr (gone : List String) (h : l.cell k = l'.cell k) :
    (l.forgetAll k gone).1.cell k = (l'.forgetAll k gone).1.cell k ∧
      (l.forgetAll k gone).2 = (l'.forgetAll k gone).2 := by
  induction gone generalizing l l' with
  | nil => exact ⟨h, rfl⟩
  | cons name rest ih =>
    have hforget : (l.forget k name).cell k = (l'.forget k name).cell k := by
      rw [cell_forget, cell_forget, h]
    obtain ⟨hcell, hmore⟩ := ih hforget
    refine ⟨hcell, ?_⟩
    rw [forgetAll, forgetAll, stored?_eq_cell, stored?_eq_cell, h]
    exact congrArg (_ ++ ·) hmore

theorem forgetAll_snd_of_ne_cluster (gone : List String) (h : k ≠ .cluster) :
    (l.forgetAll k gone).2 = [] := by
  induction gone generalizing l with
  | nil => rfl
  | cons name rest ih =>
    rw [forgetAll, if_neg h]
    exact ih

theorem kind_of_mem_decoded (hk : ResourceKind.ofTypeUrl? r.typeUrl = some k) {x : Resource}
    (hx : x ∈ p.decoded r) : x.kind = k := by
  rw [Profile.decoded, hk] at hx
  obtain ⟨payload, -, hpayload⟩ := List.mem_filterMap.mp hx
  exact of_decide_eq_true (Option.filter_eq_some_iff.mp hpayload).2

theorem kept_congr (hk : ResourceKind.ofTypeUrl? r.typeUrl = some k)
    (h : l.cell k = l'.cell k) :
    (l.kept k p r).cell k = (l'.kept k p r).cell k ∧ l.released p r = l'.released p r := by
  rw [released, released, hk]
  exact forgetAll_congr r.removed (cell_foldl_storeOne_congr (p.decoded r) h)

theorem cell_kept_of_ne (hk : ResourceKind.ofTypeUrl? r.typeUrl = some k) (hj : j ≠ k) :
    (l.kept k p r).cell j = l.cell j := by
  have hstored : ((p.decoded r).foldl storeOne l).cell j = l.cell j := by
    refine cell_foldl_storeOne_of_ne fun x hx hxj ↦ hj ?_
    exact hxj.symm.trans (kind_of_mem_decoded hk hx)
  rw [kept, cell_forgetAll_of_ne _ hj, hstored]

variable (l) in
/-- What a response of a kind needs and gives up are kinds that its own kind governs. -/
theorem nothing_of_not_governed (hk : ResourceKind.ofTypeUrl? r.typeUrl = some k) :
    (.endpoint ∉ k.governed → p.endpointsWanted r = [] ∧ l.released p r = []) ∧
      (.route ∉ k.governed → p.routesWanted r = []) := by
  refine ⟨fun hendpoint ↦ ?_, fun hroute ↦ ?_⟩
  · have hcluster : k ≠ .cluster := by
      rintro rfl
      exact hendpoint (by decide)
    rw [Profile.endpointsWanted, endpointsWanted, released, hk,
      clustersIn_eq_nil (fun x ↦ kind_of_mem_decoded hk) hcluster]
    exact ⟨rfl, forgetAll_snd_of_ne_cluster _ hcluster⟩
  · have hlistener : k ≠ .listener := by
      rintro rfl
      exact hroute (by decide)
    rw [Profile.routesWanted, routesWanted,
      listenersIn_eq_nil (fun x ↦ kind_of_mem_decoded hk) hlistener]
    rfl

variable (hp : p.mode = .incremental) (hk : ResourceKind.ofTypeUrl? r.typeUrl = some k)

include hp hk

variable (l j) in
theorem mark_reply_incremental : (l.reply p r).1.watches.mark j =
    if j = k then (r.nonce, r.version) else l.watches.mark j := by
  rw [watches_reply_incremental l hp hk, WatchTable.mark_unsubscribe, withRoutes,
    WatchTable.mark_subscribe, withEndpoints, WatchTable.mark_subscribe, noted,
    WatchTable.mark_recordAck]

variable (l j) in
theorem begun_reply_incremental_iff : (l.reply p r).1.watches.begun j = true ↔
    l.watches.begun j = true ∨ j = k ∨ j = .endpoint ∨ j = .route := by
  rw [watches_reply_incremental l hp hk, WatchTable.begun_unsubscribe, withRoutes,
    WatchTable.begun_subscribe, withEndpoints, WatchTable.begun_subscribe, noted,
    WatchTable.begun_recordAck]
  simp [or_assoc]

variable (l j) in
theorem cell_reply_incremental : (l.reply p r).1.cell j = (l.kept k p r).cell j := by
  rw [reply_incremental l hp hk]
  rfl

theorem part_reply_incremental_of_ne (hj : j ≠ k) : (l.reply p r).1.part j = l.part j := by
  obtain ⟨hendpoints, hroutes⟩ := nothing_of_not_governed (p := p) l hk
  refine part_eq_part_iff.mpr ⟨fun i hi ↦ ?_, ?_, ?_, fun _ ↦ ?_⟩
  · ext x
    have hi' : i ∉ k.governed := fun h ↦ hj (ResourceKind.eq_of_mem_governed hi h)
    rw [mem_names_reply_incremental l hp]
    constructor
    · rintro ⟨hx | ⟨rfl, hx⟩ | ⟨rfl, hx⟩, -⟩
      · exact hx
      · rw [(hendpoints hi').1] at hx
        cases hx
      · rw [hroutes hi'] at hx
        cases hx
    · intro hx
      refine ⟨.inl hx, ?_⟩
      rintro ⟨rfl, hreleased⟩
      rw [(hendpoints hi').2] at hreleased
      cases hreleased
  · rw [mark_reply_incremental l j hp hk, if_neg hj]
  · rw [cell_reply_incremental l j hp hk, cell_kept_of_ne hk hj]
  · rw [clustersSeen_reply_incremental l hp hk]

theorem part_reply_incremental_congr (h : l.part k = l'.part k) :
    (l.reply p r).1.part k = (l'.reply p r).1.part k := by
  obtain ⟨hnames, -, hcell, hseen⟩ := part_eq_part_iff.mp h
  obtain ⟨hkept, hreleased⟩ := kept_congr (p := p) hk hcell
  refine part_eq_part_iff.mpr ⟨fun i hi ↦ ?_, ?_, ?_, fun hcluster ↦ ?_⟩
  · ext x
    rw [mem_names_reply_incremental l hp, mem_names_reply_incremental l' hp, hnames i hi,
      hreleased]
  · rw [mark_reply_incremental l k hp hk, mark_reply_incremental l' k hp hk, if_pos rfl, if_pos rfl]
  · rw [cell_reply_incremental l k hp hk, cell_reply_incremental l' k hp hk, hkept]
  · rw [clustersSeen_reply_incremental l hp hk, clustersSeen_reply_incremental l' hp hk,
      hseen hcluster]

end Incremental

/-! ## Either mode -/

variable (l : Ledger) (p : Profile) (r : Response)

/-- The subscriptions that a response begins, if they are not begun before. -/
def Begins (j : ResourceKind) : Prop :=
  match ResourceKind.ofTypeUrl? r.typeUrl, p.mode with
  | none, _ => False
  | some k, .complete =>
    j = k ∨ j ∈ (l.changedSubscriptions k (p.decoded r)).map (·.1) ∨
      j = .listener ∧ k = .cluster ∧ ¬ l.clustersSeen
  | some k, .incremental => j = k ∨ j = .endpoint ∨ j = .route

theorem begun_reply_iff (j : ResourceKind) : (l.reply p r).1.watches.begun j = true ↔
    l.watches.begun j = true ∨ l.Begins p r j := by
  cases hk : ResourceKind.ofTypeUrl? r.typeUrl with
  | none =>
    rw [reply_of_none _ hk, Begins, hk]
    exact (or_iff_left id).symm
  | some k =>
    cases hp : p.mode with
    | complete =>
      rw [reply_of_some _ hk, Begins, hk, hp]
      exact l.begun_digestComplete_iff r k (p.decoded r) j
    | incremental =>
      rw [Begins, hk, hp]
      exact begun_reply_incremental_iff l j hp hk

variable {l r} {l' : Ledger} {j k : ResourceKind}

theorem begins_congr (hk : ResourceKind.ofTypeUrl? r.typeUrl = some k)
    (h : l.part k = l'.part k) : l.Begins p r j ↔ l'.Begins p r j := by
  cases hp : p.mode with
  | complete =>
    have hseen : j = .listener ∧ k = .cluster ∧ ¬ l.clustersSeen ↔
        j = .listener ∧ k = .cluster ∧ ¬ l'.clustersSeen :=
      and_congr_right' (and_congr_right fun hk ↦ by rw [(part_eq_part_iff.mp h).2.2.2 hk])
    rw [Begins, Begins, hk, hp]
    exact or_congr_right (or_congr (by rw [changedSubscriptions_congr _ h]) hseen)
  | incremental =>
    rw [Begins, Begins, hk, hp]

/-- A response does not write what other kinds govern. -/
theorem part_reply_of_ne (hk : ResourceKind.ofTypeUrl? r.typeUrl = some k) (hj : j ≠ k) :
    (l.reply p r).1.part j = l.part j := by
  cases hp : p.mode with
  | complete =>
    rw [reply_of_some _ hk, hp]
    exact part_digestComplete_of_ne r (p.decoded r) hj
  | incremental => exact part_reply_incremental_of_ne hp hk hj

/-- What becomes of the part that the kind of a response governs depends on this part alone. -/
theorem part_reply_congr (hk : ResourceKind.ofTypeUrl? r.typeUrl = some k)
    (h : l.part k = l'.part k) : (l.reply p r).1.part k = (l'.reply p r).1.part k := by
  cases hp : p.mode with
  | complete =>
    rw [reply_of_some _ hk, reply_of_some _ hk, hp]
    exact part_digestComplete_congr r (p.decoded r) h
  | incremental => exact part_reply_incremental_congr hp hk h

end Ledger

end ProxyFleet
