import ProxyFleet.Proofs.Session.Complete
import ProxyFleet.Proofs.Session.Incremental

/-!
# Both sides agree on every subscription, in the incremental mode

In the incremental mode a request tells of a change only, so what a control plane takes a session to
want is what it gets by following all requests from the first one on. `replay` does that, and the
table of an open session is what it comes to.

That alone would also hold of a session that repeats itself, or takes back what it never asked for.
`Dialogue` says which requests there are: at each point a session subscribes to names that the
control plane does not have yet, or gives up names that it has. What names nothing is a request of
the opening, which there is once, or the acknowledgement of a response. On the stream the two look
alike, since a control plane may leave the mark of a response blank; the dialogue tells them apart.
-/

namespace ProxyFleet

/-! ## What a control plane reads -/

/-- The names that are wanted after a request, given those that were wanted before. -/
def Draft.amend (d : Draft) (names : NameSet) : NameSet := (names.union d.names).diff d.dropped

/-- The names of a type that requests ask for, when they are followed one after the other. -/
def replay (asked : List Draft) (typeUrl : String) : NameSet :=
  (asked.filter (·.typeUrl = typeUrl)).foldl (fun names d ↦ d.amend names) .empty

/-- The requests that a session of the incremental mode can make, given whether it began the
subscriptions, and the responses that it heard. -/
inductive Dialogue : Bool → List Response → List Draft → Prop
  /-- Nothing was heard or asked for yet. -/
  | silence : Dialogue false [] []
  /-- The subscriptions begin, if they were not begun before. -/
  | opening {heard asked} (h : Dialogue false heard asked) :
      Dialogue true heard (asked ++
        [{ typeUrl := ResourceKind.cluster.typeUrl }, { typeUrl := ResourceKind.listener.typeUrl }])
  /-- Some names are added, all of them new. -/
  | subscription {begun heard asked} (h : Dialogue begun heard asked) (k : ResourceKind)
      (hk : k = .endpoint ∨ k = .route) (names : NameSet) (hsome : names ≠ .empty)
      (hnew : ∀ x ∈ names, x ∉ replay asked k.typeUrl) :
      Dialogue begun heard (asked ++ [{ typeUrl := k.typeUrl, names := names }])
  /-- Some names are given up, all of them wanted. -/
  | unsubscription {begun heard asked} (h : Dialogue begun heard asked) (names : NameSet)
      (hsome : names ≠ .empty)
      (hheld : ∀ x ∈ names, x ∈ replay asked ResourceKind.endpoint.typeUrl) :
      Dialogue begun heard
        (asked ++ [{ typeUrl := ResourceKind.endpoint.typeUrl, dropped := names }])
  /-- A response is acknowledged. -/
  | acknowledgement {begun heard asked} (h : Dialogue begun heard asked) (r : Response) :
      Dialogue begun (heard ++ [r]) (asked ++ [{ typeUrl := r.typeUrl, nonce := r.nonce }])

theorem replay_concat (asked : List Draft) (d : Draft) (typeUrl : String) :
    replay (asked ++ [d]) typeUrl =
      if d.typeUrl = typeUrl then d.amend (replay asked typeUrl) else replay asked typeUrl := by
  rw [replay, List.filter_append, List.foldl_append, ← replay]
  by_cases h : d.typeUrl = typeUrl
  · rw [if_pos h, List.filter_cons_of_pos (by simpa using h)]
    rfl
  · rw [if_neg h, List.filter_cons_of_neg (by simpa using h)]
    rfl

theorem replay_concat_of_nameless (asked : List Draft) {d : Draft} (hnames : d.names = .empty)
    (hdropped : d.dropped = .empty) (typeUrl : String) :
    replay (asked ++ [d]) typeUrl = replay asked typeUrl := by
  have hsame : d.amend (replay asked typeUrl) = replay asked typeUrl := by
    ext x
    rw [Draft.amend, hnames, hdropped]
    simp [NameSet.not_mem_empty]
  rw [replay_concat, hsame, ite_self]

theorem replay_opening (asked : List Draft) (typeUrl : String) :
    replay (asked ++ [{ typeUrl := ResourceKind.cluster.typeUrl },
      { typeUrl := ResourceKind.listener.typeUrl }]) typeUrl = replay asked typeUrl := by
  rw [List.append_cons, replay_concat_of_nameless _ rfl rfl, replay_concat_of_nameless _ rfl rfl]

variable {asked : List Draft} {j k : ResourceKind} {names : NameSet} {x : String}

theorem mem_replay_subscription :
    x ∈ replay (asked ++ Ledger.subscription k names) j.typeUrl ↔
      x ∈ replay asked j.typeUrl ∨ j = k ∧ x ∈ names := by
  rw [Ledger.subscription_eq]
  by_cases hnone : names = .empty
  · rw [if_pos hnone, List.append_nil, hnone]
    simp [NameSet.not_mem_empty]
  · rw [if_neg hnone, replay_concat]
    by_cases hj : j = k
    · subst hj
      rw [if_pos rfl, Draft.amend]
      simp [NameSet.not_mem_empty]
    · rw [if_neg (fun h ↦ hj (ResourceKind.typeUrl_inj.mp h).symm)]
      simp [hj]

theorem mem_replay_unsubscription :
    x ∈ replay (asked ++ Ledger.unsubscription k names) j.typeUrl ↔
      x ∈ replay asked j.typeUrl ∧ ¬(j = k ∧ x ∈ names) := by
  rw [Ledger.unsubscription_eq]
  by_cases hnone : names = .empty
  · rw [if_pos hnone, List.append_nil, hnone]
    simp [NameSet.not_mem_empty]
  · rw [if_neg hnone, replay_concat]
    by_cases hj : j = k
    · subst hj
      rw [if_pos rfl, Draft.amend]
      simp [NameSet.not_mem_empty]
    · rw [if_neg (fun h ↦ hj (ResourceKind.typeUrl_inj.mp h).symm)]
      simp [hj]

namespace Dialogue

variable {begun : Bool} {heard : List Response}

theorem nameless (h : Dialogue begun heard asked) {d : Draft} (hd : d ∈ asked)
    (hurl : d.typeUrl = ResourceKind.cluster.typeUrl ∨ d.typeUrl = ResourceKind.listener.typeUrl) :
    d.names = .empty ∧ d.dropped = .empty := by
  induction h with
  | silence => cases hd
  | opening _ ih =>
    rcases List.mem_append.mp hd with hd | hd
    · exact ih hd
    · rcases List.mem_pair.mp hd with rfl | rfl <;> exact ⟨rfl, rfl⟩
  | subscription _ k hk names _ _ ih =>
    rcases List.mem_append.mp hd with hd | hd
    · exact ih hd
    · rw [List.mem_singleton.mp hd, ResourceKind.typeUrl_inj, ResourceKind.typeUrl_inj] at hurl
      rcases hk with rfl | rfl <;> rcases hurl with hurl | hurl <;> cases hurl
  | unsubscription _ names _ _ ih =>
    rcases List.mem_append.mp hd with hd | hd
    · exact ih hd
    · rw [List.mem_singleton.mp hd, ResourceKind.typeUrl_inj, ResourceKind.typeUrl_inj] at hurl
      rcases hurl with hurl | hurl <;> cases hurl
  | acknowledgement _ r ih =>
    rcases List.mem_append.mp hd with hd | hd
    · exact ih hd
    · rw [List.mem_singleton.mp hd]
      exact ⟨rfl, rfl⟩

theorem replay_eq_empty (h : Dialogue begun heard asked) (hk : k = .cluster ∨ k = .listener) :
    replay asked k.typeUrl = .empty := by
  have hurl : k.typeUrl = ResourceKind.cluster.typeUrl ∨
      k.typeUrl = ResourceKind.listener.typeUrl := hk.imp (congrArg _) (congrArg _)
  have hnone : ∀ d ∈ asked.filter (·.typeUrl = k.typeUrl),
      d.amend .empty = .empty := by
    intro d hd
    obtain ⟨hd, hdk⟩ := List.mem_filter.mp hd
    obtain ⟨hnames, hdropped⟩ := h.nameless hd (of_decide_eq_true hdk ▸ hurl)
    rw [Draft.amend, hnames, hdropped]
    rfl
  rw [replay]
  revert hnone
  generalize asked.filter (·.typeUrl = k.typeUrl) = about
  intro hnone
  induction about with
  | nil => rfl
  | cons d rest ih =>
    rw [List.foldl_cons, hnone d List.mem_cons_self]
    exact ih fun d hd ↦ hnone d (List.mem_cons_of_mem _ hd)

end Dialogue

/-! ## The table and the requests -/

/-- A table is what the requests of a dialogue come to. -/
structure Reflects (t : WatchTable) (begun : Bool) (heard : List Response) (asked : List Draft) :
    Prop where
  /-- The requests are those of a dialogue. -/
  dialogue : Dialogue begun heard asked
  /-- Who follows them comes to the names of the table. -/
  replayed : ∀ k, replay asked k.typeUrl = t.names k

namespace Reflects

variable {t : WatchTable} {begun : Bool} {heard : List Response}

theorem new : Reflects .empty false [] [] := ⟨.silence, fun k ↦ (WatchTable.names_empty k).symm⟩

theorem beginWatch {l : Ledger} (h : Reflects l.watches false heard asked) :
    Reflects (l.beginWatch .incremental).watches true heard (asked ++
      [{ typeUrl := ResourceKind.cluster.typeUrl },
        { typeUrl := ResourceKind.listener.typeUrl }]) := by
  refine ⟨h.dialogue.opening, fun k ↦ ?_⟩
  have hnames : (l.beginWatch .incremental).watches.names k =
      if k = .listener then .empty else if k = .cluster then .empty else l.watches.names k :=
    (WatchTable.names_update ..).trans (by rw [WatchTable.names_update]; rfl)
  rw [replay_opening, hnames]
  -- The names that the opening takes away are none.
  split
  · next hk => exact h.dialogue.replay_eq_empty (.inr hk)
  · split
    · next hk => exact h.dialogue.replay_eq_empty (.inl hk)
    · exact h.replayed k

theorem recordAck (h : Reflects t begun heard asked) (k : ResourceKind) (nonce version : String) :
    Reflects (t.recordAck k nonce version) begun heard asked :=
  ⟨h.dialogue, fun j ↦ (h.replayed j).trans (WatchTable.names_recordAck ..).symm⟩

theorem subscribe (h : Reflects t begun heard asked) (hk : k = .endpoint ∨ k = .route)
    (names : List String) :
    Reflects (t.subscribe k names).2 begun heard
      (asked ++ Ledger.subscription k (t.subscribe k names).1) := by
  refine ⟨?_, fun j ↦ ?_⟩
  · rw [Ledger.subscription_eq]
    by_cases hnone : (t.subscribe k names).1 = .empty
    · rw [if_pos hnone, List.append_nil]
      exact h.dialogue
    · rw [if_neg hnone]
      refine h.dialogue.subscription k hk _ hnone ?_
      intro x hx
      rw [h.replayed k]
      exact (WatchTable.mem_subscribe_fst.mp hx).2
  · ext x
    rw [mem_replay_subscription, WatchTable.mem_names_subscribe, WatchTable.mem_subscribe_fst,
      h.replayed j]
    -- Names that were wanted before are not told again, and not needed to be.
    constructor
    · rintro (hx | ⟨rfl, hx, -⟩)
      · exact .inl hx
      · exact .inr ⟨rfl, hx⟩
    · rintro (hx | ⟨rfl, hx⟩)
      · exact .inl hx
      · by_cases hwanted : x ∈ t.names j
        · exact .inl hwanted
        · exact .inr ⟨rfl, hx, hwanted⟩

theorem unsubscribe (h : Reflects t begun heard asked) (names : List String) :
    Reflects (t.unsubscribe .endpoint names).2 begun heard
      (asked ++ Ledger.unsubscription .endpoint (t.unsubscribe .endpoint names).1) := by
  refine ⟨?_, fun j ↦ ?_⟩
  · rw [Ledger.unsubscription_eq]
    by_cases hnone : (t.unsubscribe .endpoint names).1 = .empty
    · rw [if_pos hnone, List.append_nil]
      exact h.dialogue
    · rw [if_neg hnone]
      refine h.dialogue.unsubscription _ hnone ?_
      intro x hx
      rw [h.replayed .endpoint]
      exact (WatchTable.mem_unsubscribe_fst.mp hx).2
  · ext x
    rw [mem_replay_unsubscription, WatchTable.mem_names_unsubscribe,
      WatchTable.mem_unsubscribe_fst, h.replayed j]
    -- Only names that were wanted can be missed.
    constructor
    · rintro ⟨hx, hkept⟩
      refine ⟨hx, ?_⟩
      rintro ⟨rfl, hgone⟩
      exact hkept ⟨rfl, hgone, hx⟩
    · rintro ⟨hx, hkept⟩
      refine ⟨hx, ?_⟩
      rintro ⟨rfl, hgone, -⟩
      exact hkept ⟨rfl, hgone⟩

theorem acknowledge (h : Reflects t begun heard asked) (r : Response) :
    Reflects t begun (heard ++ [r]) (asked ++ [{ typeUrl := r.typeUrl, nonce := r.nonce }]) :=
  ⟨h.dialogue.acknowledgement r, fun k ↦
    (replay_concat_of_nameless asked rfl rfl k.typeUrl).trans (h.replayed k)⟩

/-- The answer to a response tells of each change of the table behind the change. -/
theorem reply {l : Ledger} {p : Profile} (h : Reflects l.watches begun heard asked)
    (hp : p.mode = .incremental) (r : Response) :
    Reflects (l.reply p r).1.watches begun (heard ++ [r]) (asked ++ (l.reply p r).2) := by
  cases hk : ResourceKind.ofTypeUrl? r.typeUrl with
  | none =>
    rw [Ledger.reply_of_none _ hk, hp]
    exact h.acknowledge r
  | some k =>
    rw [Ledger.watches_reply_incremental l hp hk, Ledger.reply_incremental l hp hk,
      ← List.append_assoc, ← List.append_assoc, ← List.append_assoc]
    have hnoted : Reflects (l.noted k r) begun heard asked := h.recordAck k r.nonce r.version
    have hendpoints := hnoted.subscribe (.inl rfl) (p.endpointsWanted r)
    have hroutes := hendpoints.subscribe (.inr rfl) (p.routesWanted r)
    exact (hroutes.unsubscribe (l.released p r)).acknowledge r

end Reflects

/-! ## On every play -/

namespace Session

variable {s : Session} {p : Profile} {keepsStore : Bool}

/-- In every open session of the incremental mode whose requests were all accepted, whoever follows
the requests comes to the names of every subscription. The requests are those of a dialogue: names
are added where they are new and given up where they are held, never none, and what names nothing
opens the session or acknowledges a response. All names are in increasing order, and none is one of
a cluster or of a listener. -/
theorem requests_replayed (hs : Start p keepsStore s) (hp : p.mode = .incremental)
    (moves : List Move) (hopen : (s.play moves).isClosed = false) (h : s.AllAccepted moves) :
    (∀ k, replay (s.play moves).wire k.typeUrl = (s.play moves).ledger.watches.names k) ∧
    Dialogue (s.play moves).watchBegun (s.heard moves) (s.play moves).wire ∧
    (∀ d ∈ (s.play moves).wire,
      d.names.toList.Pairwise (· < ·) ∧ d.dropped.toList.Pairwise (· < ·)) ∧
    ∀ d ∈ (s.play moves).wire, d.typeUrl = ResourceKind.cluster.typeUrl ∨
      d.typeUrl = ResourceKind.listener.typeUrl → d.names = .empty ∧ d.dropped = .empty := by
  have hreflects : Reflects (s.play moves).ledger.watches (s.play moves).watchBegun
      (s.heard moves) (s.play moves).requested := by
    refine hs.requested_induction (P := fun begun rs ds l ↦ Reflects l.watches begun rs ds) .new
      (fun rs ds l h ↦ ?_) (fun begun rs ds l r h ↦ h.reply hp r) moves hopen h.toUnrefused
    rw [hp]
    exact h.beginWatch
  rw [(orderly_play hs.orderly moves).requested_eq h.idle] at hreflects
  refine ⟨hreflects.replayed, hreflects.dialogue, fun d _ ↦ ?_, fun d hd hurl ↦ ?_⟩
  · exact ⟨d.names.increasing, d.dropped.increasing⟩
  · exact hreflects.dialogue.nameless hd hurl

/-- A cluster comes in, and then one that takes its place and shares its endpoint assignment. -/
def replacement : List Move :=
  [.respond (clusterPush "a" [0x61] []), .respond (clusterPush "b" [0x62] ["a"])]

/-- The assignment is asked for once, and then given up although the new cluster needs it: whoever
follows the requests is left without it, as is the session. -/
theorem requests_replayed_replacement :
    (plain .incremental).AllAccepted replacement ∧
      ((plain .incremental).play replacement).wire.map (·.names.toList) =
        [[], [], ["s"], [], [], []] ∧
      replay ((plain .incremental).play replacement).wire ResourceKind.endpoint.typeUrl =
        ((plain .incremental).play replacement).ledger.watches.names .endpoint := by
  have haccepted : (plain .incremental).AllAccepted replacement :=
    { toUnrefused := .of_not_mem_watch (by simp [replacement]) (by decide +kernel)
      idle := by decide +kernel }
  have hreplayed := requests_replayed (.plain .incremental) rfl replacement (by decide +kernel)
    haccepted
  exact ⟨haccepted, by decide +kernel, hreplayed.1 .endpoint⟩

end Session

end ProxyFleet
