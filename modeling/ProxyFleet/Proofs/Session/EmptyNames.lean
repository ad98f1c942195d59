import ProxyFleet.Proofs.Resource.References
import ProxyFleet.Proofs.Session.IncrementalAnswer
import ProxyFleet.Proofs.Session.Traffic

/-!
# Requests for an empty name

On the wire an empty name asks for everything. Whatever listeners name is collected without it, but
the endpoint assignments of clusters are not: a cluster that finds its endpoints by discovery, and
has neither a service name nor a name of its own, needs the assignment of the empty name
(`Cluster.Unnamed`). Nothing else ever brings an empty name up. A session requests one only if such
a cluster came in, and if nothing goes wrong it does so whenever one did
(`requests_empty_name_iff_unnamed`).
-/

namespace ProxyFleet

/-! ## Names that resources give -/

/-- A cluster that finds its endpoints by discovery, and under no name. -/
structure Cluster.Unnamed (c : Cluster) : Prop where
  /-- It finds its endpoints by discovery. -/
  service : c.usesEndpointService = true
  /-- It has no name. -/
  name : c.name = ""
  /-- Its service has none either. -/
  source : ∀ source, c.endpointSource = some source → source.serviceName = ""

theorem Cluster.endpointName?_eq_empty_iff {c : Cluster} :
    c.endpointName? = some "" ↔ c.Unnamed := by
  rw [endpointName?]
  by_cases hservice : c.usesEndpointService = true
  · rw [if_pos hservice]
    cases hsource : c.endpointSource with
    | none =>
      constructor
      · intro hname
        exact ⟨hservice, Option.some_inj.mp hname, fun _ h ↦ by rw [hsource] at h; cases h⟩
      · rintro ⟨-, hname, -⟩
        exact congrArg some hname
    | some source =>
      by_cases hnone : source.serviceName = ""
      · dsimp only
        rw [if_pos hnone]
        constructor
        · intro hname
          refine ⟨hservice, Option.some_inj.mp hname, fun other h ↦ ?_⟩
          rw [hsource] at h
          cases h
          exact hnone
        · rintro ⟨-, hname, -⟩
          exact congrArg some hname
      · dsimp only
        rw [if_neg hnone]
        refine iff_of_false (fun hname ↦ hnone (Option.some_inj.mp hname)) ?_
        rintro ⟨-, -, hall⟩
        exact hnone (hall source hsource)
  · rw [if_neg hservice]
    refine iff_of_false (Option.some_ne_none _).symm ?_
    rintro ⟨hc, -, -⟩
    exact hservice hc

theorem mem_clustersIn {c : Cluster} {resources : List Resource} :
    c ∈ clustersIn resources ↔ .cluster c ∈ resources := by
  rw [clustersIn, List.mem_filterMap]
  constructor
  · rintro ⟨x, hx, hc⟩
    cases x with
    | cluster d =>
      cases hc
      exact hx
    | _ => cases hc
  · exact fun hc ↦ ⟨_, hc, rfl⟩

theorem derivedSubscriptions_empty_iff (k : ResourceKind) (resources : List Resource) :
    (∃ c ∈ derivedSubscriptions k resources, "" ∈ c.2) ↔
      k = .cluster ∧ ∃ c, .cluster c ∈ resources ∧ c.Unnamed := by
  have hexact := exact_listenerNeeds (listenersIn resources)
  cases k with
  | cluster =>
    simp only [derivedSubscriptions, List.mem_singleton, exists_eq_left, mem_endpointNames,
      mem_clustersIn, Cluster.endpointName?_eq_empty_iff, true_and]
  | listener =>
    refine iff_of_false ?_ fun h ↦ by cases h.1
    rintro ⟨c, hc, hempty⟩
    simp only [derivedSubscriptions, List.mem_cons, List.not_mem_nil, or_false] at hc
    rcases hc with rfl | rfl | rfl
    · exact ((hexact.routes "").mp hempty).1 rfl
    · exact ((hexact.secrets "").mp hempty).1 List.mem_cons_self
    · exact ((hexact.extensions "").mp hempty).1 rfl
  | _ =>
    refine iff_of_false ?_ fun h ↦ by cases h.1
    rintro ⟨c, hc, -⟩
    cases hc

/-- A response that brings such a cluster. -/
def Profile.BringsUnnamed (p : Profile) (r : Response) : Prop :=
  ∃ c, .cluster c ∈ p.decoded r ∧ c.Unnamed

section

variable {p : Profile} {r : Response}

theorem mem_endpointsWanted_empty_iff : "" ∈ p.endpointsWanted r ↔ p.BringsUnnamed r := by
  rw [Profile.endpointsWanted, Ledger.endpointsWanted, List.mem_filterMap]
  refine exists_congr fun c ↦ ?_
  rw [mem_clustersIn, Cluster.endpointName?_eq_empty_iff]

theorem not_mem_routesWanted_empty : "" ∉ p.routesWanted r := by
  rw [Profile.routesWanted, Ledger.routesWanted, List.mem_flatMap]
  rintro ⟨x, -, hempty⟩
  exact ((exact_listenerNeeds [x]).routes "" |>.mp (NameSet.mem_toList.mp hempty)).1 rfl

theorem bringsUnnamed_iff {k : ResourceKind} (hk : ResourceKind.ofTypeUrl? r.typeUrl = some k) :
    p.BringsUnnamed r ↔ ∃ c ∈ derivedSubscriptions k (p.decoded r), "" ∈ c.2 := by
  rw [derivedSubscriptions_empty_iff]
  constructor
  · rintro ⟨c, hc, hunnamed⟩
    exact ⟨(Ledger.kind_of_mem_decoded hk hc).symm, c, hc, hunnamed⟩
  · rintro ⟨-, hc⟩
    exact hc

end

/-! ## One response -/

namespace Ledger

/-- An empty name is wanted. -/
def WantsEmpty (l : Ledger) : Prop := ∃ j, "" ∈ l.watches.names j

variable {l : Ledger} {p : Profile} {r : Response}

/-- An empty name that is wanted was wanted before, or comes from a cluster without a name. -/
theorem WantsEmpty.of_reply (h : (l.reply p r).1.WantsEmpty) :
    l.WantsEmpty ∨ p.BringsUnnamed r := by
  obtain ⟨j, h⟩ := h
  cases hp : p.mode with
  | incremental =>
    rw [mem_names_reply_incremental l hp] at h
    rcases h.1 with hbefore | ⟨-, hendpoint⟩ | ⟨-, hroute⟩
    · exact .inl ⟨j, hbefore⟩
    · exact .inr (mem_endpointsWanted_empty_iff.mp hendpoint)
    · exact absurd hroute not_mem_routesWanted_empty
  | complete =>
    cases hk : ResourceKind.ofTypeUrl? r.typeUrl with
    | none =>
      rw [reply_of_none _ hk] at h
      exact .inl ⟨j, h⟩
    | some k =>
      rw [reply_of_some _ hk, hp] at h
      change "" ∈ (l.digestComplete r k (p.decoded r)).1.watches.names j at h
      by_cases hneeded : j ∈ k.needed
      · obtain ⟨⟨_, names⟩, hmem, rfl⟩ :=
          List.mem_map.mp (map_fst_derivedSubscriptions k (p.decoded r) ▸ hneeded)
        rw [names_digestComplete_of_mem _ _ _ _ hmem] at h
        exact .inr ((bringsUnnamed_iff hk).mpr ⟨_, hmem, h⟩)
      · by_cases hlistener : j = .listener
        · rw [hlistener, names_listener_digestComplete] at h
          split at h
          · exact absurd h (NameSet.not_mem_empty "")
          · exact .inl ⟨_, h⟩
        · rw [names_digestComplete_of_not_mem _ _ _ _ hneeded hlistener] at h
          exact .inl ⟨j, h⟩

/-- In the complete mode a request lists no names, or all those that are wanted of some kind. -/
theorem names_of_mem_reply_complete (hp : p.mode = .complete) {d : Draft}
    (hd : d ∈ (l.reply p r).2) :
    d.names = .empty ∨ ∃ j, d.names = (l.reply p r).1.watches.names j := by
  cases hk : ResourceKind.ofTypeUrl? r.typeUrl with
  | none =>
    rw [reply_of_none _ hk, hp] at hd
    rw [List.mem_singleton.mp hd]
    exact .inl rfl
  | some k =>
    rw [reply_of_some _ hk, hp] at hd ⊢
    change d ∈ (l.digestComplete r k (p.decoded r)).2 at hd
    rw [digestComplete_snd, List.mem_append, List.mem_append] at hd
    rcases hd with (hd | hd) | hd
    · obtain ⟨j, -, rfl⟩ := List.mem_map.mp hd
      exact .inr ⟨j, rfl⟩
    · rw [List.mem_singleton.mp hd]
      exact .inr ⟨k, rfl⟩
    · split at hd
      · rw [List.mem_singleton.mp hd]
        exact .inl rfl
      · cases hd

/-- If no empty name was wanted, the answer to a response lists one only for a cluster without a
name. -/
theorem bringsUnnamed_of_mem_reply (h : ¬ l.WantsEmpty) {d : Draft} (hd : d ∈ (l.reply p r).2)
    (hempty : "" ∈ d.names) : p.BringsUnnamed r := by
  cases hp : p.mode with
  | complete =>
    rcases names_of_mem_reply_complete hp hd with hnone | ⟨j, hnames⟩
    · rw [hnone] at hempty
      exact absurd hempty (NameSet.not_mem_empty "")
    · rw [hnames] at hempty
      exact (WantsEmpty.of_reply ⟨j, hempty⟩).resolve_left h
  | incremental =>
    rw [reply_snd_incremental l r hp, List.mem_append, List.mem_singleton,
      Changes.mem_requests] at hd
    rcases hd with (⟨-, rfl⟩ | ⟨-, rfl⟩ | ⟨-, rfl⟩) | rfl
    · have hbrought := (NameSet.mem_diff.mp hempty).1
      exact mem_endpointsWanted_empty_iff.mp (NameSet.mem_ofList.mp hbrought)
    · have hbrought := (NameSet.mem_diff.mp hempty).1
      exact absurd (NameSet.mem_ofList.mp hbrought) not_mem_routesWanted_empty
    · exact absurd hempty (NameSet.not_mem_empty "")
    · exact absurd hempty (NameSet.not_mem_empty "")

/-- If no empty name was wanted, the answer to a response with a cluster without a name lists
one. -/
theorem exists_mem_reply_of_bringsUnnamed (h : ¬ l.WantsEmpty) (hbrings : p.BringsUnnamed r) :
    ∃ d ∈ (l.reply p r).2, "" ∈ d.names := by
  cases hp : p.mode with
  | incremental =>
    have hnew : "" ∈ (l.changes p r).endpoints :=
      NameSet.mem_diff.mpr ⟨NameSet.mem_ofList.mpr (mem_endpointsWanted_empty_iff.mpr hbrings),
        fun hbefore ↦ h ⟨_, hbefore⟩⟩
    have hsome : (l.changes p r).endpoints ≠ .empty := by
      intro hnone
      rw [hnone] at hnew
      exact NameSet.not_mem_empty "" hnew
    refine ⟨{ typeUrl := ResourceKind.endpoint.typeUrl, names := (l.changes p r).endpoints }, ?_,
      hnew⟩
    rw [reply_snd_incremental l r hp]
    exact List.mem_append_left _ (Changes.mem_requests.mpr (.inl ⟨hsome, rfl⟩))
  | complete =>
    cases hk : ResourceKind.ofTypeUrl? r.typeUrl with
    | none =>
      obtain ⟨c, hc, -⟩ := hbrings
      rw [Profile.decoded, hk] at hc
      cases hc
    | some k =>
      obtain ⟨c, hc, hempty⟩ := (bringsUnnamed_iff hk).mp hbrings
      have hchanged : c ∈ l.changedSubscriptions k (p.decoded r) := by
        refine (mem_changedSubscriptions ..).mpr ⟨hc, fun hsame ↦ h ⟨c.1, ?_⟩⟩
        rw [← hsame]
        exact hempty
      refine ⟨{ typeUrl := c.1.typeUrl, names := c.2 }, ?_, hempty⟩
      rw [reply_of_some _ hk, hp]
      change _ ∈ (l.digestComplete r k (p.decoded r)).2
      rw [digestComplete_snd, ← changedSubscriptions_eq_resubscriptions]
      exact List.mem_append_left _ (List.mem_append_left _ (List.mem_map_of_mem hchanged))

theorem not_wantsEmpty_new (keepsStore : Bool) : ¬ (Ledger.new keepsStore).WantsEmpty := by
  rintro ⟨j, hempty⟩
  rw [new, WatchTable.names_empty] at hempty
  exact NameSet.not_mem_empty "" hempty

theorem WantsEmpty.of_beginWatch {m : Mode} (h : (l.beginWatch m).WantsEmpty) : l.WantsEmpty := by
  obtain ⟨j, h⟩ := h
  have hupdated : ∀ (t : WatchTable) k, "" ∈ (t.update k []).names j → "" ∈ t.names j := by
    intro t k hempty
    rw [WatchTable.names_update] at hempty
    split at hempty
    · exact absurd hempty (NameSet.not_mem_empty "")
    · exact hempty
  cases m with
  | complete => exact ⟨j, hupdated _ _ h⟩
  | incremental => exact ⟨j, hupdated _ _ (hupdated _ _ h)⟩

end Ledger

/-! ## Plays -/

namespace Session

variable {s : Session} {p : Profile} {keepsStore : Bool}

theorem not_mem_opening_empty (m : Mode) : ∀ d ∈ m.opening, "" ∉ d.names := by
  cases m <;> decide

theorem mem_asks {m : Move} {d : Draft} (hd : d ∈ s.asks m) : d ∈ s.profile.mode.opening ∨
    ∃ r, s.hears m = [r] ∧ d ∈ (s.ledger.reply s.profile r).2 := by
  cases m with
  | watch =>
    rw [asks] at hd
    split at hd
    · cases hd
    · exact .inl hd
  | respond r =>
    rw [asks] at hd
    split at hd
    · next hidle => exact .inr ⟨r, if_pos hidle, hd⟩
    · cases hd
  | _ => cases hd

theorem Start.exists_heard_of_wantsEmpty (hs : Start p keepsStore s) (moves : List Move)
    (hopen : (s.play moves).isClosed = false) (h : (s.play moves).ledger.WantsEmpty) :
    ∃ r ∈ s.heard moves, p.BringsUnnamed r := by
  refine hs.ledger_induction (P := fun rs l ↦ l.WantsEmpty → ∃ r ∈ rs, p.BringsUnnamed r)
    (fun h ↦ absurd h (Ledger.not_wantsEmpty_new keepsStore)) (fun rs l ih h ↦ ih h.of_beginWatch)
    (fun rs l r ih h ↦ ?_) moves hopen h
  rcases h.of_reply with hbefore | hbrings
  · obtain ⟨q, hq, hbrings⟩ := ih hbefore
    exact ⟨q, List.mem_append_left _ hq, hbrings⟩
  · exact ⟨r, List.mem_append_right _ (List.mem_singleton_self r), hbrings⟩

theorem Start.exists_heard_of_mem_wire (hs : Start p keepsStore s) (moves : List Move) {d : Draft}
    (hd : d ∈ (s.play moves).wire) (hempty : "" ∈ d.names) :
    ∃ r ∈ s.heard moves, p.BringsUnnamed r := by
  obtain ⟨q, hq, rfl⟩ := List.mem_map.mp hd
  rcases (hs.asked_of_made moves).1 q (List.mem_append_left _ hq) with
    hopening | ⟨before, m, after, rfl, hopen, hasked⟩
  · exact absurd hempty (not_mem_opening_empty _ _ hopening)
  rw [heard_append]
  -- What is wanted came in before the move that asks. If an empty name was not wanted then, it is
  -- the answer of this move that brings it up, and the response of this move that it comes from.
  by_cases hwants : (s.play before).ledger.WantsEmpty
  · obtain ⟨r, hr, hbrings⟩ := hs.exists_heard_of_wantsEmpty before hopen hwants
    exact ⟨r, List.mem_append_left _ hr, hbrings⟩
  rcases mem_asks hasked with hopening | ⟨r, hhears, hreply⟩
  · exact absurd hempty (not_mem_opening_empty _ _ hopening)
  · rw [hs.profile_play] at hreply
    have hheard : r ∈ (s.play before).heard (m :: after) := by
      rw [heard, hhears]
      exact List.mem_cons_self
    exact ⟨r, List.mem_append_right _ hheard,
      Ledger.bringsUnnamed_of_mem_reply hwants hreply hempty⟩

/-- If no request is refused or waits, a session requests the empty name as soon as a cluster
without a name comes in. -/
theorem Start.exists_mem_wire_of_heard (hs : Start p keepsStore s) (moves : List Move)
    (hopen : (s.play moves).isClosed = false) (haccepted : s.AllAccepted moves)
    (h : ∃ r ∈ s.heard moves, p.BringsUnnamed r) :
    ∃ d ∈ (s.play moves).wire, "" ∈ d.names := by
  refine hs.trace_induction
    (P := fun rs ds l ↦ l.WantsEmpty ∨ (∃ r ∈ rs, p.BringsUnnamed r) → ∃ d ∈ ds, "" ∈ d.names)
    ?_ (fun rs ds l ih h ↦ ?_) (fun rs ds l r ih h ↦ ?_) moves hopen haccepted (.inr h)
  · rintro (hwants | ⟨r, hr, -⟩)
    · exact absurd hwants (Ledger.not_wantsEmpty_new keepsStore)
    · cases hr
  · obtain ⟨d, hd, hempty⟩ := ih (h.imp_left Ledger.WantsEmpty.of_beginWatch)
    exact ⟨d, List.mem_append_left _ hd, hempty⟩
  · have hbefore : l.WantsEmpty ∨ (∃ r ∈ rs, p.BringsUnnamed r) → ∃ d ∈ ds ++ (l.reply p r).2,
        "" ∈ d.names := by
      intro h
      obtain ⟨d, hd, hempty⟩ := ih h
      exact ⟨d, List.mem_append_left _ hd, hempty⟩
    -- An answer lists only names that are new. An empty name that is wanted already was requested
    -- when it was new.
    by_cases hwants : l.WantsEmpty
    · exact hbefore (.inl hwants)
    have hnow : p.BringsUnnamed r → ∃ d ∈ ds ++ (l.reply p r).2, "" ∈ d.names := by
      intro hbrings
      obtain ⟨d, hd, hempty⟩ := Ledger.exists_mem_reply_of_bringsUnnamed hwants hbrings
      exact ⟨d, List.mem_append_right _ hd, hempty⟩
    rcases h with hafter | ⟨q, hq, hbrings⟩
    · exact hnow (hafter.of_reply.resolve_left hwants)
    · rcases List.mem_append.mp hq with hq | hq
      · exact hbefore (.inr ⟨q, hq, hbrings⟩)
      · exact hnow (List.mem_singleton.mp hq ▸ hbrings)

/-- The subscriptions that a batch gives rise to list an empty name if and only if it is one of
clusters, and one of them has no name to find its endpoints under. A session, in either mode and
from either beginning, only requests an empty name after such a cluster came in, and if it is open
and no request was refused, it has requested one as soon as one came in. -/
theorem requests_empty_name_iff_unnamed (hs : Start p keepsStore s) (moves : List Move) :
    (∀ (k : ResourceKind) (resources : List Resource),
      (∃ c ∈ derivedSubscriptions k resources, "" ∈ c.2) ↔
        k = .cluster ∧ ∃ c, .cluster c ∈ resources ∧ c.Unnamed) ∧
    ((∃ d ∈ (s.play moves).wire, "" ∈ d.names) → ∃ r ∈ s.heard moves, p.BringsUnnamed r) ∧
    ((s.play moves).isClosed = false → s.AllAccepted moves →
      ((∃ d ∈ (s.play moves).wire, "" ∈ d.names) ↔ ∃ r ∈ s.heard moves, p.BringsUnnamed r)) := by
  have honly : (∃ d ∈ (s.play moves).wire, "" ∈ d.names) →
      ∃ r ∈ s.heard moves, p.BringsUnnamed r := by
    rintro ⟨d, hd, hempty⟩
    exact hs.exists_heard_of_mem_wire moves hd hempty
  refine ⟨derivedSubscriptions_empty_iff, honly, fun hopen haccepted ↦ ⟨honly, ?_⟩⟩
  exact hs.exists_mem_wire_of_heard moves hopen haccepted

/-- A response with a cluster of which nothing is said but that it finds its endpoints by
discovery. -/
def unnamedPush : Response :=
  { clusterPush "a" [] [] with resources := [some ⟨ResourceKind.cluster.typeUrl, [0x10, 3]⟩] }

/-- That cluster. -/
def unnamedCluster : Cluster := ⟨"", none, 0, "", some (.standard 3), none⟩

theorem unnamed_unnamedCluster : unnamedCluster.Unnamed := ⟨rfl, rfl, fun _ h ↦ by cases h⟩

theorem allAccepted_unnamedPush (mode : Mode) :
    (plain mode).AllAccepted [.respond unnamedPush] where
  toUnrefused := .of_not_mem_watch (by simp) (by cases mode <;> decide +kernel)
  idle := by cases mode <;> decide +kernel

theorem requests_empty_name_iff_unnamed_unnamedPush :
    Start (.plain .complete) true (plain .complete) ∧
      ((plain .complete).play [.respond unnamedPush]).isClosed = false ∧
      (plain .complete).AllAccepted [.respond unnamedPush] ∧
      ∃ d ∈ ((plain .complete).play [.respond unnamedPush]).wire, "" ∈ d.names := by
  have hopen : ((plain .complete).play [.respond unnamedPush]).isClosed = false := by
    decide +kernel
  obtain ⟨-, -, hiff⟩ :=
    requests_empty_name_iff_unnamed (.plain .complete) [.respond unnamedPush]
  refine ⟨.plain .complete, hopen, allAccepted_unnamedPush .complete,
    (hiff hopen (allAccepted_unnamedPush .complete)).mpr ?_⟩
  have hdecoded :
      Resource.cluster unnamedCluster ∈ (Profile.plain .complete).decoded unnamedPush := by
    decide +kernel
  refine ⟨unnamedPush, ?_, unnamedCluster, hdecoded, unnamed_unnamedCluster⟩
  rw [heard_respond_cons rfl]
  exact List.mem_cons_self

/-- A batch with such a cluster gives rise to a subscription to the empty name, and in neither mode
are all requests without it. -/
theorem not_always_without_empty_name :
    ¬ (∀ (k : ResourceKind) (resources : List Resource),
      ∀ c ∈ derivedSubscriptions k resources, "" ∉ c.2) ∧
    ¬ ∃ mode, ∀ moves : List Move, ∀ d ∈ ((plain mode).play moves).wire, "" ∉ d.names := by
  constructor
  · intro h
    have hderived := h .cluster [.cluster unnamedCluster]
    revert hderived
    decide +kernel
  · rintro ⟨mode, h⟩
    have hwire := h [.respond unnamedPush]
    revert hwire
    cases mode <;> decide +kernel

end Session

end ProxyFleet
