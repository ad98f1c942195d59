import ProxyFleet.Proofs.Resource.References
import ProxyFleet.Proofs.Session.IncrementalAnswer

/-!
# Names that both modes derive

A response with clusters or listeners makes a session ask for endpoint assignments or route
configurations. The complete mode works the names out for the batch as a whole, as one sorted set;
the incremental mode puts the names of one resource behind those of another and leaves order and
repetition to the table of subscriptions. Either way they are the same names, `Profile.derived`.

What a session asks for is read off its requests about the kind, `draftsAbout`. In the incremental
mode one of them lists the derived names that are not wanted yet. In the complete mode one lists all
of them if they are not what is wanted. So as long as nothing is wanted both list the same names, or
say nothing about the kind but what acknowledges the response (`both_modes_ask_for_derived`).
-/

namespace ProxyFleet

/-! ## What requests ask for -/

/-- The requests about a kind. -/
def draftsAbout (j : ResourceKind) (drafts : List Draft) : List Draft :=
  drafts.filter (·.typeUrl = j.typeUrl)

/-- The lists of names of a kind that requests ask for, where they ask for names at all. -/
def listsOf (j : ResourceKind) (drafts : List Draft) : List (List String) :=
  drafts.filterMap fun d ↦
    if d.typeUrl = j.typeUrl ∧ d.names ≠ .empty then some d.names.toList else none

/-- One list with the members of a set, if it has any. -/
def NameSet.listed (names : NameSet) : List (List String) :=
  if names = .empty then [] else [names.toList]

theorem NameSet.flatten_listed (names : NameSet) : names.listed.flatten = names.toList := by
  rw [listed]
  split
  · next h => rw [h]; rfl
  · exact List.flatten_singleton

theorem NameSet.diff_empty (names : NameSet) : names.diff .empty = names := by
  ext x
  simp [not_mem_empty]

section

variable {j : ResourceKind}

theorem draftsAbout_append (drafts more : List Draft) :
    draftsAbout j (drafts ++ more) = draftsAbout j drafts ++ draftsAbout j more :=
  List.filter_append ..

theorem draftsAbout_singleton (d : Draft) :
    draftsAbout j [d] = if d.typeUrl = j.typeUrl then [d] else [] := by
  by_cases hurl : d.typeUrl = j.typeUrl <;> simp [draftsAbout, hurl]

theorem draftsAbout_map {kinds : List ResourceKind} (hkinds : kinds.Nodup)
    (names : ResourceKind → NameSet) :
    draftsAbout j (kinds.map fun k ↦ { typeUrl := k.typeUrl, names := names k }) =
      if j ∈ kinds then [{ typeUrl := j.typeUrl, names := names j }] else [] := by
  induction kinds with
  | nil => rfl
  | cons k rest ih =>
    obtain ⟨hk, hrest⟩ := List.nodup_cons.mp hkinds
    rw [List.map_cons, ← List.singleton_append, draftsAbout_append, draftsAbout_singleton, ih hrest,
      if_congr ResourceKind.typeUrl_inj rfl rfl]
    by_cases hkj : k = j
    · subst hkj
      rw [if_pos rfl, if_neg hk, if_pos List.mem_cons_self, List.append_nil]
    · rw [if_neg hkj, List.nil_append]
      refine if_congr ?_ rfl rfl
      rw [List.mem_cons, or_iff_right (Ne.symm hkj)]

theorem listsOf_append (drafts more : List Draft) :
    listsOf j (drafts ++ more) = listsOf j drafts ++ listsOf j more := List.filterMap_append

theorem listsOf_draftsAbout (drafts : List Draft) :
    listsOf j (draftsAbout j drafts) = listsOf j drafts := by
  rw [draftsAbout, listsOf, List.filterMap_filter]
  refine List.filterMap_congr fun d _ ↦ ?_
  by_cases hurl : d.typeUrl = j.typeUrl <;> simp [hurl]

theorem listsOf_nameless {drafts : List Draft} (h : ∀ d ∈ drafts, d.names = .empty) :
    listsOf j drafts = [] := by
  rw [listsOf, List.filterMap_eq_nil_iff]
  intro d hd
  rw [if_neg fun hasks ↦ hasks.2 (h d hd)]

theorem listsOf_request (names : NameSet) :
    listsOf j (if names = .empty then [] else [{ typeUrl := j.typeUrl, names := names }]) =
      names.listed := by
  rw [NameSet.listed]
  split
  · rfl
  · next hsome => simp [listsOf, hsome]

end

/-! ## The derived names -/

/-- The names of a kind that a batch of resources gives rise to, as the complete mode has them. -/
def derivedNames (k : ResourceKind) (resources : List Resource) (j : ResourceKind) : NameSet :=
  (((derivedSubscriptions k resources).find? (·.1 = j)).map (·.2)).getD .empty

/-- The names of a kind that a response gives rise to. -/
def Profile.derived (p : Profile) (r : Response) (j : ResourceKind) : NameSet :=
  match ResourceKind.ofTypeUrl? r.typeUrl with
  | none => .empty
  | some k => derivedNames k (p.decoded r) j

section

variable {j k : ResourceKind} {resources : List Resource}

theorem mem_derivedSubscriptions_of_needed (h : j ∈ k.needed) :
    (j, derivedNames k resources j) ∈ derivedSubscriptions k resources := by
  rw [← map_fst_derivedSubscriptions k resources] at h
  obtain ⟨c, hc, hcj⟩ := List.mem_map.mp h
  cases hfound : (derivedSubscriptions k resources).find? (·.1 = j) with
  | none => exact absurd (decide_eq_true hcj) (List.find?_eq_none.mp hfound c hc)
  | some found =>
    have hj : found.1 = j := by simpa using List.find?_some hfound
    have hmem : found ∈ derivedSubscriptions k resources := List.mem_of_find?_eq_some hfound
    rw [derivedNames, hfound, ← hj]
    exact hmem

theorem derivedNames_of_not_needed (h : j ∉ k.needed) : derivedNames k resources j = .empty := by
  have hnone : (derivedSubscriptions k resources).find? (·.1 = j) = none := by
    rw [List.find?_eq_none]
    intro c hc hcj
    exact h (of_decide_eq_true hcj ▸ mem_needed_of_mem_derivedSubscriptions hc)
  rw [derivedNames, hnone]
  rfl

end

section

variable {k : ResourceKind} {resources : List Resource} (h : ∀ x ∈ resources, x.kind = k)

include h

theorem ofList_endpointsWanted :
    .ofList (Ledger.endpointsWanted resources) = derivedNames k resources .endpoint := by
  by_cases hk : k = .cluster
  · subst hk
    rfl
  · have hcluster : .endpoint ∈ ResourceKind.cluster.needed := by decide
    have hneeded : .endpoint ∉ k.needed := fun hneeded ↦
      hk (ResourceKind.eq_of_mem_needed hneeded hcluster)
    rw [derivedNames_of_not_needed hneeded, Ledger.endpointsWanted, clustersIn_eq_nil h hk]
    rfl

/-- What listeners need one by one is what they need together. -/
theorem ofList_routesWanted :
    .ofList (Ledger.routesWanted resources) = derivedNames k resources .route := by
  by_cases hk : k = .listener
  · subst hk
    -- Either way a name is found if some listener refers to it, and an empty one never is.
    ext name
    change _ ↔ name ∈ (listenerNeeds (listenersIn resources)).routes
    rw [NameSet.mem_ofList, Ledger.routesWanted, List.mem_flatMap,
      (exact_listenerNeeds (listenersIn resources)).routes]
    simp only [NameSet.mem_toList, (exact_listenerNeeds [_]).routes, List.mem_singleton,
      exists_eq_left]
    constructor
    · rintro ⟨x, hx, hname, hrefers⟩
      exact ⟨hname, x, hx, hrefers⟩
    · rintro ⟨hname, x, hx, hrefers⟩
      exact ⟨x, hx, hname, hrefers⟩
  · have hlistener : .route ∈ ResourceKind.listener.needed := by decide
    have hneeded : .route ∉ k.needed := fun hneeded ↦
      hk (ResourceKind.eq_of_mem_needed hneeded hlistener)
    rw [derivedNames_of_not_needed hneeded, Ledger.routesWanted, listenersIn_eq_nil h hk]
    rfl

end

namespace Profile

variable (p : Profile) (r : Response)

theorem ofList_endpointsWanted : .ofList (p.endpointsWanted r) = p.derived r .endpoint := by
  rw [derived, endpointsWanted]
  cases hk : ResourceKind.ofTypeUrl? r.typeUrl with
  | none => rw [decoded, hk]; rfl
  | some k => exact ProxyFleet.ofList_endpointsWanted fun x ↦ Ledger.kind_of_mem_decoded hk

theorem ofList_routesWanted : .ofList (p.routesWanted r) = p.derived r .route := by
  rw [derived, routesWanted]
  cases hk : ResourceKind.ofTypeUrl? r.typeUrl with
  | none => rw [decoded, hk]; rfl
  | some k => exact ProxyFleet.ofList_routesWanted fun x ↦ Ledger.kind_of_mem_decoded hk

end Profile

/-! ## What a response makes a session ask for -/

namespace Ledger

section

variable (l : Ledger) {p : Profile} (r : Response) {j : ResourceKind}

/-- In the incremental mode a session says of a kind which derived names are not wanted yet, and
which wanted ones it gives up. -/
theorem draftsAbout_reply_incremental (hp : p.mode = .incremental)
    (hj : j = .endpoint ∨ j = .route) : draftsAbout j (l.reply p r).2 =
      (if (p.derived r j).diff (l.watches.names j) = .empty then []
        else [{ typeUrl := j.typeUrl, names := (p.derived r j).diff (l.watches.names j) }]) ++
      (if j = .endpoint ∧ (l.changes p r).dropped ≠ .empty then
        [{ typeUrl := j.typeUrl, dropped := (l.changes p r).dropped }] else []) ++
      if r.typeUrl = j.typeUrl then [{ typeUrl := r.typeUrl, nonce := r.nonce }] else [] := by
  have hendpoints : (l.changes p r).endpoints =
      (p.derived r .endpoint).diff (l.watches.names .endpoint) := by
    rw [changes, Profile.ofList_endpointsWanted]
  have hroutes : (l.changes p r).routes = (p.derived r .route).diff (l.watches.names .route) := by
    rw [changes, Profile.ofList_routesWanted]
  rw [reply_snd_incremental l r hp, draftsAbout_append, draftsAbout_singleton, Changes.requests,
    draftsAbout_append, draftsAbout_append, hendpoints, hroutes]
  simp only [apply_ite (draftsAbout j), draftsAbout_singleton, ResourceKind.typeUrl_inj]
  rcases hj with rfl | rfl <;> simp [draftsAbout]

theorem listsOf_reply_incremental (hp : p.mode = .incremental) (hj : j = .endpoint ∨ j = .route) :
    listsOf j (l.reply p r).2 = ((p.derived r j).diff (l.watches.names j)).listed := by
  rw [← listsOf_draftsAbout, draftsAbout_reply_incremental l r hp hj, listsOf_append,
    listsOf_append, listsOf_request, listsOf_nameless, listsOf_nameless, List.append_nil,
    List.append_nil]
  · intro d hd
    split at hd
    · rw [List.mem_singleton.mp hd]
    · cases hd
  · intro d hd
    split at hd
    · rw [List.mem_singleton.mp hd]
    · cases hd

/-- Where nothing is wanted and nothing derived there is nothing to say. -/
theorem draftsAbout_reply_incremental_of_empty (hp : p.mode = .incremental)
    (hj : j = .endpoint ∨ j = .route) (hempty : l.watches.names j = .empty)
    (hderived : p.derived r j = .empty) : draftsAbout j (l.reply p r).2 =
      if r.typeUrl = j.typeUrl then [{ typeUrl := r.typeUrl, nonce := r.nonce }] else [] := by
  have hdropped : ¬(j = .endpoint ∧ (l.changes p r).dropped ≠ .empty) := by
    rintro ⟨rfl, hsome⟩
    apply hsome
    ext x
    refine iff_of_false (fun hx ↦ ?_) (NameSet.not_mem_empty x)
    -- What is given up is wanted, at the latest since the response.
    rcases (l.lead_reply r hp).dropped x hx with hwanted | hnew
    · rw [hempty] at hwanted
      exact NameSet.not_mem_empty x hwanted
    · rw [changes, Profile.ofList_endpointsWanted, hderived] at hnew
      exact NameSet.not_mem_empty x (NameSet.mem_diff.mp hnew).1
  rw [draftsAbout_reply_incremental l r hp hj, hempty, NameSet.diff_empty, if_pos hderived,
    if_neg hdropped]
  rfl

theorem names_digestComplete_of_empty {k : ResourceKind} {resources : List Resource}
    (hj : j ≠ .listener) (hempty : l.watches.names j = .empty) :
    (l.digestComplete r k resources).1.watches.names j = derivedNames k resources j := by
  by_cases hneeded : j ∈ k.needed
  · exact l.names_digestComplete_of_mem r k resources (mem_derivedSubscriptions_of_needed hneeded)
  · rw [names_digestComplete_of_not_mem _ _ _ _ hneeded hj, derivedNames_of_not_needed hneeded,
      hempty]

theorem draftsAbout_resubscriptions {before after : WatchTable}
    (hj : j ∈ ResourceKind.everNeeded) (hempty : before.names j = .empty) :
    draftsAbout j (before.resubscriptions after) =
      if after.names j = .empty then []
      else [{ typeUrl := j.typeUrl, names := after.names j }] := by
  have hkinds : ResourceKind.everNeeded.Nodup := by decide
  rw [WatchTable.resubscriptions, draftsAbout_map (hkinds.filter _)]
  by_cases hnames : after.names j = .empty <;> simp [hj, hempty, hnames]

/-- The acknowledgement repeats what is wanted of its kind, but no kind of resource needs itself. -/
theorem draftsAbout_reply_complete (hp : p.mode = .complete) (hj : j = .endpoint ∨ j = .route)
    (hempty : l.watches.names j = .empty) : draftsAbout j (l.reply p r).2 =
      (if p.derived r j = .empty then []
        else [{ typeUrl := j.typeUrl, names := p.derived r j }]) ++
      if r.typeUrl = j.typeUrl then
        [{ typeUrl := r.typeUrl, version := r.version, nonce := r.nonce }] else [] := by
  have hlistener : ResourceKind.listener ≠ j := by rcases hj with rfl | rfl <;> decide
  have heverNeeded : j ∈ ResourceKind.everNeeded := by rcases hj with rfl | rfl <;> decide
  rw [Profile.derived]
  cases hk : ResourceKind.ofTypeUrl? r.typeUrl with
  | none =>
    rw [reply_of_none _ hk, draftsAbout_singleton, hp, if_pos rfl]
    rfl
  | some k =>
    have hafter : (l.digestComplete r k (p.decoded r)).1.watches.names j =
        derivedNames k (p.decoded r) j := l.names_digestComplete_of_empty r hlistener.symm hempty
    -- If the acknowledgement is about the kind in question then nothing of it is wanted after all.
    have hack : draftsAbout j
        [{ typeUrl := r.typeUrl, version := r.version, nonce := r.nonce
           names := (l.digestComplete r k (p.decoded r)).1.watches.names k }] =
        if r.typeUrl = j.typeUrl then
          [{ typeUrl := r.typeUrl, version := r.version, nonce := r.nonce }] else [] := by
      rw [draftsAbout_singleton]
      by_cases hurl : r.typeUrl = j.typeUrl
      · obtain rfl : j = k := by
          rw [hurl, ResourceKind.ofTypeUrl?_typeUrl] at hk
          exact Option.some_inj.mp hk
        rw [if_pos hurl, if_pos hurl, hafter, derivedNames_of_not_needed j.not_mem_needed_self]
      · rw [if_neg hurl, if_neg hurl]
    have hlisteners : draftsAbout j (if k = .cluster ∧ ¬ l.clustersSeen then
        [{ typeUrl := ResourceKind.listener.typeUrl }] else []) = [] := by
      split
      · rw [draftsAbout_singleton, if_neg (mt ResourceKind.typeUrl_inj.mp hlistener)]
      · rfl
    rw [reply_of_some _ hk, hp]
    change draftsAbout j (l.digestComplete r k (p.decoded r)).2 = _
    rw [digestComplete_snd, draftsAbout_append, draftsAbout_append, hack, hlisteners,
      draftsAbout_resubscriptions heverNeeded hempty, hafter, List.append_nil]

theorem listsOf_reply_complete (hp : p.mode = .complete) (hj : j = .endpoint ∨ j = .route)
    (hempty : l.watches.names j = .empty) :
    listsOf j (l.reply p r).2 = (p.derived r j).listed := by
  rw [← listsOf_draftsAbout, draftsAbout_reply_complete l r hp hj hempty, listsOf_append,
    listsOf_request, listsOf_nameless, List.append_nil]
  intro d hd
  split at hd
  · rw [List.mem_singleton.mp hd]
  · cases hd

end

/-- Sessions of both modes that hear a response with the same resources derive the same endpoint
assignments and route configurations from it. Whatever is wanted already, the incremental mode asks
for the derived names that are not, in increasing order, with one request, or with none if there are
no such names; a request about the kind that lists no names gives some up or acknowledges the
response. If no names of the kind are wanted yet, both modes ask for the same list, and if nothing
is derived then neither says anything about the kind but what acknowledges the response. -/
theorem both_modes_ask_for_derived {p q : Profile} (hp : p.mode = .incremental)
    (hq : q.mode = .complete) (hdecoders : q.decoders = p.decoders) {r r' : Response}
    (hurl : r'.typeUrl = r.typeUrl) (hpayloads : r'.payloads = r.payloads) (l l' : Ledger)
    {j : ResourceKind} (hj : j = .endpoint ∨ j = .route) :
    listsOf j (l.reply p r).2 = ((q.derived r' j).diff (l.watches.names j)).listed ∧
    (listsOf j (l.reply p r).2).flatten =
      (q.derived r' j).toList.filter (· ∉ l.watches.names j) ∧
    (q.derived r' j).toList.Pairwise (· < ·) ∧
    (∀ d ∈ draftsAbout j (l.reply p r).2, d.names = .empty →
      d.dropped ≠ .empty ∨ d = { typeUrl := r.typeUrl, nonce := r.nonce }) ∧
    (l.watches.names j = .empty → l'.watches.names j = .empty →
      listsOf j (l'.reply q r').2 = (q.derived r' j).listed ∧
      listsOf j (l.reply p r).2 = listsOf j (l'.reply q r').2 ∧
      draftsAbout j (l'.reply q r').2 =
        (if q.derived r' j = .empty then []
          else [{ typeUrl := j.typeUrl, names := q.derived r' j }]) ++
        (if r'.typeUrl = j.typeUrl then
          [{ typeUrl := r'.typeUrl, version := r'.version, nonce := r'.nonce }] else []) ∧
      (q.derived r' j = .empty → draftsAbout j (l.reply p r).2 =
        if r.typeUrl = j.typeUrl then [{ typeUrl := r.typeUrl, nonce := r.nonce }] else [])) := by
  have hdecoded : q.decoded r' = p.decoded r := by
    rw [Profile.decoded, Profile.decoded, hurl, hpayloads, hdecoders]
  have hderived : q.derived r' j = p.derived r j := by
    rw [Profile.derived, Profile.derived, hurl, hdecoded]
  have hlists := listsOf_reply_incremental l r hp hj
  rw [← hderived] at hlists
  refine ⟨hlists, ?_, (q.derived r' j).increasing, fun d hd hnames ↦ ?_, fun hempty hempty' ↦ ?_⟩
  · rw [hlists, NameSet.flatten_listed]
    rfl
  · have hd := (List.mem_filter.mp hd).1
    rw [reply_snd_incremental l r hp, List.mem_append, List.mem_singleton,
      Changes.mem_requests] at hd
    rcases hd with (⟨hsome, rfl⟩ | ⟨hsome, rfl⟩ | ⟨hsome, rfl⟩) | hack
    · exact absurd hnames hsome
    · exact absurd hnames hsome
    · exact .inl hsome
    · exact .inr hack
  · have hlists' := listsOf_reply_complete l' r' hq hj hempty'
    rw [hempty, NameSet.diff_empty] at hlists
    refine ⟨hlists', hlists.trans hlists'.symm, draftsAbout_reply_complete l' r' hq hj hempty', ?_⟩
    rw [hderived]
    exact draftsAbout_reply_incremental_of_empty l r hp hj hempty

/-- A response in the incremental mode with two clusters of one service. -/
def twoOfOneService : Response := clusterPush "a" [0x61, 0x62] ["c"]

/-- The same clusters in the complete mode. -/
def allOfOneService : Response := clusterPush "b" [0x61, 0x62] []

/-- Both modes ask for the assignment of the service, once. -/
theorem both_modes_ask_for_derived_oneService :
    listsOf .endpoint ((Ledger.new true).reply (.plain .incremental) twoOfOneService).2 = [["s"]] ∧
      listsOf .endpoint ((Ledger.new false).reply (.plain .complete) allOfOneService).2 =
        [["s"]] := by
  have hurl : allOfOneService.typeUrl = twoOfOneService.typeUrl := rfl
  have hpayloads : allOfOneService.payloads = twoOfOneService.payloads := rfl
  have hmodes := both_modes_ask_for_derived (p := .plain .incremental) (q := .plain .complete)
    rfl rfl rfl hurl hpayloads (Ledger.new true) (Ledger.new false) (.inl rfl)
  obtain ⟨hlists', hsame, -⟩ := hmodes.2.2.2.2 rfl rfl
  have hderived : ((Profile.plain .complete).derived allOfOneService .endpoint).listed =
      [["s"]] := by decide +kernel
  rw [hsame, hlists', hderived]
  exact ⟨rfl, rfl⟩

end Ledger

end ProxyFleet
